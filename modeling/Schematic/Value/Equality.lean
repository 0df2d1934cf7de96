import Schematic.Schema.Kind

/-! Numbers of all classes are equal if they stand for the same number, lists are not equal to tuples, sets
and dictionaries have no order. What is no number equals nothing, not even itself; but parts of containers and
fields of nodes count as equal also if they are the same object. Two nodes are equal if they are the same or
agree in kind and fields. A comparison can fail: at a number that signals, and where two containers that
contain themselves are compared without end. Dictionaries are lists of entries whose keys are pairwise
unequal; putting an entry under a key that is there keeps key and place. -/
namespace Schematic

inductive Comparison where
  | equal
  | different
  | fails (e : Raised)

namespace Comparison

def ofBool (b : Bool) : Comparison := if b then equal else different

/-- The outcome of the first, unless that finds no difference. -/
def and (first second : Comparison) : Comparison :=
  match first with
  | equal => second
  | c => c

/-- The truth value of a comparison, unless that fails. -/
def outcome : Comparison → Except Raised Bool
  | equal => .ok true
  | different => .ok false
  | fails e => .error e

def isEqual : Comparison → Bool
  | equal => true
  | _ => false

end Comparison

def Raised.signal : Raised := .mk "InvalidOperation" [.text "[<class 'decimal.InvalidOperation'>]"]

def Raised.endlessComparison : Raised :=
  .mk "RecursionError" [.text "maximum recursion depth exceeded in comparison"]

def Value.quantity? : Value → Option Quantity
  | .bool b => some (.finite (.ofInt (if b then 1 else 0)))
  | .int n => some (.finite (.ofInt n))
  | .float x => some (.ofFloat x)
  | .exotic e => e.quantity
  | _ => none

def Quantity.compare (x y : Quantity) : Comparison :=
  let isReal : Quantity → Bool
    | .complex _ _ => false
    | _ => true
  if (x.signals && isReal y) || (y.signals && isReal x) then .fails .signal else .ofBool (x.same y)

def Exotic.same (a b : Exotic) : Bool :=
  a.className = b.className && a.written = b.written && !a.isUnique && !b.isUnique

namespace TextOperand

def same : TextOperand → TextOperand → Bool
  | none, none => true
  | int m, int n => m = n
  | text s, text t => s = t
  | _, _ => false

end TextOperand

def NumberOperand.toValue : NumberOperand → Value
  | none => .null
  | int n => .int n
  | float x => .float x

def TextCheck.same (a b : TextCheck) : Bool :=
  a.rule = b.rule && a.operand.same b.operand && a.flags = b.flags

/-- Whether two values that are no containers are the same object, where that can be told. -/
def Value.isSameObject : Value → Value → Bool
  | .float x, .float y => x.isNaN && x = y
  | .exotic e, .exotic f => e.identity = f.identity
  | .callable i _, .callable j _ => i = j
  | .foreign i _ _ _, .foreign j _ _ _ => i = j
  | _, _ => false

/-- Comparison of values without parts that are not the same object. -/
def Value.compareAtom (a b : Value) : Comparison :=
  match a.quantity?, b.quantity? with
  | some x, some y => x.compare y
  | some _, none | none, some _ => .different
  | none, none =>
    .ofBool (match a, b with
      | .absent, .absent => true
      | .null, .null => true
      | .text s, .text t => s = t
      | .bytes s, .bytes t => s = t
      | .pattern s f, .pattern t g => s = t && f = g
      | .exotic e, .exotic f => e.same f
      | .callable i _, .callable j _ => i = j
      | .foreign i _ _ _, .foreign j _ _ _ => i = j
      | _, _ => false)

/-- Whether two values that are no containers are the same object or equal. -/
def Value.compareAtomOrSame (a b : Value) : Comparison :=
  if a.isSameObject b then .equal else a.compareAtom b

def NumberOperand.compare (a b : NumberOperand) : Comparison := a.toValue.compareAtomOrSame b.toValue

def NumberCheck.compare (a b : NumberCheck) : Comparison :=
  (Comparison.ofBool (a.rule = b.rule)).and
    ((a.operand.compare b.operand).and (.ofBool (a.inclusive = b.inclusive)))

def compareChecks : List NumberCheck → List NumberCheck → Comparison
  | [], [] => .equal
  | c :: cs, d :: ds => (c.compare d).and (compareChecks cs ds)
  | _, _ => .different

def Value.compareCyclicList (i : Identity) : Value → Comparison
  | .cyclicList j => if i = j then .equal else .fails .endlessComparison
  | .list [v] => v.compareCyclicList i
  | _ => .different

/-- A dictionary that contains itself beside another value. -/
def Value.compareCyclicDict (i : Identity) : Value → Comparison
  | .cyclicDict j => if i = j then .equal else .fails .endlessComparison
  | .dict [(.text name, v)] => if name = ("self" : Text) then v.compareCyclicDict i else .different
  | _ => .different

mutual

def Value.compare : Value → Value → Comparison
  | .list items, b => match b with
    | .list others => if items.length = others.length then compareItems items others else .different
    | .cyclicList i => (Value.list items).compareCyclicList i
    | _ => .different
  | .tuple items, b => match b with
    | .tuple others => compareItems items others
    | _ => .different
  | .set items, b | .frozenset items, b => match b with
    | .set others | .frozenset others =>
      if items.length = others.length then compareMembers items others else .different
    | _ => .different
  | .dict entries, b => match b with
    | .dict others => if entries.length = others.length then compareEntries entries others else .different
    | .cyclicDict i => (Value.dict entries).compareCyclicDict i
    | _ => .different
  | .cyclicList i, b => b.compareCyclicList i
  | .cyclicDict i, b => b.compareCyclicDict i
  | .node d, b => match b with
    | .node e => d.compare e
    | _ => .different
  | a, b => a.compareAtomOrSame b

def Descriptor.compare : Descriptor → Descriptor → Comparison
  | .mk i description body, .mk j description' body' =>
    if i = j then .equal
    else if body.toKind ≠ body'.toKind then .different
    else (description.compare description').and (body.compare body')

def Body.compare : Body → Body → Comparison
  | .string checks, b => match b with
    | .string others => .ofBool (checks.length = others.length && (checks.zip others).all fun (c, o) => c.same o)
    | _ => .different
  | .number checks, b => match b with
    | .number others => compareChecks checks others
    | _ => .different
  | .primitive p, b => match b with
    | .primitive q => .ofBool (p = q)
    | _ => .different
  | .array e low high exact, b => match b with
    | .array e' low' high' exact' =>
      (e.compare e').and ((low.compare low').and ((high.compare high').and (exact.compare exact')))
    | _ => .different
  | .object properties, b => match b with
    | .object others =>
      if properties.length = others.length then compareEntries properties others else .different
    | _ => .different
  | .enum options, b => match b with
    | .enum others => .ofBool (options = others)
    | _ => .different
  | .union options, b => match b with
    | .union others => compareNodes options others
    | _ => .different
  | .intersection left right, b => match b with
    | .intersection left' right' => (left.compare left').and (right.compare right')
    | _ => .different
  | .record key value, b => match b with
    | .record key' value' => (key.compare key').and (value.compare value')
    | _ => .different
  | .tuple items rest, b => match b with
    | .tuple others rest' => (compareNodes items others).and (rest.compare rest')
    | _ => .different
  | .literal value, b => match b with
    | .literal value' => value.compare value'
    | _ => .different
  | .promise inner, b => match b with
    | .promise inner' => inner.compare inner'
    | _ => .different
  | .modified m inner, b => match b with
    | .modified m' inner' => (inner.compare inner').and (m.compare m')
    | _ => .different
  | .lazy i _, b => match b with
    | .lazy j _ => .ofBool (i = j)
    | _ => .different

def Modifier.compare : Modifier → Modifier → Comparison
  | .optional, m => .ofBool (m.toKind = .optional)
  | .nullable, m => .ofBool (m.toKind = .nullable)
  | .readonly, m => .ofBool (m.toKind = .readonly)
  | .default value factory, m => match m with
    | .default value' factory' => (value.compare value').and (factory.compare factory')
    | _ => .different
  | .catching value, m => match m with
    | .catching value' => value.compare value'
    | _ => .different
  | .effect function kind, m => match m with
    | .effect function' kind' => (function.compare function').and (.ofBool (kind = kind'))
    | _ => .different
  | .branded name, m => match m with
    | .branded name' => .ofBool (name = name')
    | _ => .different

def compareItems : List Value → List Value → Comparison
  | [], [] => .equal
  | v :: vs, w :: ws => (v.compare w).and (compareItems vs ws)
  | _, _ => .different

def compareNodes : List Descriptor → List Descriptor → Comparison
  | [], [] => .equal
  | d :: ds, e :: es => (d.compare e).and (compareNodes ds es)
  | _, _ => .different

/-- Whether each of the first values is equal to one of the second. -/
def compareMembers : List Value → List Value → Comparison
  | [], _ => .equal
  | v :: vs, others =>
    (Comparison.ofBool (others.any fun w => (v.compare w).isEqual)).and (compareMembers vs others)

/-- Whether each of the first entries has one with an equal key and an equal value among the second. -/
def compareEntries : List (Value × Value) → List (Value × Value) → Comparison
  | [], _ => .equal
  | (k, v) :: rest, others =>
    (match others.find? fun (entry : Value × Value) => (k.compare entry.1).isEqual with
      | some (_, w) => v.compare w
      | none => .different).and (compareEntries rest others)

end

/-- Whether two values are the same object or equal; a comparison that fails counts as a no. -/
def Value.same (a b : Value) : Bool := (a.compare b).isEqual

/-- Whether two values are equal. What is no number does not even equal itself. -/
def Value.equals (a b : Value) : Comparison :=
  match a.quantity?, b.quantity? with
  | some x, some y => x.compare y
  | _, _ => a.compare b

namespace Entries

def get? (key : Value) (entries : List (Value × Value)) : Option Value :=
  (entries.find? fun entry => entry.1.same key).map (·.2)

/-- Put `value` under `key`: in the place of an equal key that is there, or else at the end. -/
def put (entries : List (Value × Value)) (key value : Value) : List (Value × Value) :=
  match entries with
  | [] => [(key, value)]
  | (k, v) :: rest => if k.same key then (k, value) :: rest else (k, v) :: put rest key value

def putAll (entries more : List (Value × Value)) : List (Value × Value) :=
  more.foldl (fun done entry => put done entry.1 entry.2) entries

def ofList (entries : List (Value × Value)) : List (Value × Value) := putAll [] entries

/-- The entries of `base`, each with the value that `given` has under its key, if it has one. -/
def overlay (base given : List (Value × Value)) : List (Value × Value) :=
  base.map fun (key, value) => (key, (get? key given).getD value)

end Entries

/-- The first of each class of equal values, in order. -/
def distinct (items : List Value) : List Value :=
  items.foldl (fun kept v => if kept.any (·.same v) then kept else kept ++ [v]) []

/-- Whether a value counts as true where a truth value is wanted. -/
def Value.truthy : Value → Bool
  | .absent | .null => false
  | .bool b => b
  | .int n => n ≠ 0
  | .float x => !x.isZero
  | .text t => !t.isEmpty
  | .bytes bs => !bs.isEmpty
  | .list items | .tuple items | .set items | .frozenset items => !items.isEmpty
  | .dict entries => !entries.isEmpty
  | .exotic e => match e.quantity with
    | some q => !q.isZero
    | none => true
  | _ => true

end Schematic
