import Schematic.Validation.Data
import Schematic.Value.Iteration
import Schematic.Value.Key

namespace Schematic

inductive CallFailure where
  | invalid (issues : List Issue)
  | raised (e : Raised)

def CallFailure.toRaised : CallFailure → Raised
  | invalid _ => .mk "ValidationError" []
  | raised e => e

abbrev Outcome (α : Type) := Except CallFailure α

def Checked.outcome {α : Type} : Checked α → Outcome α
  | .ok a => .ok a
  | .faulty issues => .error (.invalid issues)

def typeError {α : Type} (message : Text) : Outcome α := .error (.raised (.mk "TypeError" [.text message]))

def enumerated (names : List Text) : Text :=
  let quoted : List Text := names.map fun name => "'" ++ name ++ "'"
  match quoted with
  | [] => []
  | [one] => one
  | [one, two] => one ++ " and " ++ two
  | parts => Text.join ", " parts.dropLast ++ ", and " ++ parts.getLastD []

structure Parameters where
  names : List Text
  /-- How many must be given. -/
  required : Nat
  /-- Whether any number more may be given. -/
  open_ : Bool
deriving DecidableEq, Repr

namespace Parameters

def ofNames (names : List Text) : Parameters := ⟨names, names.length, false⟩

def plural (n : Nat) : Text := if n = 1 then "" else "s"

/-- Too many were given; `bound` arguments come with the function itself. -/
def tooMany (p : Parameters) (function : Text) (bound given : Nat) : Text :=
  let most := p.names.length + bound
  let least := p.required + bound
  let range : Text :=
    if least = most then Text.ofNat most ++ " positional argument" ++ plural most
    else "from " ++ Text.ofNat least ++ " to " ++ Text.ofNat most ++ " positional arguments"
  let verb : Text := if given + bound = 1 then "was" else "were"
  function ++ "() takes " ++ range ++ " but " ++ Text.ofNat (given + bound) ++ " " ++ verb ++ " given"

def tooFew (p : Parameters) (function : Text) (given : Nat) : Text :=
  let missing := (p.names.take p.required).drop given
  function ++ "() missing " ++ Text.ofNat missing.length ++ " required positional argument" ++
    plural missing.length ++ ": " ++ enumerated missing

def check (p : Parameters) (function : Text) (bound given : Nat) : Outcome Unit :=
  if given < p.required then typeError (p.tooFew function given)
  else if !p.open_ && p.names.length < given then typeError (p.tooMany function bound given)
  else .ok ()

end Parameters

namespace Value

def iterate (v : Value) : Outcome (List Value) :=
  match v.iterated? with
  | some items => .ok items
  | none => .error (.raised (.notIterable v))

/-- The key and the value of item number `n` of a list of pairs. -/
def keyedPair (n : Nat) (v : Value) : Outcome (Value × Value) :=
  match v.iterated? with
  | none => typeError ("cannot convert dictionary update sequence element #" ++ Text.ofNat n ++ " to a sequence")
  | some [key, value] =>
    match key.keyFailure? with
    | none => .ok (key, value)
    | some e => .error (.raised e)
  | some items =>
    .error (.raised (.mk "ValueError" [.text ("dictionary update sequence element #" ++ Text.ofNat n ++
      " has length " ++ Text.ofNat items.length ++ "; 2 is required")]))

/-- Call what a value that is no node has under a name. -/
def callAttribute (defs : Definitions) (copy : Nat) (v : Value) (name : Text) : Outcome Value :=
  match v.attribute? name with
  | some (.callable _ action) => (action.call defs copy).mapError .raised
  | some w => .error (.raised (.notCallable w))
  | none => .error (.raised (.noAttribute v name))

/-- The entries of an object that tells its keys; it cannot tell the values under them. -/
def keyedEntries (defs : Definitions) (copy : Nat) (v : Value) : Outcome Fields := do
  let keys ← v.callAttribute defs copy "keys"
  match keys.iterated? with
  | some [] => return []
  | some _ => typeError ("'" ++ v.typeName ++ "' object is not subscriptable")
  | none => typeError (v.typeName ++ ".keys() returned a non-iterable (type " ++ keys.typeName ++ ")")

/-- A dictionary of a value: itself, or the pairs that it goes through. -/
def toDictionary (defs : Definitions) (copy : Nat) (v : Value) : Outcome Fields :=
  match v.entries?, v.attribute? "keys" with
  | some entries, _ => .ok entries
  | none, some _ => v.keyedEntries defs copy
  | none, none => do
    let pairs ← (← v.iterate).zipIdx.mapM fun (item, n) => keyedPair n item
    return Entries.ofList pairs

/-- The entries of a dictionary or of an object that tells its keys. -/
def mapping (defs : Definitions) (copy : Nat) (v : Value) : Outcome Fields :=
  let refused : Outcome Fields := typeError ("'" ++ v.typeName ++ "' object is not a mapping")
  match v.entries?, v.attribute? "keys" with
  | some entries, _ => .ok entries
  | none, none => refused
  | none, some _ =>
    match v.keyedEntries defs copy with
    | .error (.raised e) => if e.className = ("AttributeError" : Text) then refused else .error (.raised e)
    | r => r

end Value
end Schematic
