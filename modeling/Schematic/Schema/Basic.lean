import Schematic.Decimal.Quantity

/-! A descriptor says what a schema accepts; a value is anything that may stand in one: a default, a literal,
or what a getter returns, descriptors among them. A descriptor is a tree. It can come back to itself only
through a `lazy` node, whose getter names one of the shared definitions.

Each node has an `Identity`. Mentions of one definition have one identity, a node that is written elsewhere or
built anew has another. -/
namespace Schematic

/-- The unit a node was written in, its place there, and which building of that unit it belongs
to. -/
structure Identity where
  unit : Nat
  place : List Nat
  copy : Nat
deriving DecidableEq, Inhabited, Repr

/-- The identity of the child at position `n`. -/
def Identity.child (i : Identity) (n : Nat) : Identity := { i with place := n :: i.place }

inductive Primitive where
  | boolean
  | date
  | null
  | undefined
  | any
  | unknown
  | never
  | void
  | bigint
  | function
deriving DecidableEq, Inhabited, Repr

inductive TextRule where
  | min
  | max
  | length
  | email
  | url
  | uuid
  | regex
  | startsWith
  | endsWith
deriving DecidableEq, Inhabited, Repr

inductive NumberRule where
  | min
  | max
  | int
  | multipleOf
deriving DecidableEq, Inhabited, Repr

inductive EffectKind where
  | transform
  | refinement
  | preprocess
deriving DecidableEq, Inhabited, Repr

inductive TextOperand where
  | none
  | int (n : Int)
  | text (t : Text)
deriving DecidableEq, Inhabited, Repr

inductive NumberOperand where
  | none
  | int (n : Int)
  | float (x : Binary64)
deriving DecidableEq, Inhabited, Repr

structure TextCheck where
  rule : TextRule
  operand : TextOperand
  flags : Text
deriving DecidableEq, Inhabited, Repr

structure NumberCheck where
  rule : NumberRule
  operand : NumberOperand
  inclusive : Bool
deriving DecidableEq, Inhabited, Repr

/-- How a value converts to a number where one is wanted. -/
inductive Conversion where
  | none
  /-- To the integer it stands for, or else to the floating point number `x`, if it is not too large for
  one. -/
  | number (x : Option Binary64)
deriving DecidableEq, Inhabited, Repr

/-- A value of a class that documents know only by its text. -/
structure Exotic where
  className : Text
  /-- How it is shown, and how it is shown inside a container. -/
  text : Text
  written : Text
  identity : Identity
  /-- Whether it is equal only to itself. -/
  isUnique : Bool
  quantity : Option Quantity
  conversion : Conversion
  /-- Whether validation looks for fields in it. -/
  mayHoldFields : Bool
deriving DecidableEq, Inhabited, Repr

mutual

inductive Value where
  | absent
  | null
  | bool (b : Bool)
  | int (n : Int)
  | float (x : Binary64)
  | text (t : Text)
  | bytes (bs : List UInt8)
  | list (items : List Value)
  | tuple (items : List Value)
  | set (items : List Value)
  | frozenset (items : List Value)
  | dict (entries : List (Value × Value))
  /-- A list that contains itself. -/
  | cyclicList (identity : Identity)
  /-- A dictionary that contains itself. -/
  | cyclicDict (identity : Identity)
  /-- A compiled regular expression; `flags` are letters. -/
  | pattern (source flags : Text)
  | exotic (e : Exotic)
  /-- An object of a class whose texts cannot be put together. -/
  | unshown (className : Text) (why : Obstacle)
  | callable (identity : Identity) (action : Action)
  /-- An object that is no descriptor, with some attributes. Reading one of those that are `unreadable` raises an
  exception. -/
  | foreign (identity : Identity) (className : Text) (attributes : List (Text × Value))
      (unreadable : List (Text × Obstacle))
  | node (d : Descriptor)

inductive Action where
  | returns (v : Value)
  | raises (e : Raised)
  /-- Return the definition of this number, the same each time. -/
  | shares (definition : Nat)
  /-- Return a new building of the definition of this number each time. -/
  | rebuilds (definition : Nat)

inductive Raised where
  | mk (className : Text) (arguments : List Value)

/-- A wrapper that does not change which values are described, but how they are treated. -/
inductive Modifier where
  | optional
  | nullable
  /-- `factory` is null where there is none. -/
  | default (value factory : Value)
  | readonly
  | catching (value : Value)
  | effect (function : Value) (kind : EffectKind)
  | branded (name : Text)

/-- The fields of a node, apart from its description. Fields that some operations set without
looking at them hold any value: array lengths, properties of an object, the rest of a tuple. -/
inductive Body where
  | string (checks : List TextCheck)
  | number (checks : List NumberCheck)
  | primitive (p : Primitive)
  | array (element : Descriptor) (minLength maxLength exactLength : Value)
  | object (properties : List (Value × Value))
  | enum (options : List Text)
  | union (options : List Descriptor)
  | intersection (left right : Descriptor)
  | record (key value : Descriptor)
  | tuple (items : List Descriptor) (rest : Value)
  | literal (value : Value)
  | promise (inner : Descriptor)
  | modified (modifier : Modifier) (inner : Descriptor)
  | lazy (identity : Identity) (getter : Action)

/-- A node. Its description is null or a text, unless it was set without looking at it. -/
inductive Descriptor where
  | mk (identity : Identity) (description : Value) (body : Body)

end

instance : Inhabited Value := ⟨.null⟩
instance : Inhabited Action := ⟨.returns .null⟩
instance : Inhabited Raised := ⟨.mk [] []⟩
instance : Inhabited Modifier := ⟨.optional⟩
instance : Inhabited Body := ⟨.primitive .any⟩
instance : Inhabited Descriptor := ⟨.mk default .null default⟩

namespace Raised

def className : Raised → Text
  | mk className _ => className

def arguments : Raised → List Value
  | mk _ arguments => arguments

end Raised

namespace Descriptor

def identity : Descriptor → Identity
  | mk identity _ _ => identity

def description : Descriptor → Value
  | mk _ description _ => description

def body : Descriptor → Body
  | mk _ _ body => body

end Descriptor

/-- The shared definitions of a schema, by number. Any value may be defined; a definition that cannot be
read is raised where it is used. -/
abbrev Definitions := List (Except Raised Value)

namespace Definitions

def get (defs : Definitions) (n : Nat) : Except Raised Value := defs.getD n (.ok .null)

end Definitions

mutual

/-- Apply `f` to the identity of every node. -/
def Value.mapIdentity (f : Identity → Identity) : Value → Value
  | .list items => .list (mapIdentities f items)
  | .tuple items => .tuple (mapIdentities f items)
  | .set items => .set (mapIdentities f items)
  | .frozenset items => .frozenset (mapIdentities f items)
  | .dict entries => .dict (mapEntryIdentities f entries)
  | .cyclicList i => .cyclicList (f i)
  | .cyclicDict i => .cyclicDict (f i)
  | .exotic e => .exotic { e with identity := f e.identity }
  | .callable i action => .callable (f i) (action.mapIdentity f)
  | .foreign i className attributes unreadable =>
    .foreign (f i) className (mapAttributeIdentities f attributes) unreadable
  | .node d => .node (d.mapIdentity f)
  | v => v

def Action.mapIdentity (f : Identity → Identity) : Action → Action
  | .returns v => .returns (v.mapIdentity f)
  | .raises e => .raises (e.mapIdentity f)
  | .shares n => .shares n
  | .rebuilds n => .rebuilds n

def Raised.mapIdentity (f : Identity → Identity) : Raised → Raised
  | .mk className arguments => .mk className (mapIdentities f arguments)

def Modifier.mapIdentity (f : Identity → Identity) : Modifier → Modifier
  | .default value factory => .default (value.mapIdentity f) (factory.mapIdentity f)
  | .catching value => .catching (value.mapIdentity f)
  | .effect function kind => .effect (function.mapIdentity f) kind
  | m => m

def Body.mapIdentity (f : Identity → Identity) : Body → Body
  | .array e low high exact =>
    .array (e.mapIdentity f) (low.mapIdentity f) (high.mapIdentity f) (exact.mapIdentity f)
  | .object properties => .object (mapEntryIdentities f properties)
  | .union options => .union (mapNodeIdentities f options)
  | .intersection left right => .intersection (left.mapIdentity f) (right.mapIdentity f)
  | .record key value => .record (key.mapIdentity f) (value.mapIdentity f)
  | .tuple items rest => .tuple (mapNodeIdentities f items) (rest.mapIdentity f)
  | .literal value => .literal (value.mapIdentity f)
  | .promise inner => .promise (inner.mapIdentity f)
  | .modified m inner => .modified (m.mapIdentity f) (inner.mapIdentity f)
  | .lazy i getter => .lazy (f i) (getter.mapIdentity f)
  | b => b

def Descriptor.mapIdentity (f : Identity → Identity) : Descriptor → Descriptor
  | .mk i description body => .mk (f i) (description.mapIdentity f) (body.mapIdentity f)

def mapIdentities (f : Identity → Identity) : List Value → List Value
  | [] => []
  | v :: vs => v.mapIdentity f :: mapIdentities f vs

def mapEntryIdentities (f : Identity → Identity) : List (Value × Value) → List (Value × Value)
  | [] => []
  | (k, v) :: rest => (k.mapIdentity f, v.mapIdentity f) :: mapEntryIdentities f rest

def mapAttributeIdentities (f : Identity → Identity) : List (Text × Value) → List (Text × Value)
  | [] => []
  | (name, v) :: rest => (name, v.mapIdentity f) :: mapAttributeIdentities f rest

def mapNodeIdentities (f : Identity → Identity) : List Descriptor → List Descriptor
  | [] => []
  | d :: ds => d.mapIdentity f :: mapNodeIdentities f ds

end

/-- Building number `copy` of what was written in `unit`; nodes that it shares stay as they are. -/
def Value.rebuild (unit copy : Nat) (v : Value) : Value :=
  v.mapIdentity fun i => if i.unit = unit then { i with copy := copy } else i

/-- The outcome of a call when the shared definitions are `defs`; `copy` numbers what it may build. -/
def Action.call (defs : Definitions) (copy : Nat) : Action → Except Raised Value
  | .returns v => .ok v
  | .raises e => .error e
  | .shares n => defs.get n
  | .rebuilds n => (defs.get n).map (·.rebuild n copy)

end Schematic
