import Schematic.Schema.Kind

namespace Schematic

/-- A step from a value to a part of it: by a field or a key, or by a position. -/
inductive Place where
  | name (t : Text)
  | index (n : Int)
deriving DecidableEq, Inhabited, Repr

inductive Fault where
  /-- Neither fields nor attributes can be looked up. -/
  | noObject
  | noTag
  | unknownTag (shown : Text)
  | missing
  /-- Fields of the class were expected. -/
  | noFieldsOf (className : Text)
  | noDictionary
  | noSequence
  | notCallable
  | noText
  | noUnicode
  | noInteger
  | fractional
  | unreadableInteger
  | integerTooLong
  | notFinite
  | noNumber
  | unreadableNumber
  | noBoolean
  | unreadableBoolean
  | notAmong (words : List Text)
  | frozen
  | tooDeep
deriving DecidableEq, Inhabited, Repr

/-- Words in quotes, with commas between them and `or` before the last. -/
def alternatives (words : List Text) : Text :=
  match words.reverse with
  | [] => []
  | [word] => "'" ++ word ++ "'"
  | last :: others =>
    Text.join ", " (others.reverse.map fun word => "'" ++ word ++ "'") ++ " or '" ++ last ++ "'"

namespace Fault

def tag : Fault → Text
  | noObject => "model_attributes_type"
  | noTag => "union_tag_not_found"
  | unknownTag _ => "union_tag_invalid"
  | missing => "missing"
  | noFieldsOf _ => "model_type"
  | noDictionary => "dict_type"
  | noSequence => "tuple_type"
  | notCallable => "callable_type"
  | noText => "string_type"
  | noUnicode => "string_unicode"
  | noInteger => "int_type"
  | fractional => "int_from_float"
  | unreadableInteger => "int_parsing"
  | integerTooLong => "int_parsing_size"
  | notFinite => "finite_number"
  | noNumber => "float_type"
  | unreadableNumber => "float_parsing"
  | noBoolean => "bool_type"
  | unreadableBoolean => "bool_parsing"
  | notAmong _ => "literal_error"
  | frozen => "frozen_instance"
  | tooDeep => "recursion_depth_exceeded"

def message : Fault → Text
  | noObject => "Input should be a valid dictionary or object to extract fields from"
  | noTag => "Unable to extract tag using discriminator 'kind'"
  | unknownTag shown =>
    "Input tag '" ++ shown ++ "' found using 'kind' does not match any of the expected tags: " ++
      Text.join ", " (Kind.all.map fun k => "'" ++ k.tag ++ "'")
  | missing => "Field required"
  | noFieldsOf className => "Input should be a valid dictionary or instance of " ++ className
  | noDictionary => "Input should be a valid dictionary"
  | noSequence => "Input should be a valid tuple"
  | notCallable => "Input should be callable"
  | noText => "Input should be a valid string"
  | noUnicode => "Input should be a valid string, unable to parse raw data as a unicode string"
  | noInteger => "Input should be a valid integer"
  | fractional => "Input should be a valid integer, got a number with a fractional part"
  | unreadableInteger => "Input should be a valid integer, unable to parse string as an integer"
  | integerTooLong => "Unable to parse input string as an integer, exceeded maximum size"
  | notFinite => "Input should be a finite number"
  | noNumber => "Input should be a valid number"
  | unreadableNumber => "Input should be a valid number, unable to parse string as a number"
  | noBoolean => "Input should be a valid boolean"
  | unreadableBoolean => "Input should be a valid boolean, unable to interpret input"
  | notAmong words => "Input should be " ++ alternatives words
  | frozen => "Instance is frozen"
  | tooDeep => "Recursion error - maximum validation depth exceeded"

end Fault

structure Issue where
  fault : Fault
  location : List Place
deriving DecidableEq, Inhabited, Repr

/-- The issue as one of a part at `place`. -/
def Issue.within (place : Place) (i : Issue) : Issue := { i with location := place :: i.location }

inductive Checked (α : Type) where
  | ok (a : α)
  | faulty (issues : List Issue)

namespace Checked

variable {α β : Type}

def fault (f : Fault) : Checked α := faulty [⟨f, []⟩]

def map (f : α → β) : Checked α → Checked β
  | ok a => ok (f a)
  | faulty issues => faulty issues

def apply (f : Checked (α → β)) (a : Checked α) : Checked β :=
  match f, a with
  | ok f, ok a => ok (f a)
  | ok _, faulty issues => faulty issues
  | faulty issues, ok _ => faulty issues
  | faulty issues, faulty more => faulty (issues ++ more)

instance : Applicative Checked where
  pure := ok
  map := map
  seq f a := apply f (a ())

def within (place : Place) : Checked α → Checked α
  | ok a => ok a
  | faulty issues => faulty (issues.map (·.within place))

/-- Check the items of a list, of which the first has position `n`. -/
def each (check : Nat → α → Checked β) : (n : Nat) → List α → Checked (List β)
  | _, [] => ok []
  | n, a :: as => List.cons <$> within (.index n) (check n a) <*> each check (n + 1) as

end Checked
end Schematic
