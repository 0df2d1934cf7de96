import Schematic.Value.Iteration

/-! An exception is made of any arguments, but for a few classes. Failures to read or to write text take five
arguments or four of certain kinds, groups take a message and exceptions, and misread scripts take, as a
second argument, where the misreading is. An argument that is not what is demanded gives another exception. -/
namespace Schematic

inductive Demand where
  | text
  | bytes
  /-- An integer of 64 bits. -/
  | index
  /-- A sequence of exceptions. -/
  | exceptions
deriving DecidableEq, Repr

namespace Raised

def typeFailure (message : Text) : Raised := .mk "TypeError" [.text message]

def valueFailure (message : Text) : Raised := .mk "ValueError" [.text message]

end Raised

def Value.integer? : Value → Option Int
  | .int n => some n
  | .bool b => some (if b then 1 else 0)
  | _ => none

namespace Demand

/-- What is raised where `v` is argument number `position` of a function that demands something. -/
def refusal? (function : Text) (position : Nat) (v : Value) : Demand → Option Raised
  | text => match v with
    | .text _ => none
    | v =>
      let given : Text := match v with
        | .null => "None"
        | v => v.typeName
      some (.typeFailure (function ++ "argument " ++ Text.ofNat position ++ " must be str, not " ++ given))
  | index => match v.integer? with
    | some n =>
      if -0x8000000000000000 ≤ n && n < 0x8000000000000000 then none
      else some (.mk "OverflowError" [.text "Python int too large to convert to C ssize_t"])
    | none => some (.typeFailure ("'" ++ v.typeName ++ "' object cannot be interpreted as an integer"))
  | bytes => match v with
    | .bytes _ => none
    | v => some (.typeFailure ("a bytes-like object is required, not '" ++ v.typeName ++ "'"))
  | exceptions =>
    let ofItems (items : List Value) : Option Raised :=
      some (.valueFailure (if items.isEmpty then "second argument (exceptions) must be a non-empty sequence"
        else "Item 0 of second argument (exceptions) is not an exception"))
    match v with
    | .text _ | .bytes _ | .list _ | .tuple _ | .cyclicList _ => ofItems (v.iterated?.getD [])
    | _ => some (.typeFailure "second argument (exceptions) must be a sequence")

/-- Whether a demand is looked at only when all others are met. -/
def isLate : Demand → Bool
  | bytes | exceptions => true
  | text | index => false

end Demand

namespace Raised

def textFailures : List (Text × List Demand) :=
  [("UnicodeDecodeError", [.text, .bytes, .index, .index, .text]),
   ("UnicodeEncodeError", [.text, .text, .index, .index, .text]),
   ("UnicodeTranslateError", [.text, .index, .index, .text])]

def misreadings : List Text := ["SyntaxError", "IndentationError", "TabError"]

/-- How a function is called in messages, and what it demands, where exceptions of a class demand something of
each argument. -/
def demands? (className : Text) : Option (Text × List Demand) :=
  if className = ("ExceptionGroup" : Text) || className = ("BaseExceptionGroup" : Text) then
    some ("BaseExceptionGroup.__new__()", [.text, .exceptions])
  else (textFailures.find? (·.1 = className)).map fun (_, demands) => ([], demands)

/-- What is raised where the place of a misreading is not given by a file, a line, a column and a text, or with
another line and column. -/
def placeRefusal? (place : Value) : Option Raised :=
  let counted (bound : Text) (given : Nat) : Option Raised :=
    some (typeFailure ("function takes " ++ bound ++ " arguments (" ++ Text.ofNat given ++ " given)"))
  match place.iterated? with
  | none => some (.notIterable place)
  | some parts =>
    if parts.length < 4 then counted "at least 4" parts.length
    else if 6 < parts.length then counted "at most 6" parts.length
    else if parts.length = 5 then some (typeFailure "end_offset must be provided when end_lineno is provided")
    else none

/-- What is raised instead of an exception that cannot be made of its arguments. -/
def refusal? (className : Text) (arguments : List Value) : Option Raised :=
  match demands? className, arguments with
  | some (function, demands), arguments =>
    if arguments.length ≠ demands.length then
      let name : Text := if function.isEmpty then "function" else function
      some (typeFailure (name ++ " takes exactly " ++ Text.ofNat demands.length ++ " arguments (" ++
        Text.ofNat arguments.length ++ " given)"))
    else
      let place : Text := if function.isEmpty then [] else function ++ " "
      let pairs := (demands.zip arguments).zipIdx 1
      let first? (late : Bool) : Option Raised :=
        (pairs.filter fun p => p.1.1.isLate = late).findSome? fun ((demand, v), n) => demand.refusal? place n v
      (first? false).or (first? true)
  | none, [_, place] => if misreadings.contains className then placeRefusal? place else none
  | none, _ => none

end Raised
end Schematic
