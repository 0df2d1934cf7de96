import Schematic.Text.Basic

namespace Schematic

inductive Level where
  | debug
  | info
  | warning
  | error
  | critical
deriving DecidableEq, Inhabited, Repr

namespace Level

def number : Level → Int
  | debug => 10
  | info => 20
  | warning => 30
  | error => 40
  | critical => 50

def name : Level → Text
  | debug => "DEBUG"
  | info => "INFO"
  | warning => "WARNING"
  | error => "ERROR"
  | critical => "CRITICAL"

def all : List Level := [debug, info, warning, error, critical]

def nameOf (n : Int) : Text :=
  match all.find? (·.number = n) with
  | some level => level.name
  | none => if n = 0 then "NOTSET" else "Level " ++ Text.ofInt n

def isNamed (n : Int) : Bool := !(nameOf n).hasGap

end Level

structure Record where
  level : Level
  message : Text
deriving DecidableEq, Inhabited, Repr

/-- What is given to a logger: a message at a level of any number. -/
structure Entry where
  level : Int
  message : Text
deriving DecidableEq, Inhabited, Repr

def Record.entry (r : Record) : Entry := ⟨r.level.number, r.message⟩

end Schematic
