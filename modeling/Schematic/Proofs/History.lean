import Schematic.Proofs.Course
import Schematic.Script.Import

/-! Runs of the program are started one after another, each on the tree that the last one left. What a file
holds then is what it held at first, changed by every run that succeeds and whose output it is. This needs
texts that can be written: a document that cannot be empties the file that it was to replace. -/
namespace Schematic.Cli

structure Delivery where
  path : Path
  append : Bool
  document : Text
deriving DecidableEq, Repr

namespace Delivery

/-- Whether the document can be written and the path can be printed. -/
def IsWritable (d : Delivery) : Prop := d.document.IsWritable ∧ d.path.toText.IsWritable

instance (d : Delivery) : Decidable d.IsWritable :=
  inferInstanceAs (Decidable (d.document.IsWritable ∧ d.path.toText.IsWritable))

def amend (p : Path) (d : Delivery) (content : Option (List UInt8)) : Option (List UInt8) :=
  if p = d.path then some (amended d.append content d.document) else content

end Delivery

section Deliveries

variable {here : Surroundings} {t : FileTree} {a : Arguments}

end Deliveries

/-- What a run that succeeds or not makes of the content of a path. -/
def heldAfter (p : Path) (delivery : Option Delivery) (succeeds : Bool) (content : Option (List UInt8)) :
    Option (List UInt8) :=
  match delivery, succeeds with
  | some d, true => d.amend p content
  | _, _ => content

@[simp] theorem heldAfter_false (p : Path) (delivery : Option Delivery) (content : Option (List UInt8)) :
    heldAfter p delivery false content = content := by
  cases delivery <;> rfl

/-- One run of the program: what log lines can show, what is around the run, and the arguments. -/
structure Invocation where
  scene : Scene
  here : Surroundings
  texts : List Text

namespace Invocation

def run (i : Invocation) (t : FileTree) : Result := Cli.run i.scene i.here t i.texts

end Invocation

def history (t : FileTree) : List Invocation → FileTree
  | [] => t
  | i :: rest => history (i.run t).tree rest

namespace Arguments

end Arguments

namespace Invocation

end Invocation

namespace Collected

end Collected

end Schematic.Cli
