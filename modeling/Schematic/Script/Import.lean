import Schematic.Load.Loader
import Schematic.Script.Run

namespace Schematic.Script

/-- What a script has under a name, if it defined `names`. -/
def exportOf (names : Names) (t : Text) : Export :=
  match names.get? t with
  | some (.value (.node d)) => .schema (.node d)
  | some _ => .other
  | none => if givenNames.contains t then .other else .missing

def importedScript (fileName : Text) (bytes : List UInt8) : Imported :=
  match run fileName bytes with
  | .error e => if isPassedOn e then .stopped e else .failed e
  | .ok done => .module ⟨done.definitions, exportOf done.names⟩

def importer : Importer := fun t path =>
  (t, if (".py" : Text).isSuffixOf path.name then importedScript path.name ((t.content? path).getD []) else .unsupported)

end Schematic.Script
