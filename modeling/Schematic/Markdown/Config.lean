import Schematic.Log.Record

namespace Schematic

structure Config where
  titleHeading : Text
  sectionHeading : Text
  subsectionHeading : Text
  tableColumns : List Text
  requiredYes : Text
  requiredNo : Text
  validationsLabel : Text
  itemSchemaLabel : Text
  valueSchemaLabel : Text
  defaultSchemaName : Text
  recursionMarker : Text
  depthMarker : Text
  unresolvedMarker : Text
  maxDepth : Int
  escapeTablePipes : Bool
  enableLogger : Bool
  logLevel : Int
deriving DecidableEq, Inhabited, Repr

structure Settings where
  titleHeading : Option Text := none
  sectionHeading : Option Text := none
  subsectionHeading : Option Text := none
  tableColumns : Option (List Text) := none
  requiredYes : Option Text := none
  requiredNo : Option Text := none
  validationsLabel : Option Text := none
  itemSchemaLabel : Option Text := none
  valueSchemaLabel : Option Text := none
  defaultSchemaName : Option Text := none
  recursionMarker : Option Text := none
  depthMarker : Option Text := none
  unresolvedMarker : Option Text := none
  maxDepth : Option Int := none
  escapeTablePipes : Option Bool := none
  enableLogger : Option Bool := none
  logLevel : Option Int := none
deriving DecidableEq, Inhabited, Repr

namespace Config

def standard : Config where
  titleHeading := "##"
  sectionHeading := "###"
  subsectionHeading := "###"
  tableColumns := ["Property", "Type", "Required", "Description", "Default"]
  requiredYes := "Yes"
  requiredNo := "No"
  validationsLabel := "**Validations:**"
  itemSchemaLabel := "**Item Schema:**"
  valueSchemaLabel := "**Value Schema:**"
  defaultSchemaName := "Schema"
  recursionMarker := "<recursive>"
  depthMarker := "<truncated>"
  unresolvedMarker := "<unresolved>"
  maxDepth := 64
  escapeTablePipes := false
  enableLogger := true
  logLevel := Level.warning.number

/-- The given settings over those of `base`. -/
def overlay (base : Config) (given : Settings) : Config where
  titleHeading := given.titleHeading.getD base.titleHeading
  sectionHeading := given.sectionHeading.getD base.sectionHeading
  subsectionHeading := given.subsectionHeading.getD base.subsectionHeading
  tableColumns := given.tableColumns.getD base.tableColumns
  requiredYes := given.requiredYes.getD base.requiredYes
  requiredNo := given.requiredNo.getD base.requiredNo
  validationsLabel := given.validationsLabel.getD base.validationsLabel
  itemSchemaLabel := given.itemSchemaLabel.getD base.itemSchemaLabel
  valueSchemaLabel := given.valueSchemaLabel.getD base.valueSchemaLabel
  defaultSchemaName := given.defaultSchemaName.getD base.defaultSchemaName
  recursionMarker := given.recursionMarker.getD base.recursionMarker
  depthMarker := given.depthMarker.getD base.depthMarker
  unresolvedMarker := given.unresolvedMarker.getD base.unresolvedMarker
  maxDepth := given.maxDepth.getD base.maxDepth
  escapeTablePipes := given.escapeTablePipes.getD base.escapeTablePipes
  enableLogger := given.enableLogger.getD base.enableLogger
  logLevel := given.logLevel.getD base.logLevel

end Config
end Schematic
