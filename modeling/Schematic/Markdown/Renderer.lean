import Schematic.Markdown.Config
import Schematic.Markdown.Page
import Schematic.Markdown.Table
import Schematic.Schema.Resolution
import Schematic.Schema.Signature
import Schematic.Schema.Summary

/-! A descriptor is unwrapped and shown as a block of Markdown by its kind, and so are its children. The
identities of the nodes on the way down are kept: meeting one of them again gives the recursion marker.
Nesting below the depth limit gives the depth marker. A block can fail only at a table row with a cell that is
no text, which a well-formed descriptor does not have. -/
namespace Schematic

abbrev Rendering := Except Raised Page

namespace Config

def signature (config : Config) (v : Value) : Text := v.signature config.maxDepth config.depthMarker

/-- What is shown in place of a value that is not resolved. -/
def marker (config : Config) : Mark → Text
  | .recursion => config.recursionMarker
  | .unresolved => config.unresolvedMarker
  | .gap why => [.gap why]

def subsection (config : Config) (title : Text) : Text := config.subsectionHeading ++ " " ++ title ++ "\n\n"

end Config

/-- `lead`, with the description below it if there is one. -/
def withDescription (lead : Text) (description : Value) : Text :=
  match description with
  | .null => lead
  | d => lead ++ "\n\n" ++ d.shown

/-- A block of one line. A description that cannot be read is missed before the signature is made. -/
def Value.oneLine (signature : Text) (v : Value) : Text :=
  match v.obstacleAt? "description", v.descriptionOrNull with
  | some why, _ => [.gap why]
  | none, .null => signature
  | none, d => signature ++ " - " ++ d.shown

def Value.identity? : Value → Option Identity
  | .node d => some d.identity
  | _ => none

/-- Whether a value is one of the nodes on the way down. -/
def Value.isAmong (ancestors : List Identity) (v : Value) : Bool :=
  match v.identity? with
  | some i => ancestors.contains i
  | none => false

/-- Objects, unions and intersections get a section of their own inside arrays and records. -/
def Descriptor.isComplex (d : Descriptor) : Bool :=
  match d.body with
  | .object _ | .union _ | .intersection _ _ => true
  | _ => false

def cellText (config : Config) (index : Nat) (cell : Value) : Except Raised Text :=
  match cell with
  | .text t => .ok (if config.escapeTablePipes then Table.escape t else t)
  | v =>
    .error (if config.escapeTablePipes then .noAttribute v "replace"
      else .mk "TypeError" [.text ("sequence item " ++ Text.ofNat index ++ ": expected str instance, " ++
        v.typeName ++ " found")])

/-- The signature in the row of a property, or the marker of what went wrong. -/
def rowType (defs : Definitions) (config : Config) (copy : Nat) (property : Value) : Text :=
  match property.unwrap defs config.maxDepth copy with
  | .ok (canonical, _) => config.signature canonical
  | .error failure => config.marker failure.mark

def Value.mayBeLeftOut (defs : Definitions) (property : Value) : Bool :=
  property.isOptionalNode || property.can .optional defs

def propertyCells (defs : Definitions) (config : Config) (copy : Nat) (key property : Value) : List Value :=
  let description := property.descriptionOrNull
  [key,
   .text (rowType defs config copy property),
   .text (if property.mayBeLeftOut defs then config.requiredNo else config.requiredYes),
   (match description with
    | .null => .text []
    | d => d),
   .text (property.summary defs).default.token]

def propertyRow (defs : Definitions) (config : Config) (copy : Nat) (key property : Value) : Except Raised Text :=
  ((propertyCells defs config copy key property).zipIdx.mapM fun (cell, i) => cellText config i cell).map Table.row

def objectBlock (defs : Definitions) (config : Config) (copy : Nat) (properties : List (Value × Value))
    (description : Value) : Except Raised Text :=
  let lead : Text := match description with
    | .null => []
    | d => d.shown ++ "\n\n"
  (properties.mapM fun entry => propertyRow defs config copy entry.1 entry.2).map fun (rows : List Text) =>
    lead ++ Table.header config.tableColumns ++ rows.flatten

def bullet (t : Text) : Text := "- " ++ t ++ "\n"

def codeBullet (t : Text) : Text := "- `" ++ t ++ "`\n"

/-- A list of constraint lines under their label, if there are any. -/
def constraintList (config : Config) : List Text → Text
  | [] => []
  | lines => "\n\n" ++ config.validationsLabel ++ "\n" ++ lines.flatMap bullet

/-- A section with the block of a complex child; nothing for any other child. -/
def childSection (label : Text) (child : Value → Rendering) (d : Descriptor) : Rendering :=
  if d.isComplex then (child (.node d)).map (Page.ofText ("\n\n" ++ label ++ "\n\n") ++ ·) else .ok .empty

/-- The blocks of several children, each under a heading with its number. -/
def numberedBlocks (config : Config) (label : Text) (child : Value → Rendering) :
    (number : Nat) → List Descriptor → Rendering
  | _, [] => .ok .empty
  | number, d :: ds => do
    let block ← child (.node d)
    let more ← numberedBlocks config label child (number + 1) ds
    let title := label ++ " " ++ Text.ofNat number ++ ": " ++ config.signature (.node d)
    return Page.ofText (config.subsection title) ++ block ++ Page.ofText "\n\n" ++ more

def restBlock (config : Config) (child : Value → Rendering) (rest : Value) : Rendering :=
  match rest with
  | .null => .ok .empty
  | r => (child r).map (Page.ofText (config.subsection ("Rest: " ++ config.signature r)) ++ ·)

/-- The block of an unwrapped value whose children have the blocks `child`. -/
def blockWith (defs : Definitions) (config : Config) (copy : Nat) (child : Value → Rendering) (canonical : Value) :
    Rendering :=
  let description := canonical.descriptionOrNull
  let body : Option Body := match canonical with
    | .node d => some d.body
    | _ => none
  match body with
  | some (.object properties) => (objectBlock defs config copy properties description).map Page.ofText
  | some (.array element low high exact) => do
    let block ← childSection config.itemSchemaLabel child element
    let lead := withDescription ("Array of " ++ config.signature (.node element)) description
    return Page.ofText (lead ++ constraintList config (arrayLines low high exact)) ++ block
  | some (.enum options) =>
    .ok (.ofText (withDescription "Enum with values:" description ++ "\n\n" ++ options.flatMap codeBullet))
  | some (.union options) =>
    (numberedBlocks config "Option" child 1 options).map
      (Page.ofText (withDescription "Union of:" description ++ "\n\n") ++ ·)
  | some (.intersection left right) => do
    let first ← child (.node left)
    let second ← child (.node right)
    return Page.ofText (withDescription "Intersection of:" description ++ "\n\n" ++ config.subsection "First part:") ++
      first ++ Page.ofText ("\n\n" ++ config.subsection "Second part:") ++ second
  | some (.record key value) => do
    let block ← childSection config.valueSchemaLabel child value
    let lead := "Record with keys of type " ++ config.signature (.node key) ++ " and values of type " ++
      config.signature (.node value)
    return Page.ofText (withDescription lead description) ++ block
  | some (.tuple items rest) => do
    let blocks ← numberedBlocks config "Element" child 1 items
    let last ← restBlock config child rest
    return Page.ofText (withDescription "Tuple with elements:" description ++ "\n\n") ++ blocks ++ last
  | some (.literal v) => .ok (.ofText (withDescription ("Literal: " ++ v.token) description))
  | _ => .ok (.ofText (canonical.oneLine (config.signature canonical)))

/-- The recursion marker for a node that is being rendered already. -/
def cycleBlock (config : Config) (v : Value) : Page :=
  Page.log .debug (v.fallbackName ++ " descriptor is already being rendered") ++ Page.ofText config.recursionMarker

def ResolutionFailure.report : ResolutionFailure → Page
  | unsaid _ => .empty
  | f => Page.log .warning (if f.isRecursive then f.message ++ ", truncating" else f.message)

def failureBlock (config : Config) (failure : ResolutionFailure) : Page :=
  failure.report ++ Page.ofText (config.marker failure.mark)

def depthBlock (config : Config) : Page :=
  Page.log .warning ("Descriptor nesting exceeds " ++ Text.ofInt config.maxDepth ++ " levels, truncating") ++
    Page.ofText config.depthMarker

/-- The block of `v` at `depth`, with `levels` more levels to go down, below the nodes `ancestors`.
New buildings are numbered from `copy` on. -/
def renderIn (defs : Definitions) (config : Config) :
    (levels : Nat) → (depth : Int) → (ancestors : List Identity) → (copy : Nat) → Value → Rendering
  | 0, _, ancestors, _, v => .ok (if v.isAmong ancestors then cycleBlock config v else depthBlock config)
  | levels + 1, depth, ancestors, copy, v =>
    if v.isAmong ancestors then .ok (cycleBlock config v)
    else match v.unwrap defs config.maxDepth copy with
      | .error failure => .ok (failureBlock config failure)
      | .ok (canonical, copy) =>
        if canonical.isAmong ancestors then .ok (cycleBlock config canonical)
        else
          let below := canonical.identity?.toList ++ v.identity?.toList ++ ancestors
          let opening := Page.log .debug
            ("Rendering " ++ canonical.fallbackName ++ " descriptor at depth " ++ Text.ofInt depth)
          let child := renderIn defs config levels (depth + 1) below copy
          (blockWith defs config copy child canonical).map (opening ++ ·)

def Page.whole (p : Page) : Rendering :=
  match p.text.obstacle? with
  | some why => .error (.ofObstacle why)
  | none => .ok p

/-- The block of a value at a depth, with every record that rendering logs. -/
def render (defs : Definitions) (config : Config) (depth : Int) (v : Value) : Rendering :=
  (renderIn defs config (Value.levels config.maxDepth depth) depth [] 1 v).bind Page.whole

end Schematic
