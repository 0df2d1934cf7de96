import Schematic.Markdown.Renderer
import Schematic.Value.Nesting

namespace Schematic

/-- The headings of a document; without a name, the default one is used. -/
def Config.headings (config : Config) (title : Text) (name : Option Text) : Text :=
  config.titleHeading ++ " " ++ title ++ "\n\n" ++
    config.sectionHeading ++ " " ++ name.getD config.defaultSchemaName ++ "\n\n"

def document (defs : Definitions) (config : Config) (title : Text) (name : Option Text) (schema : Value) : Rendering :=
  match schema with
  | .null => .ok .empty
  | v => (render defs config 0 v).map (Page.ofText (config.headings title name) ++ ·)

def renderWithin (room : Nat) (defs : Definitions) (config : Config) (depth : Int) (v : Value) : Rendering :=
  render (defs.shallow room) config depth (v.shallow room)

def documentWithin (room : Nat) (defs : Definitions) (config : Config) (title : Text) (name : Option Text)
    (schema : Value) : Rendering :=
  document (defs.shallow room) config title name (schema.shallow room)

end Schematic
