import Schematic.Log.Registry
import Schematic.Markdown.Renderer

namespace Schematic

def rendererLogger : Text := "schemadoc.renderer"

def Config.loggerConfig (c : Config) : LoggerConfig :=
  { LoggerConfig.standard with name := rendererLogger, enabled := c.enableLogger, level := c.logLevel }

/-- The records of a page that pass the logger of the renderers. -/
def Registry.passing (r : Registry) (records : List Record) : List Record :=
  records.filter fun record => r.admits rendererLogger record.level.number

structure Session where
  registry : Registry
  /-- The renderers made so far, by name. -/
  renderers : List (Text × Config)

namespace Session

def empty : Session := ⟨.initial, []⟩

inductive Step where
  | make (renderer : Text) (config : Config)
  | render (renderer : Text) (depth : Int) (schema : Value)

inductive Outcome where
  | made (config : Config) (logger : LoggerState)
  /-- The page holds the records that passed. -/
  | rendered (page : Rendering)

def config (s : Session) (renderer : Text) : Config :=
  ((s.renderers.find? (·.1 = renderer)).map (·.2)).getD .standard

def step (defs : Definitions) (s : Session) : Step → Session × Outcome
  | .make renderer config =>
    let registry := s.registry.configure config.loggerConfig
    (⟨registry, (renderer, config) :: s.renderers⟩, .made config (registry.state rendererLogger))
  | .render renderer depth schema =>
    (s, .rendered ((Schematic.render defs (s.config renderer) depth schema).map fun page =>
      { page with records := s.registry.passing page.records }))

def run (defs : Definitions) (s : Session) : List Step → List Outcome
  | [] => []
  | first :: rest =>
    let (next, outcome) := s.step defs first
    outcome :: run defs next rest

end Session
end Schematic
