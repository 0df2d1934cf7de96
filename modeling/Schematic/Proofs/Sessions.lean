import Schematic.Markdown.Session
import Schematic.Proofs.Course
import Schematic.Proofs.Graph
import Schematic.Proofs.Loggers

namespace Schematic

/-- The records that pass when this is how the logger was set up last. -/
def Config.emitted (config : Config) (records : List Record) : List Record :=
  records.filter fun r => config.enableLogger && decide (config.logLevel ≤ r.level.number)

theorem Registry.passing_configure (r : Registry) {config : Config} (hlevel : 1 ≤ config.logLevel)
    (records : List Record) : (r.configure config.loggerConfig).passing records = config.emitted records := by
  have hname : isRootName rendererLogger = false := by decide
  unfold Registry.passing Config.emitted
  exact List.filter_congr fun record _ => r.admits_configure (c := config.loggerConfig) hname hlevel record.level.number

theorem Config.emitted_debug (config : Config) (records : List Record) :
    (config.withLog true Level.debug.number).emitted records = records := by
  refine List.filter_eq_self.mpr fun r _ => ?_
  cases r.level <;> simp [Config.withLog, Level.number]

theorem render_withLog (defs : Definitions) (config : Config) (enabled : Bool) (level depth : Int) (v : Value) :
    render defs (config.withLog enabled level) depth v = render defs config depth v := by
  rw [render, render, renderIn_withLog]
  rfl

namespace Session

def after (defs : Definitions) (s : Session) : List Step → Session
  | [] => s
  | first :: rest => after defs (s.step defs first).1 rest

/-- The configuration of the renderer that is made last. -/
def latest? : List Step → Option Config
  | [] => none
  | .make _ config :: rest => (latest? rest).or (some config)
  | .render _ _ _ :: rest => latest? rest

/-- The configuration of the renderer that is made last under a name. -/
def made? (renderer : Text) : List Step → Option Config
  | [] => none
  | .make name config :: rest => (made? renderer rest).or (if name = renderer then some config else none)
  | .render _ _ _ :: rest => made? renderer rest

/-- What a renderer shows that is made and used in a session of its own. -/
def alone (defs : Definitions) (config : Config) (depth : Int) (schema : Value) : Outcome :=
  ((empty.step defs (.make [] config)).1.step defs (.render [] depth schema)).2

variable {defs : Definitions}

theorem run_cons (s : Session) (first : Step) (rest : List Step) :
    s.run defs (first :: rest) = (s.step defs first).2 :: (s.step defs first).1.run defs rest := rfl

theorem length_run (s : Session) (steps : List Step) : (s.run defs steps).length = steps.length := by
  induction steps generalizing s with
  | nil => rfl
  | cons first rest ih => rw [run_cons, List.length_cons, ih, List.length_cons]

theorem run_append (s : Session) (before rest : List Step) :
    s.run defs (before ++ rest) = s.run defs before ++ (s.after defs before).run defs rest := by
  induction before generalizing s with
  | nil => rfl
  | cons first before ih => rw [List.cons_append, run_cons, run_cons, ih, after, List.cons_append]

/-- A renderer keeps the configuration that it was made with. -/
theorem config_after (s : Session) (steps : List Step) (renderer : Text) :
    (s.after defs steps).config renderer = (made? renderer steps).getD (s.config renderer) := by
  induction steps generalizing s with
  | nil => rfl
  | cons first rest ih =>
    rw [after, ih]
    cases first with
    | render name depth schema => rfl
    | make name config =>
      have hstep : (s.step defs (.make name config)).1.config renderer =
          if name = renderer then config else s.config renderer := by
        by_cases hname : name = renderer <;> simp [step, Session.config, hname]
      rw [hstep, made?]
      cases made? renderer rest with
      | some c => rfl
      | none => by_cases hname : name = renderer <;> simp [hname]

/-- The logger is as the renderer that was made last has set it up. -/
theorem registry_after (s : Session) (steps : List Step) :
    (latest? steps = none → (s.after defs steps).registry = s.registry) ∧
      ∀ config, latest? steps = some config →
        ∃ r : Registry, (s.after defs steps).registry = r.configure config.loggerConfig := by
  induction steps generalizing s with
  | nil => exact ⟨fun _ => rfl, fun config h => by cases h⟩
  | cons first rest ih =>
    cases first with
    | render name depth schema => exact ih s
    | make name config =>
      obtain ⟨hnone, hsome⟩ := ih (s.step defs (.make name config)).1
      refine ⟨fun h => ?_, fun config' h => ?_⟩
      · simp [latest?] at h
      · cases hrest : latest? rest with
        | none =>
          obtain rfl : config = config' := by simpa [latest?, hrest] using h
          exact ⟨s.registry, hnone hrest⟩
        | some c =>
          obtain rfl : c = config' := by simpa [latest?, hrest] using h
          exact hsome c hrest

theorem step_render_after (s : Session) {before : List Step} {renderer : Text} {config latest : Config}
    (hmade : made? renderer before = some config) (hlatest : latest? before = some latest)
    (hlevel : 1 ≤ latest.logLevel) (depth : Int) (schema : Value) :
    ((s.after defs before).step defs (.render renderer depth schema)).2 =
      .rendered ((Schematic.render defs config depth schema).map fun page =>
        { page with records := latest.emitted page.records }) := by
  obtain ⟨r, hr⟩ : ∃ r : Registry, (s.after defs before).registry = r.configure latest.loggerConfig :=
    (s.registry_after before).2 latest hlatest
  simp only [step, config_after, hmade, Option.getD_some, hr, r.passing_configure hlevel]

theorem alone_eq (config : Config) (depth : Int) (schema : Value) :
    alone defs config depth schema =
      .rendered ((Schematic.render defs config depth schema).map fun page =>
        { page with records := (Registry.initial.configure config.loggerConfig).passing page.records }) := rfl

/-- In every session a renderer shows what it shows alone, however the log is set. What is logged is what it would
log alone when debugging, as far as the renderer that was made last lets it pass. -/
theorem run_render_eq_alone (defs : Definitions) (r : Registry) (before after : List Step) (renderer : Text) (depth : Int)
    (schema : Value) {config latest : Config} (hmade : made? renderer before = some config)
    (hlatest : latest? before = some latest) (hlevel : 1 ≤ latest.logLevel) :
    ∃ full : Rendering,
      alone defs (config.withLog true Level.debug.number) depth schema = .rendered full ∧
      (∀ enabled level, ∃ page : Rendering,
        alone defs (config.withLog enabled level) depth schema = .rendered page ∧
          page.map Page.text = full.map Page.text) ∧
      (run defs ⟨r, []⟩ (before ++ .render renderer depth schema :: after))[before.length]? =
        some (.rendered (full.map fun page => { page with records := latest.emitted page.records })) := by
  have htext : ∀ (page : Rendering) (f : Page → List Record),
      (page.map fun p => { p with records := f p }).map Page.text = page.map Page.text := by
    intro page f
    cases page <;> rfl
  refine ⟨Schematic.render defs config depth schema, ?_, fun enabled level => ?_, ?_⟩
  · have hall : ∀ records, (Registry.initial.configure (config.withLog true Level.debug.number).loggerConfig).passing
        records = records := by
      intro records
      have hlevel : 1 ≤ Level.debug.number := by decide
      rw [Registry.passing_configure _ hlevel, Config.emitted_debug]
    rw [alone_eq, render_withLog]
    simp only [hall]
    cases Schematic.render defs config depth schema <;> rfl
  · exact ⟨_, alone_eq _ _ _, by rw [htext, render_withLog]⟩
  · rw [run_append, List.getElem?_append_right (by rw [length_run]), length_run, Nat.sub_self, run_cons,
      List.getElem?_cons_zero, step_render_after ⟨r, []⟩ hmade hlatest hlevel depth schema]

def talkative : Config := Config.standard.withLog true Level.debug.number

def quiet : Config := Config.standard.withLog false Level.warning.number

/-- A renderer that logs everything falls silent when a quiet one is made, and shows the same as before. -/
def overheard : List Step := [.make "a" talkative, .render "a" 0 (.node listRest), .make "b" quiet]

theorem run_render_overheard_eq_alone :
    made? "a" overheard = some talkative ∧ latest? overheard = some quiet ∧ 1 ≤ quiet.logLevel ∧
    ∃ full : Rendering, alone listDefinitions talkative 0 (.node listRest) = .rendered full ∧
      (run listDefinitions ⟨.initial, []⟩ (overheard ++ [.render "a" 0 (.node listRest)]))[3]? =
        some (.rendered (full.map fun page => { page with records := [] })) := by
  have hmade : made? "a" overheard = some talkative := by decide
  have hlatest : latest? overheard = some quiet := by decide
  have hlevel : 1 ≤ quiet.logLevel := by decide
  have hsilent : ∀ records, quiet.emitted records = [] := by
    intro records
    simp [Config.emitted, quiet, Config.withLog]
  obtain ⟨full, halone, _, hrun⟩ :=
    run_render_eq_alone listDefinitions .initial overheard [] "a" 0 (.node listRest) hmade hlatest hlevel
  simp only [hsilent] at hrun
  exact ⟨hmade, hlatest, hlevel, full, halone, hrun⟩

end Session
end Schematic
