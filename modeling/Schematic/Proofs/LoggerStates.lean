import Schematic.Proofs.Propagation
import Schematic.Proofs.Sessions

/-! The state of a logger after any history is told by the attempts to set it up, and by no attempt for
another name: it has one handler if an attempt brought one, the last attempt settles whether it is disabled,
and the last one that enabled it settles its level. An attempt that fails at its layout counts, but brings no
handler. The renderers of a session are a history of attempts for one name. -/
namespace Schematic

namespace LoggerConfig

theorem disabled_attempted (c : LoggerConfig) (s : LoggerState) : (c.attempted s).disabled = !c.enabled := by
  unfold attempted
  cases c.enabled <;> rfl

theorem level_attempted (c : LoggerConfig) (s : LoggerState) :
    (c.attempted s).level = if c.enabled then c.level else s.level := by
  unfold attempted
  split_ifs <;> rfl

/-- The state of a fresh logger after attempts to set it up. -/
def stateAfter (attempts : List LoggerConfig) : LoggerState := attempts.foldl (fun s c => c.attempted s) .fresh

theorem stateAfter_concat (attempts : List LoggerConfig) (c : LoggerConfig) :
    stateAfter (attempts ++ [c]) = c.attempted (stateAfter attempts) := by
  rw [stateAfter, List.foldl_append]
  rfl

end LoggerConfig

/-- What the attempts to set up a logger tell about its state. -/
structure LoggerState.ToldBy (attempts : List LoggerConfig) (s : LoggerState) : Prop where
  /-- There is one handler, however many attempts would bring one. -/
  handlers : s.handlers.length = if attempts.any LoggerConfig.brings then 1 else 0
  disabled : s.disabled = attempts.getLast?.any (!·.enabled)
  /-- As long as no attempt enables the logger, the level is left to those above. -/
  level : s.level = ((attempts.filter LoggerConfig.enabled).getLast?.map LoggerConfig.level).getD 0

namespace LoggerState.ToldBy

variable {attempts : List LoggerConfig} {s : LoggerState}

theorem fresh : LoggerState.fresh.ToldBy [] := ⟨rfl, rfl, rfl⟩

/-- One more attempt leaves the handler that there is, and settles the rest if it enables the logger. -/
theorem attempted (h : s.ToldBy attempts) (c : LoggerConfig) : (c.attempted s).ToldBy (attempts ++ [c]) where
  handlers := by
    have hhandlers := h.handlers
    rw [LoggerConfig.handlers_attempted, List.any_append, List.any_cons, List.any_nil, Bool.or_false]
    cases hany : attempts.any LoggerConfig.brings with
    | true =>
      rw [hany, if_pos rfl] at hhandlers
      obtain ⟨layout, hone⟩ := List.length_eq_one_iff.mp hhandlers
      simp [hone]
    | false =>
      have hnone : s.handlers = [] := by simpa [hany] using hhandlers
      cases c.brings <;> simp [hnone]
  disabled := by
    rw [LoggerConfig.disabled_attempted, List.getLast?_concat, Option.any_some]
  level := by
    rw [LoggerConfig.level_attempted, List.filter_append]
    cases henabled : c.enabled with
    | true => simp [henabled]
    | false => simpa [henabled] using h.level

theorem stateAfter (attempts : List LoggerConfig) : (LoggerConfig.stateAfter attempts).ToldBy attempts := by
  induction attempts using List.reverseRecOn with
  | nil => exact .fresh
  | append_singleton attempts c ih =>
    rw [LoggerConfig.stateAfter_concat]
    exact ih.attempted c

theorem isEmpty_handlers (h : s.ToldBy attempts) : s.handlers.isEmpty = !attempts.any LoggerConfig.brings := by
  have hhandlers := h.handlers
  cases hany : attempts.any LoggerConfig.brings <;> cases hs : s.handlers <;> simp_all

end LoggerState.ToldBy

namespace Registry

def attemptsFor (history : List LoggerConfig) (name : Text) : List LoggerConfig := history.filter (·.name = name)

/-- The registry after loggers were set up one after another, if that never fails. -/
def setUpAll (history : List LoggerConfig) : Except UnsoundLayout Registry := history.foldlM setUp initial

section History

variable {history : List LoggerConfig} {name : Text} {c : LoggerConfig} {r : Registry}

theorem attemptsFor_concat (history : List LoggerConfig) (c : LoggerConfig) (name : Text) :
    attemptsFor (history ++ [c]) name =
      if c.name = name then attemptsFor history name ++ [c] else attemptsFor history name := by
  rw [attemptsFor, List.filter_append, List.filter_singleton]
  by_cases hname : c.name = name <;> simp [attemptsFor, hname]

theorem shownName_ne (hname : isRootName name = false) (hne : c.name ≠ name) : shownName name ≠ shownName c.name := by
  rw [ne_eq, shownName_eq_iff, hname, Bool.false_and, not_or]
  exact ⟨Bool.false_ne_true, hne.symm⟩

theorem state_after (history : List LoggerConfig) (hname : isRootName name = false) :
    (after history).state name = LoggerConfig.stateAfter (attemptsFor history name) := by
  induction history using List.reverseRecOn with
  | nil =>
    rw [after, List.foldl_nil, state, hname]
    rfl
  | append_singleton history c ih =>
    rw [after_concat, attemptsFor_concat]
    split_ifs with heq
    · rw [state_attempt_of_eq (by rw [heq]), ih, LoggerConfig.stateAfter_concat]
    · rw [state_attempt_of_ne (shownName_ne hname heq), ih]

theorem toldBy_after (history : List LoggerConfig) (hname : isRootName name = false) :
    ((after history).state name).ToldBy (attemptsFor history name) := by
  rw [state_after history hname]
  exact .stateAfter _

/-- Setting up a logger fails at an unsound layout, unless a handler was brought before. -/
theorem setUp_after_eq_ite (history : List LoggerConfig) (hname : isRootName c.name = false) :
    (after history).setUp c =
      if c.enabled && !Layout.isSound c.layout && !(attemptsFor history c.name).any LoggerConfig.brings then
        .error ⟨c.layout⟩
      else .ok (after (history ++ [c])) := by
  rw [setUp_eq, after_concat, (toldBy_after history hname).isEmpty_handlers, Bool.and_right_comm]

theorem setUpAll_concat_eq_ok (history : List LoggerConfig) (c : LoggerConfig) :
    setUpAll (history ++ [c]) = .ok r ↔ ∃ before, setUpAll history = .ok before ∧ before.setUp c = .ok r := by
  have hsteps : setUpAll (history ++ [c]) = setUpAll history >>= (setUp · c) := by simp [setUpAll]
  rw [hsteps]
  cases setUpAll history with
  | error e => exact ⟨nofun, nofun⟩
  | ok before => exact ⟨fun h => ⟨before, rfl, h⟩, fun ⟨_, hbefore, h⟩ => Except.ok.inj hbefore ▸ h⟩

theorem eq_after_of_setUpAll (h : setUpAll history = .ok r) : r = after history := by
  induction history using List.reverseRecOn generalizing r with
  | nil => exact (Except.ok.inj h).symm
  | append_singleton history c ih =>
    obtain ⟨before, hbefore, hlast⟩ := (setUpAll_concat_eq_ok history c).mp h
    rw [after_concat, ← ih hbefore, attempt, hlast]

/-- If setting up never fails, every logger that is enabled is brought a handler. -/
theorem any_brings_of_setUpAll (h : setUpAll history = .ok r) (hname : isRootName name = false) :
    (attemptsFor history name).any LoggerConfig.brings = (attemptsFor history name).any LoggerConfig.enabled := by
  induction history using List.reverseRecOn generalizing r with
  | nil => rfl
  | append_singleton history c ih =>
    obtain ⟨before, hbefore, hlast⟩ := (setUpAll_concat_eq_ok history c).mp h
    rw [attemptsFor_concat]
    split_ifs with heq
    · subst heq
      rw [eq_after_of_setUpAll hbefore, setUp_after_eq_ite history hname] at hlast
      split_ifs at hlast with hfails
      rw [List.any_append, List.any_append, ← ih hbefore]
      cases henabled : c.enabled <;> cases hsound : Layout.isSound c.layout <;>
        simp_all [LoggerConfig.brings]
    · exact ih hbefore

/-- After any history a logger is as the attempts for its name tell, and no attempt for another name changes it. Setting
it up fails only at an unsound layout, and only while it has no handler. As long as that never happens, a logger that was
ever enabled has one handler. -/
theorem loggerState_after (history : List LoggerConfig) (hname : isRootName name = false) :
    ((after history).state name).ToldBy (attemptsFor history name) ∧
    (∀ c, c.name = name → (after history).setUp c =
      if c.enabled && !Layout.isSound c.layout && !(attemptsFor history name).any LoggerConfig.brings then
        .error ⟨c.layout⟩
      else .ok (after (history ++ [c]))) ∧
    (∀ r, setUpAll history = .ok r → r = after history ∧
      (r.state name).handlers.length = if (attemptsFor history name).any LoggerConfig.enabled then 1 else 0) ∧
    ∀ c, c.name ≠ name → (after (history ++ [c])).state name = (after history).state name := by
  have htold := toldBy_after history hname
  refine ⟨htold, ?_, fun r hall => ?_, fun c hne => ?_⟩
  · rintro c rfl
    exact setUp_after_eq_ite history hname
  · obtain rfl := eq_after_of_setUpAll hall
    exact ⟨rfl, by rw [htold.handlers, any_brings_of_setUpAll hall hname]⟩
  · rw [after_concat, state_attempt_of_ne (shownName_ne hname hne)]

/-- Attempts for a logger and for one below it in turns. The second layout for that one is unsound. -/
def interleavedHistory : List LoggerConfig :=
  [⟨"a", false, 50, ""⟩, ⟨"a.b", true, 10, "%(message)s"⟩, ⟨"a", true, 20, "%(message)s"⟩,
    ⟨"a.b", true, 40, "plain"⟩, ⟨"a", false, 30, ""⟩]

/-- A disabled logger keeps its level and its handler, and with the handler an unsound layout is set up. -/
theorem loggerState_after_interleaved :
    isRootName "a" = false ∧
    ((after interleavedHistory).state "a").handlers.length = 1 ∧
    ((after interleavedHistory).state "a").disabled = true ∧
    ((after interleavedHistory).state "a").level = 20 ∧
    (after interleavedHistory).setUp ⟨"a", true, 10, "plain"⟩ =
      .ok (after (interleavedHistory ++ [⟨"a", true, 10, "plain"⟩])) ∧
    (∃ r, setUpAll interleavedHistory = .ok r ∧ (r.state "a").handlers.length = 1) ∧
    (after (interleavedHistory ++ [⟨"a.b", false, 0, ""⟩])).state "a" = (after interleavedHistory).state "a" := by
  have hroot : isRootName "a" = false := by decide
  obtain ⟨htold, hsetUp, hall, hother⟩ := loggerState_after interleavedHistory hroot
  have hnever : setUpAll interleavedHistory = .ok (after interleavedHistory) := by decide +kernel
  refine ⟨hroot, htold.handlers.trans (by decide +kernel), htold.disabled.trans (by decide +kernel),
    htold.level.trans (by decide +kernel), (hsetUp _ rfl).trans (if_neg (by decide +kernel)),
    ⟨_, hnever, (hall _ hnever).2.trans (by decide +kernel)⟩, hother _ (by decide)⟩

def placelessConfig : LoggerConfig := ⟨"x", true, 30, "plain"⟩

/-- A logger that was enabled has no handler if setting it up failed at the layout. -/
theorem handlers_after_placeless :
    isRootName placelessConfig.name = false ∧ placelessConfig.enabled = true ∧
      initial.setUp placelessConfig = .error ⟨"plain"⟩ ∧
      ((after [placelessConfig]).state placelessConfig.name).handlers.length ≠ 1 := by
  decide +kernel

end History

theorem attempt_eq_configure (r : Registry) {c : LoggerConfig} (h : Layout.isSound c.layout = true) :
    r.attempt c = r.configure c := by
  simp [attempt, setUp, h]

end Registry

namespace Session

/-- How the renderers that are made set up their logger. -/
def makings : List Step → List LoggerConfig
  | [] => []
  | .make _ config :: rest => config.loggerConfig :: makings rest
  | .render _ _ _ :: rest => makings rest

variable {defs : Definitions}

theorem registry_after_eq_foldl (s : Session) (steps : List Step) :
    (s.after defs steps).registry = (makings steps).foldl Registry.attempt s.registry := by
  induction steps generalizing s with
  | nil => rfl
  | cons first rest ih =>
    rw [after, ih]
    cases first with
    | render name depth schema => rfl
    | make name config =>
      have hsound : Layout.isSound config.loggerConfig.layout = true := by
        show Layout.isSound LoggerConfig.standard.layout = true
        decide +kernel
      rw [makings, List.foldl_cons, Registry.attempt_eq_configure _ hsound]
      rfl

theorem name_of_mem_makings {steps : List Step} {c : LoggerConfig} (h : c ∈ makings steps) : c.name = rendererLogger := by
  induction steps with
  | nil => cases h
  | cons first rest ih =>
    cases first with
    | render name depth schema => exact ih h
    | make name config =>
      rcases List.mem_cons.mp h with rfl | hrest
      · rfl
      · exact ih hrest

/-- The logger of the renderers is as those that were made tell, whatever was rendered in between. -/
theorem toldBy_makings (defs : Definitions) (steps : List Step) :
    ((empty.after defs steps).registry.state rendererLogger).ToldBy (makings steps) := by
  have hown : Registry.attemptsFor (makings steps) rendererLogger = makings steps :=
    List.filter_eq_self.mpr fun c hc => by simpa using name_of_mem_makings hc
  have hname : Registry.isRootName rendererLogger = false := by decide
  have htold := Registry.toldBy_after (makings steps) hname
  rw [hown] at htold
  rw [registry_after_eq_foldl]
  exact htold

end Session
end Schematic
