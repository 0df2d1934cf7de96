import Mathlib.Tactic.SplitIfs
import Schematic.Log.Registry

namespace Schematic

/-- The state that a logger comes to be in when it is set up. -/
def LoggerConfig.applied (c : LoggerConfig) (s : LoggerState) : LoggerState :=
  if c.enabled then ⟨c.level, false, if s.handlers.isEmpty then [c.layout] else s.handlers⟩
  else { s with disabled := true }

namespace Registry

/-- A logger that is given a state is found with that state. -/
theorem exists_logger_setState (r : Registry) {name : Text} (hname : isRootName name = false) (s : LoggerState) :
    ∃ l, (r.setState name s).logger? name = some l ∧ l.state = s := by
  have hknown : ∃ l, (r.withLogger name).logger? name = some l := by
    unfold withLogger
    cases hl : r.logger? name with
    | some l => exact ⟨l, by simp [hl]⟩
    | none => exact ⟨_, by simp [hname, logger?]; rfl⟩
  obtain ⟨l, hl⟩ := hknown
  have hlname : l.name = name := by simpa using List.find?_some hl
  have hnames : (fun m : Logger => decide (m.name = name)) ∘
      (fun m : Logger => if m.name = name then { m with state := s } else m) = fun m => decide (m.name = name) := by
    funext m
    simp only [Function.comp]
    split_ifs with hm <;> simp [hm]
  refine ⟨{ l with state := s }, ?_, rfl⟩
  simp only [setState, hname, Bool.false_eq_true, if_false, logger?, List.find?_map, hnames]
  rw [← logger?, hl]
  simp [hlname]

@[simp] theorem state_setState (r : Registry) (name : Text) (s : LoggerState) : (r.setState name s).state name = s := by
  cases hname : isRootName name with
  | true => simp [setState, state, hname]
  | false =>
    obtain ⟨l, hl, rfl⟩ := r.exists_logger_setState hname s
    simp [state, hname, hl]

theorem configure_eq (r : Registry) (c : LoggerConfig) : r.configure c = r.setState c.name (c.applied (r.state c.name)) :=
  rfl

/-- A level other than zero counts for the logger that has it. -/
theorem effectiveLevel_of_logger {r : Registry} {name : Text} {l : Logger} (h : r.logger? name = some l)
    (hlevel : l.state.level ≠ 0) : r.effectiveLevel name = l.state.level := by
  have hmem : l ∈ r.loggers := List.mem_of_find?_eq_some h
  obtain ⟨fuel, hfuel⟩ : ∃ fuel, r.loggers.length = fuel + 1 :=
    ⟨r.loggers.length - 1, by have := List.length_pos_of_mem hmem; omega⟩
  simp [effectiveLevel, lineage, hfuel, lineageFrom, h, hlevel]

/-- What passes a logger that was set up with a level of its own. -/
theorem admits_configure (r : Registry) {c : LoggerConfig} (hname : isRootName c.name = false) (hlevel : 1 ≤ c.level)
    (level : Int) : (r.configure c).admits c.name level = (c.enabled && decide (c.level ≤ level)) := by
  rw [configure_eq]
  have hstate := r.state_setState c.name (c.applied (r.state c.name))
  cases henabled : c.enabled with
  | false =>
    have hdisabled : (c.applied (r.state c.name)).disabled = true := by simp [LoggerConfig.applied, henabled]
    simp [admits, hstate, hdisabled]
  | true =>
    obtain ⟨l, hl, hls⟩ := r.exists_logger_setState hname (c.applied (r.state c.name))
    have hown : l.state.level = c.level := by simp [hls, LoggerConfig.applied, henabled]
    have heffective := effectiveLevel_of_logger hl (by omega)
    have hopen : (c.applied (r.state c.name)).disabled = false := by simp [LoggerConfig.applied, henabled]
    have hpositive : c.level ≤ level → 0 < level := fun h => by omega
    simpa [admits, hstate, hopen, heffective, hown] using hpositive

end Registry
end Schematic
