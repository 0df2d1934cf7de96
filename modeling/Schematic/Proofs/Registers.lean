import Schematic.Fluent.Workbench
import Schematic.Proofs.Making

namespace Schematic

/-- A step on a workbench whose value is put into a register. -/
structure Command where
  target : Text
  identity : Identity
  copy : Nat
  step : Workbench.Step

namespace Workbench

variable {defs : Definitions} {copy : Nat} {i : Identity} {w w' : Workbench} {v : Value}

theorem get?_put (w : Workbench) (register name : Text) (v : Value) :
    (w.put register v).get? name = if register = name then some v else w.get? name := by
  by_cases h : register = name <;> simp [put, get?, h]

theorem registers_of_assign {name : Text} {value : Value} (h : w.assign v name value = .ok w') :
    w'.registers = w.registers := by
  unfold assign at h
  split at h
  · split at h
    · cases h
    · obtain rfl := Except.ok.inj h
      rfl
  · cases h
  · cases h

theorem registers_carryOver (w : Workbench) (source made : Value) : (w.carryOver source made).registers = w.registers := by
  unfold carryOver
  split <;> rfl

theorem registers_of_callMethod {object : Value} {name : Text} {arguments : List Value}
    (h : w.callMethod defs copy i object name arguments = .ok (v, w')) : w'.registers = w.registers := by
  unfold callMethod at h
  split at h
  · obtain ⟨r, -, hr⟩ := Except.map_eq_ok.mp h
    rw [← (Prod.mk.inj hr).2]
  · cases h
  · obtain ⟨r, -, hr⟩ := Except.bind_eq_ok.mp h
    have hw := (Prod.mk.inj (Except.ok.inj hr)).2
    rw [← hw, apply_ite registers, registers_carryOver, ite_self]

theorem registers_of_run {step : Step} (h : w.run defs copy i step = .ok (v, w')) : w'.registers = w.registers := by
  cases step with
  | build builder arguments =>
    obtain ⟨d, -, hd⟩ := Except.map_eq_ok.mp h
    rw [← (Prod.mk.inj hd).2]
  | call register method arguments =>
    obtain ⟨object, -, hobject⟩ := Except.bind_eq_ok.mp h
    exact registers_of_callMethod hobject
  | assign register field value =>
    obtain ⟨object, -, hobject⟩ := Except.bind_eq_ok.mp h
    obtain ⟨made, hmade, hw⟩ := Except.bind_eq_ok.mp hobject
    rw [← (Prod.mk.inj (Except.ok.inj hw)).2, registers_of_assign hmade]
  | compare first second =>
    obtain ⟨a, -, ha⟩ := Except.bind_eq_ok.mp h
    obtain ⟨b, -, hb⟩ := Except.bind_eq_ok.mp ha
    obtain ⟨equal, -, hw⟩ := Except.bind_eq_ok.mp hb
    rw [← (Prod.mk.inj (Except.ok.inj hw)).2]

/-- What a step gives is put into one register, and the others keep what is in them. -/
theorem get?_put_of_run {step : Step} (h : w.run defs copy i step = .ok (v, w')) (register name : Text) :
    (w'.put register v).get? name = if register = name then some v else w.get? name := by
  rw [get?_put, get?, get?, registers_of_run h]

def follow (defs : Definitions) : Workbench → List Command → Outcome Workbench
  | w, [] => .ok w
  | w, c :: rest => do
    let (v, w) ← w.run defs c.copy c.identity c.step
    follow defs (w.put c.target v) rest

end Workbench
end Schematic
