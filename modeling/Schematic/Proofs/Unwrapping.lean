import Schematic.Proofs.Graph

/-! `Unwraps` follows wrappers and getters for as long as it takes and counts the getters. Unwrapping under a
limit has the same outcome if the count is within the limit, and otherwise fails as unresolved. On a fixed
graph a count never exceeds the number of nodes, so all larger limits agree. -/
namespace Schematic

/-- Unwrapping a value calls this many getters and comes to a value that is no modifier, or to what a
getter raised. New buildings are numbered from `copy` on. -/
inductive Unwraps (defs : Definitions) : (copy : Nat) → Value → (count : Nat) → Except Raised Value → Prop
  | done {copy : Nat} {v : Value} (plain : v.isModifier = false) : Unwraps defs copy v 0 (.ok v)
  | wrapper {copy count : Nat} {i : Identity} {description : Value} {m : Modifier} {inner : Descriptor}
      {r : Except Raised Value} (rest : Unwraps defs copy (.node inner) count r) :
      Unwraps defs copy (.node (.mk i description (.modified m inner))) count r
  | raised {copy : Nat} {i j : Identity} {description : Value} {g : Action} {e : Raised}
      (call : g.call defs copy = .error e) :
      Unwraps defs copy (.node (.mk i description (.lazy j g))) 1 (.error e)
  | resolved {copy count : Nat} {i j : Identity} {description w : Value} {g : Action} {r : Except Raised Value}
      (call : g.call defs copy = .ok w) (rest : Unwraps defs (copy + 1) w count r) :
      Unwraps defs copy (.node (.mk i description (.lazy j g))) (count + 1) r

theorem Value.isModifier_of_not_isNode {v : Value} (hv : ¬ v.IsNode) : v.isModifier = false := by
  cases v with
  | node d => exact (hv ⟨d, rfl⟩).elim
  | _ => rfl

theorem Descriptor.strip_eq_self {d : Descriptor} (h : (Value.node d).isModifier = false) : d.strip = d := by
  obtain ⟨i, description, body⟩ := d
  cases body with
  | modified m inner => simp [Value.isModifier] at h
  | _ => rfl

theorem Unwraps.of_strip {defs : Definitions} {copy count : Nat} {d : Descriptor} {r : Except Raised Value}
    (h : Unwraps defs copy (.node d.strip) count r) : Unwraps defs copy (.node d) count r := by
  fun_induction Descriptor.strip d with
  | case1 i description m inner ih => exact .wrapper (ih h)
  | case2 => exact h

/-- What is left when all wrappers are stripped off is lazy or no modifier. -/
theorem Descriptor.strip_plain_or_lazy (d : Descriptor) :
    (Value.node d.strip).isModifier = false ∨ ∃ i description j g, d.strip = .mk i description (.lazy j g) := by
  fun_induction Descriptor.strip d with
  | case1 i description m inner ih => exact ih
  | case2 d h =>
    obtain ⟨i, description, body⟩ := d
    cases body with
    | modified m inner => exact (h i description m inner rfl).elim
    | lazy j g => exact .inr ⟨i, description, j, g, rfl⟩
    | _ => exact .inl rfl

section Limit

variable {defs : Definitions} {limit : Int}

theorem unwrapFrom_plain {v : Value} (h : v.isModifier = false) (budget resolution copy : Nat) :
    unwrapFrom defs limit budget resolution copy v = .ok (v, copy) := by
  by_cases hv : ∃ d, v = .node d
  · obtain ⟨d, rfl⟩ := hv
    have hs := Descriptor.strip_eq_self h
    rw [unwrapFrom.eq_3, hs] <;> rw [hs] <;> rintro _ _ _ _ <;> grind [Value.isModifier]
  · exact unwrapFrom.eq_4 _ _ _ _ _ _ fun d hd => hv ⟨d, hd⟩

theorem unwrap_plain {v : Value} (h : v.isModifier = false) (copy : Nat) : v.unwrap defs limit copy = .ok (v, copy) := by
  rw [Value.unwrap, unwrapFrom_plain h, Except.mapError]

theorem unwrapFrom_wrapper (budget resolution copy : Nat) (i : Identity) (description : Value) (m : Modifier)
    (inner : Descriptor) :
    unwrapFrom defs limit budget resolution copy (.node (.mk i description (.modified m inner))) =
      unwrapFrom defs limit budget resolution copy (.node inner) := by
  conv_lhs => unfold unwrapFrom
  conv_rhs => unfold unwrapFrom
  rfl

theorem unwrap_wrapper (copy : Nat) (i : Identity) (description : Value) (m : Modifier) (inner : Descriptor) :
    (Value.node (.mk i description (.modified m inner))).unwrap defs limit copy =
      (Value.node inner).unwrap defs limit copy := by
  rw [Value.unwrap, unwrapFrom_wrapper, Value.unwrap]

theorem unwrapFrom_lazy_succ (budget resolution copy : Nat) (i j : Identity) (description : Value) (g : Action) :
    unwrapFrom defs limit (budget + 1) resolution copy (.node (.mk i description (.lazy j g))) =
      match g.call defs copy with
      | .error e => .error (.ofRaised resolution e)
      | .ok w => unwrapFrom defs limit budget (resolution + 1) (copy + 1) w :=
  unwrapFrom.eq_2 _ _ _ _ _ _ _ _ _ _ rfl

/-- What a limited unwrapping makes of the outcome of an unlimited one that calls `count` getters, when
the first of them has number `resolution`. -/
def limitedOutcome (copy count resolution : Nat) : Except Raised Value → Except ResolutionFailure (Value × Nat)
  | .ok c => .ok (c, copy + count)
  | .error e => .error (.ofRaised (resolution + count - 1) e)

theorem unwrap_eq (copy : Nat) (v : Value) :
    v.unwrap defs limit copy = (unwrapFrom defs limit limit.toNat 1 copy v).mapError ResolutionFailure.said := rfl

theorem unwrapFrom_of_unwraps {copy count : Nat} {v : Value} {r : Except Raised Value}
    (h : Unwraps defs copy v count r) {budget : Nat} (hle : count ≤ budget) (resolution : Nat) :
    unwrapFrom defs limit budget resolution copy v = limitedOutcome copy count resolution r := by
  induction h generalizing budget resolution with
  | done plain => exact unwrapFrom_plain plain budget resolution _
  | wrapper _ ih => rw [unwrapFrom_wrapper, ih hle]
  | raised call =>
    obtain ⟨budget, rfl⟩ : ∃ b, budget = b + 1 := ⟨budget - 1, by omega⟩
    simp [unwrapFrom_lazy_succ, call, limitedOutcome]
  | @resolved copy count i j description w g r call rest ih =>
    obtain ⟨budget, rfl⟩ : ∃ b, budget = b + 1 := ⟨budget - 1, by omega⟩
    rw [unwrapFrom_lazy_succ, call]
    simp only []
    rw [ih (by omega)]
    cases r with
    | ok c =>
      simp only [limitedOutcome]
      congr 2
      omega
    | error e =>
      simp only [limitedOutcome]
      congr 2
      omega

/-- Within its budget unwrapping comes to an unlimited outcome, or else it fails as unresolved. -/
theorem unwrapFrom_cases (defs : Definitions) (limit : Int) (budget resolution copy : Nat) (v : Value) :
    (∃ count r, count ≤ budget ∧ Unwraps defs copy v count r) ∨
      unwrapFrom defs limit budget resolution copy v = .error (.unresolved limit) := by
  fun_induction unwrapFrom defs limit budget resolution copy v with
  | case1 => exact .inr rfl
  | case2 resolution copy d i description j g budget hd e call =>
    exact .inl ⟨1, _, by omega, .of_strip (by rw [hd]; exact .raised call)⟩
  | case3 resolution copy d i description j g budget hd w call ih =>
    rcases ih with ⟨count, r, hle, h⟩ | h
    · exact .inl ⟨count + 1, r, by omega, .of_strip (by rw [hd]; exact .resolved call h)⟩
    · exact .inr h
  | case4 budget resolution copy d hzero hsucc =>
    rcases d.strip_plain_or_lazy with h | ⟨i, description, j, g, hd⟩
    · exact .inl ⟨0, _, by omega, .of_strip (.done h)⟩
    · cases budget with
      | zero => exact (hzero i description j g hd rfl).elim
      | succ budget => exact (hsucc i description j g budget hd rfl).elim
  | case5 budget resolution copy v hv =>
    refine .inl ⟨0, _, by omega, .done ?_⟩
    cases v with
    | node d => exact (hv d rfl).elim
    | _ => rfl

/-- Unwrapping under a limit, step by step, after a number of resolutions. What failed is said at the end. -/
inductive UnwrapsWithin (defs : Definitions) (limit : Int) :
    (resolutions copy : Nat) → Value → Except ResolutionFailure (Value × Nat) → Prop
  | done {resolutions copy : Nat} {v : Value} (plain : v.isModifier = false) :
      UnwrapsWithin defs limit resolutions copy v (.ok (v, copy))
  | wrapper {resolutions copy : Nat} {i : Identity} {description : Value} {m : Modifier} {inner : Descriptor}
      {r : Except ResolutionFailure (Value × Nat)} (rest : UnwrapsWithin defs limit resolutions copy (.node inner) r) :
      UnwrapsWithin defs limit resolutions copy (.node (.mk i description (.modified m inner))) r
  | exhausted {resolutions copy : Nat} {i j : Identity} {description : Value} {g : Action}
      (full : limit < resolutions + 1) :
      UnwrapsWithin defs limit resolutions copy (.node (.mk i description (.lazy j g)))
        (.error (ResolutionFailure.unresolved limit).said)
  | raised {resolutions copy : Nat} {i j : Identity} {description : Value} {g : Action} {e : Raised}
      (free : (resolutions + 1 : Int) ≤ limit) (call : g.call defs copy = .error e) :
      UnwrapsWithin defs limit resolutions copy (.node (.mk i description (.lazy j g)))
        (.error (ResolutionFailure.ofRaised (resolutions + 1) e).said)
  | resolved {resolutions copy : Nat} {i j : Identity} {description w : Value} {g : Action}
      {r : Except ResolutionFailure (Value × Nat)} (free : (resolutions + 1 : Int) ≤ limit)
      (call : g.call defs copy = .ok w) (rest : UnwrapsWithin defs limit (resolutions + 1) (copy + 1) w r) :
      UnwrapsWithin defs limit resolutions copy (.node (.mk i description (.lazy j g))) r

theorem UnwrapsWithin.of_strip {resolutions copy : Nat} {d : Descriptor} {r : Except ResolutionFailure (Value × Nat)}
    (h : UnwrapsWithin defs limit resolutions copy (.node d.strip) r) :
    UnwrapsWithin defs limit resolutions copy (.node d) r := by
  fun_induction Descriptor.strip d with
  | case1 i description m inner ih => exact .wrapper (ih h)
  | case2 => exact h

/-- The steps end: there are finitely many resolutions, and wrappers get smaller between them. -/
theorem unwrapsWithin_unwrapFrom (budget resolutions copy : Nat) (v : Value)
    (hbudget : budget = (limit - resolutions).toNat) :
    UnwrapsWithin defs limit resolutions copy v
      ((unwrapFrom defs limit budget (resolutions + 1) copy v).mapError ResolutionFailure.said) := by
  generalize hk : resolutions + 1 = resolution
  fun_induction unwrapFrom defs limit budget resolution copy v generalizing resolutions with
  | case1 resolution copy d i description j g hd =>
    refine .of_strip ?_
    rw [hd]
    exact .exhausted (by omega)
  | case2 resolution copy d i description j g budget hd e call =>
    subst hk
    refine .of_strip ?_
    rw [hd]
    exact .raised (by omega) call
  | case3 resolution copy d i description j g budget hd w call ih =>
    refine .of_strip ?_
    rw [hd]
    exact .resolved (by omega) call (ih (resolutions + 1) (by omega) (by omega))
  | case4 budget resolution copy d hzero hsucc =>
    refine .of_strip (.done ?_)
    rcases d.strip_plain_or_lazy with h | ⟨i, description, j, g, hd⟩
    · exact h
    · cases budget with
      | zero => exact (hzero i description j g hd rfl).elim
      | succ budget => exact (hsucc i description j g budget hd rfl).elim
  | case5 budget resolution copy v hv =>
    refine .done ?_
    cases v with
    | node d => exact (hv d rfl).elim
    | _ => rfl

theorem unwrapsWithin_unwrap (defs : Definitions) (limit : Int) (copy : Nat) (v : Value) :
    UnwrapsWithin defs limit 0 copy v (v.unwrap defs limit copy) :=
  unwrapsWithin_unwrapFrom limit.toNat 0 copy v (by simp)

theorem unwrap_of_unwraps {copy count : Nat} {v : Value} {r : Except Raised Value}
    (h : Unwraps defs copy v count r) (hle : (count : Int) ≤ limit) :
    v.unwrap defs limit copy = (limitedOutcome copy count 1 r).mapError ResolutionFailure.said := by
  rw [unwrap_eq, unwrapFrom_of_unwraps h (by omega) 1]

/-- What comes to a value within the limit is not touched by how failures are said. -/
theorem unwrap_of_unwraps_ok {copy count : Nat} {v c : Value} (h : Unwraps defs copy v count (.ok c))
    (hle : (count : Int) ≤ limit) : v.unwrap defs limit copy = .ok (c, copy + count) := unwrap_of_unwraps h hle

theorem unwrap_cases (defs : Definitions) (limit : Int) (copy : Nat) (v : Value) :
    (∃ count r, count ≤ limit.toNat ∧ Unwraps defs copy v count r ∧
        v.unwrap defs limit copy = (limitedOutcome copy count 1 r).mapError ResolutionFailure.said) ∨
      v.unwrap defs limit copy = .error (ResolutionFailure.unresolved limit).said := by
  rw [unwrap_eq]
  rcases unwrapFrom_cases defs limit limit.toNat 1 copy v with ⟨count, r, hle, h⟩ | h
  · exact .inl ⟨count, r, hle, h, by rw [unwrapFrom_of_unwraps h hle 1]⟩
  · exact .inr (by rw [h]; rfl)

end Limit

section Outcome

variable {defs : Definitions}

theorem Unwraps.unique {copy count count' : Nat} {v : Value} {r r' : Except Raised Value}
    (h : Unwraps defs copy v count r) (h' : Unwraps defs copy v count' r') : count = count' ∧ r = r' := by
  induction h generalizing count' with
  | done plain =>
    cases h' with
    | done => exact ⟨rfl, rfl⟩
    | _ => simp [Value.isModifier] at plain
  | wrapper _ ih =>
    cases h' with
    | done plain => simp [Value.isModifier] at plain
    | wrapper rest' => exact ih rest'
  | raised call =>
    cases h' with
    | done plain => simp [Value.isModifier] at plain
    | raised call' => exact ⟨rfl, call.symm.trans call'⟩
    | resolved call' => simp [call] at call'
  | resolved call _ ih =>
    cases h' with
    | done plain => simp [Value.isModifier] at plain
    | raised call' => simp [call] at call'
    | resolved call' rest' =>
      obtain rfl := Except.ok.inj (call.symm.trans call')
      obtain ⟨rfl, rfl⟩ := ih rest'
      exact ⟨rfl, rfl⟩

theorem Unwraps.isModifier_eq_false {copy count : Nat} {v c : Value} (h : Unwraps defs copy v count (.ok c)) :
    c.isModifier = false := by
  generalize hr : Except.ok c = r at h
  induction h with
  | done plain => exact Except.ok.inj hr ▸ plain
  | wrapper _ ih => exact ih hr
  | raised => cases hr
  | resolved _ _ ih => exact ih hr

theorem Unwraps.reaches {copy count : Nat} {v c : Value} (h : Unwraps defs copy v count (.ok c)) :
    Reaches defs v c := by
  generalize hr : Except.ok c = r at h
  induction h with
  | done => exact Except.ok.inj hr ▸ .refl
  | wrapper _ ih => exact .head (.inner _ _ _ _) (ih hr)
  | raised => cases hr
  | resolved call _ ih => exact .head (.getter call) (ih hr)

theorem Value.modifier_cases (v : Value) :
    v.isModifier = false ∨ (∃ i description m inner, v = .node (.mk i description (.modified m inner))) ∨
      ∃ i description j g, v = .node (.mk i description (.lazy j g)) := by
  cases v with
  | node d =>
    obtain ⟨i, description, body⟩ := d
    cases body with
    | modified m inner => exact .inr (.inl ⟨i, description, m, inner, rfl⟩)
    | lazy j g => exact .inr (.inr ⟨i, description, j, g, rfl⟩)
    | _ => exact .inl rfl
  | _ => exact .inl rfl

theorem reaches_of_unwrap {limit : Int} {copy copy' : Nat} {v c : Value} (h : v.unwrap defs limit copy = .ok (c, copy')) :
    Reaches defs v c := by
  rcases unwrap_cases defs limit copy v with ⟨count, r, _, hu, houtcome⟩ | hu
  · rw [houtcome] at h
    cases r with
    | error e => cases h
    | ok c' =>
      obtain ⟨rfl, _⟩ := Prod.mk.inj (Except.ok.inj h)
      exact hu.reaches
  · cases hu.symm.trans h

theorem WalksWithin.exists_unwraps {bound : Nat} {v : Value} (h : WalksWithin defs bound v) (copy : Nat) :
    ∃ count r, count ≤ bound ∧ Unwraps defs copy v count r := by
  induction bound using Nat.strong_induction_on generalizing v copy with
  | _ bound ih =>
    rcases v.modifier_cases with hv | ⟨i, description, m, inner, rfl⟩ | ⟨i, description, j, g, rfl⟩
    · exact ⟨0, _, by omega, .done hv⟩
    · obtain ⟨less, rfl, hless⟩ := h.step (.inner i description m inner)
      obtain ⟨count, r, hle, hr⟩ := ih less (by omega) hless copy
      exact ⟨count, r, by omega, .wrapper hr⟩
    · cases call : g.call defs copy with
      | error e =>
        have hpos : 1 ≤ bound := h 1 (.call i j description g)
        exact ⟨1, _, hpos, .raised call⟩
      | ok w =>
        have hedge : Edge defs (.node (.mk i description (.lazy j g))) w := .getter call
        obtain ⟨less, rfl, hless⟩ := h.step hedge
        obtain ⟨count, r, hle, hr⟩ := ih less (by omega) hless (copy + 1)
        exact ⟨count + 1, r, by omega, .resolved call hr⟩

variable {root : Value}

/-- On a fixed graph the numbers of buildings do not matter. -/
theorem Fixed.unwraps_copy (hf : Fixed defs root) {copy count : Nat} {v : Value} {r : Except Raised Value}
    (h : Unwraps defs copy v count r) (hv : Reaches defs root v) (copy' : Nat) : Unwraps defs copy' v count r := by
  induction h generalizing copy' with
  | done plain => exact .done plain
  | wrapper _ ih =>
    exact .wrapper (ih (hv.tail (.inner _ _ _ _)) copy')
  | raised call => exact .raised (hf.steady _ _ _ _ hv _ _ ▸ call)
  | resolved call _ ih => exact .resolved (hf.steady _ _ _ _ hv _ _ ▸ call) (ih (hv.tail (.getter call)) _)

/-- On a fixed graph the lazy nodes that one unwrapping resolves are distinct. -/
theorem Fixed.exists_resolved (hf : Fixed defs root) {copy count : Nat} {v : Value} {r : Except Raised Value}
    (h : Unwraps defs copy v count r) (hv : Reaches defs root v) :
    ∃ s : Finset Identity, s.card = count ∧ ∀ i ∈ s, ∃ d k, k ≤ count ∧ d.identity = i ∧
      Reaches defs root (.node d) ∧ Unwraps defs 0 (.node d) k r := by
  -- the count that is left tells the nodes apart: a node that came back would have two counts
  induction h with
  | done => exact ⟨∅, rfl, by simp⟩
  | wrapper _ ih => exact ih (hv.tail (.inner _ _ _ _))
  | @raised copy i j description g e call =>
    refine ⟨{i}, rfl, fun k hk => ?_⟩
    obtain rfl := Finset.mem_singleton.mp hk
    exact ⟨_, 1, le_rfl, rfl, hv, hf.unwraps_copy (.raised call) hv 0⟩
  | @resolved copy count i j description w g r call rest ih =>
    obtain ⟨s, hcard, hs⟩ := ih (hv.tail (.getter call))
    have hhead : Unwraps defs 0 (.node (.mk i description (.lazy j g))) (count + 1) r :=
      hf.unwraps_copy (.resolved call rest) hv 0
    have hi : i ∉ s := by
      intro hmem
      obtain ⟨d, k, hk, hid, hd, hu⟩ := hs i hmem
      obtain rfl := hf.faithful _ _ hd hv hid
      have := (hu.unique hhead).1
      omega
    refine ⟨insert i s, by rw [Finset.card_insert_of_notMem hi, hcard], fun k hk => ?_⟩
    rcases Finset.mem_insert.mp hk with rfl | hk
    · exact ⟨_, count + 1, le_rfl, rfl, hv, hhead⟩
    · obtain ⟨d, n, hn, hid, hd, hu⟩ := hs k hk
      exact ⟨d, n, by omega, hid, hd, hu⟩

/-- On a fixed graph unwrapping calls at most as many getters as there are nodes. -/
theorem Fixed.count_le (hf : Fixed defs root) {n : Nat} (hn : nodeCount defs root = n) {copy count : Nat} {v : Value}
    {r : Except Raised Value} (h : Unwraps defs copy v count r) (hv : Reaches defs root v) : count ≤ n := by
  obtain ⟨s, rfl, hs⟩ := hf.exists_resolved h hv
  refine card_le_of_subset_identities hn fun i hi => ?_
  obtain ⟨d, _, _, hid, hd, _⟩ := hs i hi
  exact ⟨d, hd, hid⟩

end Outcome

namespace ResolutionFailure

@[simp] theorem said_recursed (resolution : Nat) : (recursed resolution).said = recursed resolution := rfl

theorem said_getterFailed (e : Raised) :
    (getterFailed e).said = match e.written.obstacle? with
      | some why => unsaid why
      | none => getterFailed e := rfl

theorem said_unresolved {limit : Int} (h : 0 ≤ limit) : (unresolved limit).said = unresolved limit := by
  simp [said, obstacle?, not_lt.mpr h]

end ResolutionFailure

/-- What stands for a value whose getter raises `e`. -/
def Raised.mark (e : Raised) : Mark := (ResolutionFailure.ofRaised 1 e).said.mark

/-- What unwrapping comes to, numbers apart: a value that is no modifier, or what stands for the failure. -/
def Value.unwrapped (defs : Definitions) (limit : Int) (copy : Nat) (v : Value) : Except Mark Value :=
  match v.unwrap defs limit copy with
  | .ok (c, _) => .ok c
  | .error failure => .error failure.mark

theorem reaches_of_unwrapped {defs : Definitions} {limit : Int} {copy : Nat} {v c : Value}
    (h : v.unwrapped defs limit copy = .ok c) : Reaches defs v c := by
  unfold Value.unwrapped at h
  cases hu : v.unwrap defs limit copy with
  | error failure => simp [hu] at h
  | ok p =>
    rw [hu] at h
    obtain rfl := Except.ok.inj h
    exact reaches_of_unwrap hu

/-- The number of a resolution does not count for what stands for its failure. -/
theorem mark_said_ofRaised (resolution : Nat) (e : Raised) :
    (ResolutionFailure.ofRaised resolution e).said.mark = e.mark := by
  unfold Raised.mark ResolutionFailure.ofRaised
  split_ifs <;> rfl

theorem unwrapped_of_unwraps {defs : Definitions} {limit : Int} {copy count : Nat} {v : Value} {r : Except Raised Value}
    (h : Unwraps defs copy v count r) (hle : count ≤ limit.toNat) :
    v.unwrapped defs limit copy = r.mapError Raised.mark := by
  have hu : v.unwrap defs limit copy = (limitedOutcome copy count 1 r).mapError ResolutionFailure.said := by
    rw [unwrap_eq, unwrapFrom_of_unwraps h hle 1]
  cases r <;> simp [Value.unwrapped, hu, limitedOutcome, mark_said_ofRaised, Except.mapError]

theorem unwrapped_of_not_unwraps {defs : Definitions} {limit : Int} {copy : Nat} {v : Value} (hlimit : 0 ≤ limit)
    (h : ¬ ∃ count r, Unwraps defs copy v count r) : v.unwrapped defs limit copy = .error .recursion := by
  rcases unwrap_cases defs limit copy v with ⟨count, r, _, hu, _⟩ | hu
  · exact (h ⟨count, r, hu⟩).elim
  · simp [Value.unwrapped, hu, ResolutionFailure.said_unresolved hlimit, ResolutionFailure.mark]

/-- On a fixed graph all limits from the number of nodes on agree. -/
theorem Fixed.unwrapped_eq {defs : Definitions} {root v : Value} {n : Nat} (hf : Fixed defs root)
    (hn : nodeCount defs root = n) (hv : Reaches defs root v) {limit limit' : Int} (hl : n ≤ limit) (hl' : n ≤ limit')
    (copy copy' : Nat) : v.unwrapped defs limit copy = v.unwrapped defs limit' copy' := by
  by_cases h : ∃ count r, Unwraps defs copy v count r
  · obtain ⟨count, r, hu⟩ := h
    have hcount := hf.count_le hn hu hv
    rw [unwrapped_of_unwraps hu (by omega), unwrapped_of_unwraps (hf.unwraps_copy hu hv copy') (by omega)]
  · have h' : ¬ ∃ count r, Unwraps defs copy' v count r := by
      rintro ⟨count, r, hu⟩
      exact h ⟨count, r, hf.unwraps_copy hu hv copy⟩
    rw [unwrapped_of_not_unwraps (by omega) h, unwrapped_of_not_unwraps (by omega) h']

end Schematic
