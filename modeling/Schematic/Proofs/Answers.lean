import Schematic.Proofs.Question

/-! A question about a value is passed on to the values that it consults. Entering definitions it is cut off
after as many as there are; this loses no answer, for a question that enters a definition inside itself has
none. So the answers are those that come at some level, and they satisfy an equation without levels and
counts. -/
namespace Schematic

/-- The values to which the question for a capability may be passed on from a value. -/
def Value.consulted (c : Capability) (defs : Definitions) : Value → List Value
  | .node (.mk _ _ (.union options)) => options.map .node
  | .node (.mk _ _ (.intersection left right)) => [.node left, .node right]
  | .node (.mk _ _ (.modified m inner)) => if c.grantedBy m then [] else [.node inner]
  | .node (.mk _ _ (.lazy _ getter)) =>
    match getter.call defs 0 with
    | .ok w => [w]
    | .error _ => []
  | _ => []

def Value.isLazy : Value → Bool
  | .node (.mk _ _ (.lazy _ _)) => true
  | _ => false

section Mono

variable {c : Capability} {defs : Definitions} {i j : Identity} {description : Value}

theorem mem_consulted_lazy {g : Action} {w : Value} :
    w ∈ (Value.node (.mk i description (.lazy j g))).consulted c defs ↔ g.call defs 0 = .ok w := by
  rw [Value.consulted]
  cases g.call defs 0 with
  | error e => simp
  | ok x => simp [eq_comm]

theorem mem_consulted_modified {m : Modifier} {inner : Descriptor} {w : Value} :
    w ∈ (Value.node (.mk i description (.modified m inner))).consulted c defs ↔
      c.grantedBy m = false ∧ w = .node inner := by
  rw [Value.consulted]
  cases c.grantedBy m <;> simp

theorem askWith_lazy_eq_some_iff {child : Value → Option Bool} {g : Action} {b : Bool} :
    askWith c defs child (.node (.mk i description (.lazy j g))) = some b ↔
      ∃ w, g.call defs 0 = .ok w ∧ child w = some b := by
  rw [askWith]
  cases g.call defs 0 with
  | error e => simp
  | ok x => simp

theorem askWith_modified_eq_some_iff {child : Value → Option Bool} {m : Modifier} {inner : Descriptor} {b : Bool} :
    askWith c defs child (.node (.mk i description (.modified m inner))) = some b ↔
      c.grantedBy m = true ∧ b = true ∨ c.grantedBy m = false ∧ child (.node inner) = some b := by
  rw [askWith]
  cases c.grantedBy m <;> simp [eq_comm]

/-- The right side of an intersection is asked when the left one says yes. -/
theorem askWith_intersection_eq_some_iff {child : Value → Option Bool} {left right : Descriptor} {b : Bool} :
    askWith c defs child (.node (.mk i description (.intersection left right))) = some b ↔
      child (.node left) = some true ∧ child (.node right) = some b ∨ child (.node left) = some false ∧ b = false := by
  rw [askWith]
  rcases child (.node left) with _ | _ | _ <;> simp [eq_comm]

theorem anyKind_mono {α : Type} {f f' : α → Option Bool} {xs : List α} {b : Bool}
    (h : ∀ x ∈ xs, ∀ b, f x = some b → f' x = some b) (hb : anyKind (xs.map f) = some b) :
    anyKind (xs.map f') = some b := by
  induction xs with
  | nil => exact hb
  | cons x xs ih =>
    obtain ⟨hx, hxs⟩ := List.forall_mem_cons.mp h
    rw [List.map_cons, anyKind] at hb ⊢
    split_ifs at hb with hfirst
    · rw [if_pos (hx false hfirst)]
      exact ih hxs hb
    · have hb' := hx b hb
      rw [if_neg (by rw [hb', ← hb]; exact hfirst), hb']

theorem askWith_mono {child child' : Value → Option Bool} {v : Value} {b : Bool}
    (h : ∀ w ∈ v.consulted c defs, ∀ b, child w = some b → child' w = some b)
    (hb : askWith c defs child v = some b) : askWith c defs child' v = some b := by
  cases v with
  | node d =>
    obtain ⟨i, description, body⟩ := d
    cases body with
    | union options =>
      exact anyKind_mono (fun o ho => h _ (List.mem_map_of_mem ho)) hb
    | intersection left right =>
      have hleft := h (.node left) List.mem_cons_self
      have hright := h (.node right) (by simp [Value.consulted])
      rw [askWith_intersection_eq_some_iff] at hb ⊢
      exact hb.imp (And.imp (hleft true) (hright b)) (And.imp_left (hleft false))
    | modified m inner =>
      rw [askWith_modified_eq_some_iff] at hb ⊢
      exact hb.imp_right fun ⟨hm, hinner⟩ => ⟨hm, h _ (mem_consulted_modified.mpr ⟨hm, rfl⟩) b hinner⟩
    | lazy j g =>
      obtain ⟨w, hcall, hw⟩ := askWith_lazy_eq_some_iff.mp hb
      exact askWith_lazy_eq_some_iff.mpr ⟨w, hcall, h w (mem_consulted_lazy.mpr hcall) b hw⟩
    | _ => exact hb
  | _ => exact hb

theorem askWithin_mono {levels levels' : Nat} {v : Value} {b : Bool} (hb : askWithin c defs levels v = some b)
    (hle : levels ≤ levels') : askWithin c defs levels' v = some b := by
  induction levels generalizing levels' v b with
  | zero => cases hb
  | succ levels ih =>
    obtain ⟨levels', rfl⟩ : ∃ l, levels' = l + 1 := ⟨levels' - 1, by omega⟩
    exact askWith_mono (fun w _ b hw => ih hw (by omega)) hb

theorem exists_level {f : Value → Option Bool} (ws : List Value)
    (h : ∀ w ∈ ws, ∀ b, f w = some b → ∃ levels, askWithin c defs levels w = some b) :
    ∃ levels, ∀ w ∈ ws, ∀ b, f w = some b → askWithin c defs levels w = some b := by
  induction ws with
  | nil => exact ⟨0, by simp⟩
  | cons w ws ih =>
    obtain ⟨hw, hws⟩ := List.forall_mem_cons.mp h
    obtain ⟨levels, hlevels⟩ := ih hws
    cases hf : f w with
    | none => exact ⟨levels, List.forall_mem_cons.mpr ⟨by simp [hf], hlevels⟩⟩
    | some b =>
      obtain ⟨first, hfirst⟩ := hw b hf
      refine ⟨max first levels, List.forall_mem_cons.mpr ⟨fun b' hb' => ?_, fun x hx b' hb' => ?_⟩⟩
      · obtain rfl := Option.some.inj (hf.symm.trans hb')
        exact askWithin_mono hfirst (le_max_left _ _)
      · exact askWithin_mono (hlevels x hx b' hb') (le_max_right _ _)

end Mono

section Count

variable {c : Capability} {defs : Definitions}

/-- A question is passed on to the fields of a node, a lazy one apart. -/
theorem kind_ask_eq_of_not_lazy {jump : Nat → Answer} {v : Value} (hv : v.isLazy = false) :
    (v.ask c defs jump).kind = askWith c defs (fun w => (w.ask c defs jump).kind) v := by
  refine kind_ask_eq_askWith (fun _ _ _ _ => rfl) fun i description j g h => ?_
  rw [h] at hv
  cases hv

theorem Value.lazy_cases (v : Value) : v.isLazy = false ∨ ∃ i description j g, v = .node (.mk i description (.lazy j g)) := by
  cases v with
  | node d =>
    obtain ⟨i, description, body⟩ := d
    cases body with
    | lazy j g => exact .inr ⟨i, description, j, g, rfl⟩
    | _ => exact .inl rfl
  | _ => exact .inl rfl

theorem sizeOf_consulted_lt {v w : Value} (hv : v.isLazy = false) (h : w ∈ v.consulted c defs) : sizeOf w < sizeOf v := by
  have hchild : ∀ d : Descriptor, w ∈ d.body.children → sizeOf w < sizeOf (Value.node d) := by
    intro d hd
    have := Descriptor.sizeOf_children_lt hd
    simp only [Value.node.sizeOf_spec]
    omega
  cases v with
  | node d =>
    obtain ⟨i, description, body⟩ := d
    cases body with
    | union options => exact hchild _ h
    | intersection left right => exact hchild _ h
    | modified m inner =>
      obtain ⟨_, rfl⟩ := mem_consulted_modified.mp h
      exact hchild _ List.mem_cons_self
    | lazy j g => cases hv
    | _ => cases h
  | _ => cases h

/-- What a call in a question gives is what it gives without building anew. -/
theorem askWithin_rebuilds {n : Nat} {w : Value} (hget : defs.get n = .ok w) (levels : Nat) (i j : Identity)
    (description : Value) :
    askWithin c defs (levels + 1) (.node (.mk i description (.lazy j (.rebuilds n)))) = askWithin c defs levels w := by
  simp only [askWithin, askWith, Action.call, hget, Except.map]
  exact askWithin_mapIdentity _ _ _

theorem askWithin_shares {n : Nat} {w : Value} (hget : defs.get n = .ok w) (levels : Nat) (i j : Identity)
    (description : Value) :
    askWithin c defs (levels + 1) (.node (.mk i description (.lazy j (.shares n)))) = askWithin c defs levels w := by
  simp only [askWithin, askWith, Action.call, hget]

/-- An answer comes at some level if those for definitions do. -/
theorem exists_askWithin_of_jump {jump : Nat → Answer}
    (hjump : ∀ n b, (jump n).kind = some b → ∃ levels w, defs.get n = .ok w ∧ askWithin c defs levels w = some b)
    {v : Value} {b : Bool} (h : (v.ask c defs jump).kind = some b) : ∃ levels, askWithin c defs levels v = some b := by
  induction hsize : sizeOf v using Nat.strong_induction_on generalizing v b with
  | _ size ih =>
    subst hsize
    rcases v.lazy_cases with hv | ⟨i, description, j, g, rfl⟩
    · rw [kind_ask_eq_of_not_lazy hv] at h
      obtain ⟨levels, hlevels⟩ := exists_level (f := fun w => (w.ask c defs jump).kind) (v.consulted c defs)
        fun w hw b hb => ih _ (sizeOf_consulted_lt hv hw) hb rfl
      exact ⟨levels + 1, askWith_mono hlevels h⟩
    · rw [Value.ask, Descriptor.ask, Body.ask] at h
      cases g with
      | returns w =>
        obtain ⟨levels, hlevels⟩ := ih _ (by simp; omega) h rfl
        exact ⟨levels + 1, hlevels⟩
      | raises e => cases h
      | shares n =>
        obtain ⟨levels, w, hget, hlevels⟩ := hjump n b h
        exact ⟨levels + 1, (askWithin_shares hget levels i j description).trans hlevels⟩
      | rebuilds n =>
        obtain ⟨levels, w, hget, hlevels⟩ := hjump n b h
        exact ⟨levels + 1, (askWithin_rebuilds hget levels i j description).trans hlevels⟩

/-- An answer that comes while entered definitions are counted comes at some level. -/
theorem exists_askWithin_of_ask (entries : Nat) {v : Value} {b : Bool}
    (h : (v.ask c defs (askDefinition c defs entries)).kind = some b) : ∃ levels, askWithin c defs levels v = some b := by
  induction entries generalizing v b with
  | zero => exact exists_askWithin_of_jump (fun _ _ hn => by cases hn) h
  | succ entries ih =>
    refine exists_askWithin_of_jump (fun n b hn => ?_) h
    cases hget : defs.get n with
    | error e => simp [askDefinition, hget, Answer.kind] at hn
    | ok w =>
      simp only [askDefinition, hget] at hn
      obtain ⟨levels, hlevels⟩ := ih hn
      exact ⟨levels, w, rfl, hlevels⟩

theorem askWithin_eq_none {levels levels' : Nat} {v : Value} (h : askWithin c defs levels' v = none) (hle : levels ≤ levels') :
    askWithin c defs levels v = none := by
  cases hb : askWithin c defs levels v with
  | none => rfl
  | some b => exact (askWithin_mono hb hle).symm.trans h

theorem exists_first_level {levels : Nat} {v : Value} {b : Bool} (h : askWithin c defs levels v = some b) :
    ∃ before, before < levels ∧ askWithin c defs before v = none ∧ askWithin c defs (before + 1) v = some b := by
  induction levels with
  | zero => cases h
  | succ levels ih =>
    cases hbefore : askWithin c defs levels v with
    | none => exact ⟨levels, Nat.lt_succ_self levels, hbefore, h⟩
    | some b' =>
      obtain rfl : b' = b := Option.some.inj ((askWithin_mono hbefore (Nat.le_succ levels)).symm.trans h)
      obtain ⟨before, hlt, hnone, hsome⟩ := ih hbefore
      exact ⟨before, by omega, hnone, hsome⟩

/-- Definitions without an answer at a level. -/
def Unanswered (c : Capability) (defs : Definitions) (levels : Nat) (entered : Finset Nat) : Prop :=
  ∀ n ∈ entered, n < defs.length ∧ ∀ w, defs.get n = .ok w → askWithin c defs levels w = none

theorem Unanswered.mono {levels levels' : Nat} {entered : Finset Nat} (h : Unanswered c defs levels' entered)
    (hle : levels ≤ levels') : Unanswered c defs levels entered := fun n hn =>
  ⟨(h n hn).1, fun w hw => askWithin_eq_none ((h n hn).2 w hw) hle⟩

/-- A definition with an answer is a new one among those without. -/
theorem Unanswered.insert {levels before n : Nat} {w : Value} {b : Bool} {entered : Finset Nat}
    (h : Unanswered c defs levels entered) (hget : defs.get n = .ok w) (hw : askWithin c defs levels w = some b)
    (hlt : before < levels) (hnone : askWithin c defs before w = none) :
    Unanswered c defs before (insert n entered) ∧ (insert n entered).card = entered.card + 1 ∧
      entered.card < defs.length := by
  have hn : n < defs.length := by
    by_contra hn
    obtain rfl := Except.ok.inj ((get_of_length_le (Nat.le_of_not_lt hn)).symm.trans hget)
    rw [askWithin_null] at hw
    cases hw
  have hnew : n ∉ entered := fun hmem => by
    rw [(h n hmem).2 w hget] at hw
    cases hw
  have hall : Unanswered c defs before (Insert.insert n entered) := by
    intro k hk
    rcases Finset.mem_insert.mp hk with rfl | hk
    · refine ⟨hn, fun x hx => ?_⟩
      obtain rfl := Except.ok.inj (hget.symm.trans hx)
      exact hnone
    · exact h.mono hlt.le k hk
  obtain ⟨hinsert, hcard⟩ := card_insert_of_subset hnew fun k hk => Finset.mem_range.mpr (hall k hk).1
  rw [Finset.card_range] at hcard
  exact ⟨hall, hinsert, hcard⟩

/-- An answer that comes at a level comes while entered definitions are counted. Those that were `entered` have no
answer one level below, so none of them is entered again. -/
theorem ask_of_askWithin (levels : Nat) {v : Value} {b : Bool} (hb : askWithin c defs (levels + 1) v = some b)
    (entered : Finset Nat) (hentered : Unanswered c defs levels entered) {entries : Nat}
    (hentries : defs.length ≤ entered.card + entries) :
    (v.ask c defs (askDefinition c defs entries)).kind = some b := by
  induction levels using Nat.strong_induction_on generalizing v b entered entries with
  | _ levels ih =>
    have hbelow : ∀ w b, askWithin c defs levels w = some b →
        (w.ask c defs (askDefinition c defs entries)).kind = some b := by
      intro w b hw
      cases levels with
      | zero => cases hw
      | succ levels =>
        exact ih levels (Nat.lt_succ_self levels) hw entered (hentered.mono (Nat.le_succ levels)) hentries
    have hjump : ∀ n w b, defs.get n = .ok w → askWithin c defs levels w = some b →
        (askDefinition c defs entries n).kind = some b := by
      intro n w b hget hw
      obtain ⟨before, hlt, hnone, hsome⟩ := exists_first_level hw
      obtain ⟨hunanswered, hinsert, hcard⟩ := hentered.insert hget hw hlt hnone
      obtain ⟨entries, rfl⟩ : ∃ e, entries = e + 1 := ⟨entries - 1, by omega⟩
      rw [askDefinition, hget]
      exact ih before hlt hsome (insert n entered) hunanswered (by omega)
    rcases v.lazy_cases with hv | ⟨i, description, j, g, rfl⟩
    · rw [kind_ask_eq_of_not_lazy hv]
      exact askWith_mono (fun w _ b hw => hbelow w b hw) hb
    · rw [Value.ask, Descriptor.ask, Body.ask]
      cases g with
      | returns w => exact hbelow w b hb
      | raises e => cases hb
      | shares n =>
        cases hget : defs.get n with
        | error e => simp [askWithin, askWith, Action.call, hget] at hb
        | ok w => exact hjump n w b hget (askWithin_shares hget levels i j description ▸ hb)
      | rebuilds n =>
        cases hget : defs.get n with
        | error e => simp [askWithin, askWith, Action.call, hget, Except.map] at hb
        | ok w => exact hjump n w b hget (askWithin_rebuilds hget levels i j description ▸ hb)

theorem kind_answer_eq_some_iff {v : Value} {b : Bool} :
    (v.answer c defs).kind = some b ↔ ∃ levels, askWithin c defs levels v = some b := by
  refine ⟨exists_askWithin_of_ask defs.length, ?_⟩
  rintro ⟨levels, h⟩
  obtain ⟨before, _, _, hsome⟩ := exists_first_level h
  exact ask_of_askWithin before hsome ∅ (by simp [Unanswered]) (by simp)

/-- A value has the answer that the question makes of the answers of what it consults. -/
theorem kind_answer_eq (v : Value) :
    (v.answer c defs).kind = askWith c defs (fun w => (w.answer c defs).kind) v := by
  have hlevel : ∀ b, (v.answer c defs).kind = some b ↔ askWith c defs (fun w => (w.answer c defs).kind) v = some b := by
    intro b
    rw [kind_answer_eq_some_iff]
    constructor
    · rintro ⟨levels, h⟩
      cases levels with
      | zero => cases h
      | succ levels => exact askWith_mono (fun w _ b hw => kind_answer_eq_some_iff.mpr ⟨levels, hw⟩) h
    · intro h
      obtain ⟨levels, hlevels⟩ := exists_level (f := fun w => (w.answer c defs).kind) (v.consulted c defs)
        fun w _ b hw => kind_answer_eq_some_iff.mp hw
      exact ⟨levels + 1, askWith_mono hlevels h⟩
  exact Option.ext hlevel

theorem can_eq_true_iff {v : Value} : v.can c defs = true ↔ (v.answer c defs).kind = some true := by
  rw [Value.can, Answer.isYes_eq, beq_iff_eq]

end Count

end Schematic
