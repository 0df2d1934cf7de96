import Schematic.Proofs.Answers
import Schematic.Schema.Summary

/-! `Admits` is the least relation that the rules for absent values and for nulls are closed under, whatever
is asked first. An answer that is given agrees with it, so a flag of a summary is never set without reason.
Where the question leads to no cycle, to no getter that raises and to nothing that does not know it, an answer
is always given. -/
namespace Schematic

/-- An object that is no descriptor answers the question by its own method; the answer counts as `b`. -/
inductive AnswersItself (c : Capability) (defs : Definitions) : Value → (b : Bool) → Prop
  | method {i j : Identity} {className : Text} {attributes : List (Text × Value)} {unreadable : List (Text × Obstacle)}
      {action : Action} {r : Value} {b : Bool}
      (own : (Value.foreign i className attributes unreadable).attribute? c.methodName = some (.callable j action))
      (call : action.call defs 0 = .ok r) (counts : r.truthy = b) :
      AnswersItself c defs (.foreign i className attributes unreadable) b

/-- A value admits an absent value, or a null. -/
inductive Admits (defs : Definitions) : Capability → Value → Prop
  | any {c : Capability} {i : Identity} {description : Value} : Admits defs c (.node (.mk i description (.primitive .any)))
  | unknown {c : Capability} {i : Identity} {description : Value} :
      Admits defs c (.node (.mk i description (.primitive .unknown)))
  | undefined {i : Identity} {description : Value} : Admits defs .optional (.node (.mk i description (.primitive .undefined)))
  | void {i : Identity} {description : Value} : Admits defs .optional (.node (.mk i description (.primitive .void)))
  | null {i : Identity} {description : Value} : Admits defs .nullable (.node (.mk i description (.primitive .null)))
  | literalAbsent {i : Identity} {description : Value} :
      Admits defs .optional (.node (.mk i description (.literal .absent)))
  | literalNull {i : Identity} {description : Value} : Admits defs .nullable (.node (.mk i description (.literal .null)))
  | optional {i : Identity} {description : Value} {inner : Descriptor} :
      Admits defs .optional (.node (.mk i description (.modified .optional inner)))
  | default {i : Identity} {description value factory : Value} {inner : Descriptor} :
      Admits defs .optional (.node (.mk i description (.modified (.default value factory) inner)))
  | nullable {i : Identity} {description : Value} {inner : Descriptor} :
      Admits defs .nullable (.node (.mk i description (.modified .nullable inner)))
  | catching {c : Capability} {i : Identity} {description value : Value} {inner : Descriptor} :
      Admits defs c (.node (.mk i description (.modified (.catching value) inner)))
  | inner {c : Capability} {i : Identity} {description : Value} {m : Modifier} {inner : Descriptor}
      (below : Admits defs c (.node inner)) : Admits defs c (.node (.mk i description (.modified m inner)))
  | getter {c : Capability} {i j : Identity} {description w : Value} {g : Action} (call : g.call defs 0 = .ok w)
      (result : Admits defs c w) : Admits defs c (.node (.mk i description (.lazy j g)))
  | option {c : Capability} {i : Identity} {description : Value} {o : Descriptor} {options : List Descriptor}
      (member : o ∈ options) (yes : Admits defs c (.node o)) : Admits defs c (.node (.mk i description (.union options)))
  | both {c : Capability} {i : Identity} {description : Value} {left right : Descriptor}
      (first : Admits defs c (.node left)) (second : Admits defs c (.node right)) :
      Admits defs c (.node (.mk i description (.intersection left right)))
  | itself {c : Capability} {v : Value} (own : AnswersItself c defs v true) : Admits defs c v

/-- The question for a capability about one value may be passed on to another one. -/
def Consults (c : Capability) (defs : Definitions) (v w : Value) : Prop := w ∈ v.consulted c defs

/-- The values that the question for a capability about a value may come to. -/
abbrev AsksAbout (c : Capability) (defs : Definitions) : Value → Value → Prop := Relation.ReflTransGen (Consults c defs)

/-- The question about `v` comes back to no value, to no getter that raises, and to nothing that does not know it. -/
structure Settled (c : Capability) (defs : Definitions) (v : Value) : Prop where
  acyclic : ∀ w, AsksAbout c defs v w → ¬ Relation.TransGen (Consults c defs) w w
  returning : ∀ i description j g, AsksAbout c defs v (.node (.mk i description (.lazy j g))) →
    ∃ w, g.call defs 0 = .ok w
  answering : ∀ w, AsksAbout c defs v w → ¬ w.IsNode → ∃ b, AnswersItself c defs w b

section Answer

variable {c : Capability} {defs : Definitions}

theorem AnswersItself.not_isNode {v : Value} {b : Bool} (h : AnswersItself c defs v b) : ¬ v.IsNode := by
  rintro ⟨d, rfl⟩
  cases h

/-- An answer of an object that is no descriptor is that of its own method. -/
theorem askWith_eq_some_iff_answersItself {child : Value → Option Bool} {v : Value} (hv : ¬ v.IsNode) {b : Bool} :
    askWith c defs child v = some b ↔ AnswersItself c defs v b := by
  constructor
  · intro h
    cases v with
    | node d => exact (hv ⟨d, rfl⟩).elim
    | foreign i className attributes unreadable =>
      simp only [askWith, Value.ask] at h
      cases hown : (Value.foreign i className attributes unreadable).attribute? c.methodName with
      | none =>
        rw [hown] at h
        cases h
      | some v =>
        rw [hown] at h
        cases v with
        | callable j action =>
          simp only [Value.answerOfCall] at h
          cases hcall : action.call defs 0 with
          | error e =>
            rw [hcall] at h
            cases h
          | ok r =>
            rw [hcall] at h
            exact .method hown hcall (Option.some.inj h)
        | _ => cases h
    | _ => cases h
  · rintro ⟨own, call, counts⟩
    simp only [askWith, Value.ask, own, Value.answerOfCall, call, Answer.kind, counts]

/-- What is admitted by a union is told by the kinds of answer of its options. -/
theorem anyKind_eq_some_iff {α : Type} {f : α → Option Bool} {P : α → Prop} {xs : List α} {b : Bool}
    (h : ∀ x ∈ xs, ∀ b, f x = some b → (b = true ↔ P x)) (hb : anyKind (xs.map f) = some b) :
    b = true ↔ ∃ x ∈ xs, P x := by
  induction xs with
  | nil =>
    obtain rfl : false = b := Option.some.inj hb
    simp
  | cons x xs ih =>
    obtain ⟨hx, hxs⟩ := List.forall_mem_cons.mp h
    rw [List.map_cons, anyKind] at hb
    rw [List.exists_mem_cons_iff]
    split_ifs at hb with hfirst
    · have hno := hx false hfirst
      rw [ih hxs hb]
      simp at hno
      simp [hno]
    · have hyes : b = true := Bool.eq_true_of_not_eq_false fun hno => hfirst (hno ▸ hb)
      simp only [hyes, true_iff]
      exact .inl ((hx b hb).mp hyes)

theorem ofPrimitive_iff_admits {i : Identity} {description : Value} {p : Primitive} :
    c.ofPrimitive p = true ↔ Admits defs c (.node (.mk i description (.primitive p))) := by
  constructor
  · intro h
    cases c <;> cases p <;> first | exact Bool.noConfusion h | constructor
  · intro h
    cases h with
    | itself own => cases own
    | any | unknown => cases c <;> rfl
    | _ => rfl

theorem ofLiteral_iff_admits {i : Identity} {description v : Value} :
    c.ofLiteral v = true ↔ Admits defs c (.node (.mk i description (.literal v))) := by
  constructor
  · intro h
    cases c <;> cases v <;> first | exact Bool.noConfusion h | constructor
  · intro h
    cases h with
    | itself own => cases own
    | _ => rfl

theorem admits_of_grantedBy {i : Identity} {description : Value} {m : Modifier} {inner : Descriptor}
    (h : c.grantedBy m = true) : Admits defs c (.node (.mk i description (.modified m inner))) := by
  cases c <;> cases m <;> first | exact Bool.noConfusion h | constructor

theorem admits_modified_iff {i : Identity} {description : Value} {m : Modifier} {inner : Descriptor}
    (hm : c.grantedBy m = false) :
    Admits defs c (.node (.mk i description (.modified m inner))) ↔ Admits defs c (.node inner) := by
  refine ⟨fun h => ?_, .inner⟩
  cases h with
  | inner below => exact below
  | itself own => cases own
  | catching => cases c <;> cases hm
  | _ => cases hm

theorem admits_union_iff {i : Identity} {description : Value} {options : List Descriptor} :
    Admits defs c (.node (.mk i description (.union options))) ↔ ∃ o ∈ options, Admits defs c (.node o) := by
  refine ⟨fun h => ?_, fun ⟨o, ho, hyes⟩ => .option ho hyes⟩
  cases h with
  | option member yes => exact ⟨_, member, yes⟩
  | itself own => cases own

theorem admits_intersection_iff {i : Identity} {description : Value} {left right : Descriptor} :
    Admits defs c (.node (.mk i description (.intersection left right))) ↔
      Admits defs c (.node left) ∧ Admits defs c (.node right) := by
  refine ⟨fun h => ?_, fun h => .both h.1 h.2⟩
  cases h with
  | both first second => exact ⟨first, second⟩
  | itself own => cases own

theorem admits_lazy_iff {i j : Identity} {description : Value} {g : Action} {w : Value} (hcall : g.call defs 0 = .ok w) :
    Admits defs c (.node (.mk i description (.lazy j g))) ↔ Admits defs c w := by
  refine ⟨fun h => ?_, .getter hcall⟩
  cases h with
  | getter call result => exact Except.ok.inj (hcall.symm.trans call) ▸ result
  | itself own => cases own

/-- The answer of an object that is no descriptor agrees with what is admitted. -/
theorem askWith_iff_admits_of_not_isNode {child : Value → Option Bool} {v : Value} (hv : ¬ v.IsNode) {b : Bool}
    (hb : askWith c defs child v = some b) : b = true ↔ Admits defs c v := by
  have hown := (askWith_eq_some_iff_answersItself hv).mp hb
  refine ⟨fun h => .itself (h ▸ hown), fun h => ?_⟩
  cases h with
  | itself own =>
    have hsome : askWith c defs child v = some true := (askWith_eq_some_iff_answersItself hv).mpr own
    exact Option.some.inj (hb.symm.trans hsome)
  | _ => exact (hv ⟨_, rfl⟩).elim

/-- An answer made of answers that agree with what is admitted agrees with it. -/
theorem askWith_iff_admits {child : Value → Option Bool} {v : Value} {b : Bool}
    (hchild : ∀ w ∈ v.consulted c defs, ∀ b, child w = some b → (b = true ↔ Admits defs c w))
    (hb : askWith c defs child v = some b) : b = true ↔ Admits defs c v := by
  by_cases hv : v.IsNode
  · obtain ⟨⟨i, description, body⟩, rfl⟩ := hv
    cases body with
    | primitive p =>
      obtain rfl := Option.some.inj hb
      exact ofPrimitive_iff_admits
    | literal v =>
      obtain rfl := Option.some.inj hb
      exact ofLiteral_iff_admits
    | union options =>
      rw [admits_union_iff]
      exact anyKind_eq_some_iff (fun o ho => hchild (.node o) (List.mem_map_of_mem ho)) hb
    | intersection left right =>
      have hleft := hchild (.node left) List.mem_cons_self
      have hright := hchild (.node right) (by simp [Value.consulted])
      rw [admits_intersection_iff]
      rcases askWith_intersection_eq_some_iff.mp hb with ⟨hyes, hsecond⟩ | ⟨hno, rfl⟩
      · rw [hright b hsecond, ← hleft true hyes]
        simp
      · rw [← hleft false hno]
        simp
    | modified m inner =>
      rcases askWith_modified_eq_some_iff.mp hb with ⟨hm, rfl⟩ | ⟨hm, hinner⟩
      · exact iff_of_true rfl (admits_of_grantedBy hm)
      · rw [admits_modified_iff hm]
        exact hchild _ (mem_consulted_modified.mpr ⟨hm, rfl⟩) b hinner
    | lazy j g =>
      obtain ⟨w, hcall, hw⟩ := askWith_lazy_eq_some_iff.mp hb
      rw [admits_lazy_iff hcall]
      exact hchild w (mem_consulted_lazy.mpr hcall) b hw
    | _ =>
      obtain rfl : false = b := Option.some.inj hb
      refine iff_of_false Bool.false_ne_true fun h => ?_
      cases h with
      | itself own => cases own
  · exact askWith_iff_admits_of_not_isNode hv hb

theorem kind_answer_iff_admits {v : Value} {b : Bool} (hb : (v.answer c defs).kind = some b) :
    b = true ↔ Admits defs c v := by
  obtain ⟨levels, hlevels⟩ := kind_answer_eq_some_iff.mp hb
  induction levels generalizing v b with
  | zero => cases hlevels
  | succ levels ih =>
    exact askWith_iff_admits (fun w _ b hw => ih (kind_answer_eq_some_iff.mpr ⟨levels, hw⟩) hw) hlevels

end Answer

section Acyclic

variable {c : Capability} {defs : Definitions}

/-- The two ways for a getter to enter a definition: to share it, or to build it anew. -/
def entry : Bool × Nat → Action
  | (false, n) => .shares n
  | (true, n) => .rebuilds n

theorem null_of_entry {k : Bool × Nat} {w : Value} (hk : defs.length ≤ k.2) (hw : (entry k).call defs 0 = .ok w) :
    w = .null := by
  obtain ⟨anew, n⟩ := k
  have hget := get_of_length_le hk
  cases anew with
  | false => exact (Except.ok.inj (hget.symm.trans hw)).symm
  | true =>
    simp only [entry, Action.call, hget, Except.map] at hw
    exact (Except.ok.inj hw).symm

/-- What a value consults is smaller, or a definition is entered for it. -/
theorem Consults.smaller_or_entered {v w : Value} (h : Consults c defs v w) :
    sizeOf w < sizeOf v ∨ ∃ k, (entry k).call defs 0 = .ok w := by
  rcases v.lazy_cases with hv | ⟨i, description, j, g, rfl⟩
  · exact .inl (sizeOf_consulted_lt hv h)
  · have hcall := mem_consulted_lazy.mp h
    cases g with
    | returns y =>
      obtain rfl := Except.ok.inj hcall
      left
      simp
      omega
    | raises e => cases hcall
    | shares n => exact .inr ⟨(false, n), hcall⟩
    | rebuilds n => exact .inr ⟨(true, n), hcall⟩

/-- Without a cycle a question is passed on finitely often. Each entry that was used before has led to the value, so
using it again would close a cycle. -/
theorem acc_of_acyclic (left : Nat) (entered : Finset (Bool × Nat)) {v : Value}
    (hacyclic : ∀ w, AsksAbout c defs v w → ¬ Relation.TransGen (Consults c defs) w w)
    (hentered : ∀ k ∈ entered, k.2 < defs.length ∧ ∃ x, (entry k).call defs 0 = .ok x ∧ AsksAbout c defs x v)
    (hleft : 2 * defs.length ≤ entered.card + left) : Acc (fun w v => Consults c defs v w) v := by
  induction left using Nat.strong_induction_on generalizing entered v with
  | _ left ih =>
  induction hsize : sizeOf v using Nat.strong_induction_on generalizing v with
  | _ size ihsize =>
  subst hsize
  refine .intro v fun w hw => ?_
  have hbelow : ∀ x, AsksAbout c defs w x → ¬ Relation.TransGen (Consults c defs) x x :=
    fun x hx => hacyclic x (.head hw hx)
  have hstep : ∀ k ∈ entered, k.2 < defs.length ∧ ∃ x, (entry k).call defs 0 = .ok x ∧ AsksAbout c defs x w := by
    intro k hk
    obtain ⟨hlt, x, hx, hreach⟩ := hentered k hk
    exact ⟨hlt, x, hx, hreach.tail hw⟩
  rcases hw.smaller_or_entered with hlt | ⟨k, hk⟩
  · exact ihsize _ hlt hbelow hstep rfl
  · by_cases hlt : k.2 < defs.length
    · have hnew : k ∉ entered := by
        intro hmem
        obtain ⟨_, x, hx, hreach⟩ := hentered k hmem
        obtain rfl := Except.ok.inj (hk.symm.trans hx)
        exact hbelow w .refl (Relation.TransGen.tail' hreach hw)
      have hentered' : ∀ l ∈ insert k entered, l.2 < defs.length ∧
          ∃ x, (entry l).call defs 0 = .ok x ∧ AsksAbout c defs x w := by
        intro l hl
        rcases Finset.mem_insert.mp hl with rfl | hl
        · exact ⟨hlt, w, hk, .refl⟩
        · exact hstep l hl
      have hall : insert k entered ⊆ Finset.univ ×ˢ Finset.range defs.length := fun l hl =>
        Finset.mem_product.mpr ⟨Finset.mem_univ _, Finset.mem_range.mpr (hentered' l hl).1⟩
      obtain ⟨hinsert, hcard⟩ := card_insert_of_subset hnew hall
      rw [Finset.card_product, Finset.card_range, Finset.card_univ, Fintype.card_bool] at hcard
      exact ih (left - 1) (by omega) (insert k entered) hbelow hentered' (by omega)
    · obtain rfl := null_of_entry (Nat.le_of_not_lt hlt) hk
      exact .intro _ fun x hx => by cases hx

theorem isSome_anyKind {kinds : List (Option Bool)} (h : ∀ kind ∈ kinds, kind.isSome) : (anyKind kinds).isSome := by
  induction kinds with
  | nil => rfl
  | cons kind kinds ih =>
    obtain ⟨hkind, hkinds⟩ := List.forall_mem_cons.mp h
    rw [anyKind]
    split_ifs
    · exact ih hkinds
    · exact hkind

/-- A question has an answer if what it consults has, unless a getter raises or an object does not know it. -/
theorem isSome_askWith {child : Value → Option Bool} {v : Value} (hchild : ∀ w, Consults c defs v w → (child w).isSome)
    (hgetter : ∀ i description j g, v = .node (.mk i description (.lazy j g)) → ∃ w, g.call defs 0 = .ok w)
    (hown : ¬ v.IsNode → ∃ b, AnswersItself c defs v b) : (askWith c defs child v).isSome := by
  by_cases hv : v.IsNode
  · obtain ⟨⟨i, description, body⟩, rfl⟩ := hv
    cases body with
    | union options =>
      refine isSome_anyKind fun kind hkind => ?_
      obtain ⟨o, ho, rfl⟩ := List.mem_map.mp hkind
      exact hchild _ (List.mem_map_of_mem ho)
    | intersection left right =>
      rw [askWith]
      split_ifs
      · exact hchild _ (List.mem_cons_of_mem _ List.mem_cons_self)
      · exact hchild _ List.mem_cons_self
    | modified m inner =>
      rw [askWith]
      split_ifs with hm
      · rfl
      · exact hchild _ (mem_consulted_modified.mpr ⟨Bool.eq_false_iff.mpr hm, rfl⟩)
    | lazy j g =>
      obtain ⟨w, hw⟩ := hgetter i description j g rfl
      simp only [askWith, hw]
      exact hchild w (mem_consulted_lazy.mpr hw)
    | _ => rfl
  · obtain ⟨b, hb⟩ := hown hv
    rw [(askWith_eq_some_iff_answersItself hv).mpr hb]
    rfl

theorem Settled.below {v w : Value} (h : Settled c defs v) (hw : Consults c defs v w) : Settled c defs w where
  acyclic x hx := h.acyclic x (.head hw hx)
  returning i description j g hg := h.returning i description j g (.head hw hg)
  answering x hx := h.answering x (.head hw hx)

theorem Settled.acc {v : Value} (h : Settled c defs v) : Acc (fun w v => Consults c defs v w) v :=
  acc_of_acyclic (2 * defs.length) ∅ h.acyclic (by simp) (by simp)

theorem Settled.isSome_answer {v : Value} (h : Settled c defs v) : (v.answer c defs).kind.isSome := by
  induction h.acc with
  | intro v _ ih =>
    rw [kind_answer_eq]
    refine isSome_askWith (fun w hw => ih w hw (h.below hw)) (fun i description j g hv => ?_) (h.answering v .refl)
    exact h.returning i description j g (hv ▸ .refl)

theorem admits_of_can {v : Value} (h : v.can c defs = true) : Admits defs c v :=
  (kind_answer_iff_admits (can_eq_true_iff.mp h)).mp rfl

theorem Settled.can_iff_admits {v : Value} (h : Settled c defs v) : v.can c defs = true ↔ Admits defs c v := by
  obtain ⟨b, hb⟩ := Option.isSome_iff_exists.mp h.isSome_answer
  rw [can_eq_true_iff, hb, Option.some.injEq]
  exact kind_answer_iff_admits hb

end Acyclic

/-- A flag of a summary is set only for what the value admits, and for a settled question it is set exactly then. -/
theorem summary_flags_iff_admits (defs : Definitions) (v : Value) :
    ((v.summary defs).optional = true → Admits defs .optional v) ∧
    ((v.summary defs).nullable = true → Admits defs .nullable v) ∧
    (Settled .optional defs v → ((v.summary defs).optional = true ↔ Admits defs .optional v)) ∧
    (Settled .nullable defs v → ((v.summary defs).nullable = true ↔ Admits defs .nullable v)) :=
  ⟨admits_of_can, admits_of_can, Settled.can_iff_admits, Settled.can_iff_admits⟩

def listChoice : Descriptor := .mk ⟨0, [2], 0⟩ .null (.union [listLink, listRest])

/-- How often a question about a node of the list may be passed on. -/
def listDepth : Value → Nat
  | .node (.mk _ _ (.union _)) => 3
  | .node (.mk _ _ (.modified _ _)) => 2
  | .node (.mk _ _ (.lazy _ _)) => 1
  | _ => 0

theorem consults_listChoice {c : Capability} {v w : Value}
    (hv : v ∈ [Value.node listChoice, .node listRest, .node listLink, .node linkedList])
    (h : Consults c listDefinitions v w) :
    w ∈ [Value.node listChoice, .node listRest, .node listLink, .node linkedList] ∧ listDepth w < listDepth v := by
  simp only [List.mem_cons, List.not_mem_nil, or_false] at hv
  rcases hv with rfl | rfl | rfl | rfl
  · rcases List.mem_pair.mp h with rfl | rfl
    · exact ⟨by simp, by decide⟩
    · exact ⟨by simp, by decide⟩
  · cases c with
    | optional => cases h
    | nullable =>
      obtain rfl := List.mem_singleton.mp h
      exact ⟨by simp, by decide⟩
  · obtain rfl := List.mem_singleton.mp h
    exact ⟨by simp, by decide⟩
  · cases h

theorem mem_of_asksAbout_listChoice {c : Capability} {v : Value} (h : AsksAbout c listDefinitions (.node listChoice) v) :
    v ∈ [Value.node listChoice, .node listRest, .node listLink, .node linkedList] := by
  induction h with
  | refl => simp
  | tail _ hstep ih => exact (consults_listChoice ih hstep).1

theorem settled_listChoice (c : Capability) : Settled c listDefinitions (.node listChoice) where
  acyclic w hw hcycle := by
    have hdepth : ∀ x, Relation.TransGen (Consults c listDefinitions) w x →
        x ∈ [Value.node listChoice, .node listRest, .node listLink, .node linkedList] ∧ listDepth x < listDepth w := by
      intro x hx
      induction hx with
      | single hstep => exact consults_listChoice (mem_of_asksAbout_listChoice hw) hstep
      | tail _ hstep ih =>
        obtain ⟨hmem, hlt⟩ := consults_listChoice ih.1 hstep
        exact ⟨hmem, hlt.trans ih.2⟩
    exact (hdepth w hcycle).2.false
  returning i description j g hg := by
    have hmem := mem_of_asksAbout_listChoice hg
    simp only [List.mem_cons, List.not_mem_nil, or_false] at hmem
    rcases hmem with h | h | h | h <;> cases h
    exact ⟨_, rfl⟩
  answering w hw hnot := by
    have hmem := mem_of_asksAbout_listChoice hw
    simp only [List.mem_cons, List.not_mem_nil, or_false] at hmem
    rcases hmem with rfl | rfl | rfl | rfl <;> exact (hnot ⟨_, rfl⟩).elim

theorem not_admits_null_linkedList : ¬ Admits listDefinitions .nullable (.node linkedList) := by
  intro h
  cases h with
  | itself own => cases own

theorem not_admits_null_listLink : ¬ Admits listDefinitions .nullable (.node listLink) := by
  intro h
  cases h with
  | getter call result => exact not_admits_null_linkedList (Except.ok.inj call ▸ result)
  | itself own => cases own

theorem summary_flags_listChoice :
    Settled .optional listDefinitions (.node listChoice) ∧ Settled .nullable listDefinitions (.node listChoice) ∧
    ((Value.node listChoice).summary listDefinitions).optional = true ∧
    ((Value.node listChoice).summary listDefinitions).nullable = false := by
  obtain ⟨_, hnullable, hoptional, _⟩ := summary_flags_iff_admits listDefinitions (.node listChoice)
  refine ⟨settled_listChoice _, settled_listChoice _, ?_, ?_⟩
  · exact (hoptional (settled_listChoice _)).mpr (.option (o := listRest) (by simp) .optional)
  · refine Bool.eq_false_iff.mpr fun h => ?_
    cases hnullable h with
    | option member yes =>
      rcases List.mem_pair.mp member with rfl | rfl
      · exact not_admits_null_listLink yes
      · cases yes with
        | inner below => exact not_admits_null_listLink below
        | itself own => cases own
    | itself own => cases own

end Schematic
