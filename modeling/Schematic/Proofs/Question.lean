import Mathlib.Data.Finset.Card
import Schematic.Proofs.Likeness
import Schematic.Schema.Capability

namespace Schematic

section MapIdentity

variable {defs : Definitions} (f : Identity → Identity)

theorem mapIdentities_eq (items : List Value) : mapIdentities f items = items.map (Value.mapIdentity f) := by
  induction items with
  | nil => rfl
  | cons v items ih => rw [mapIdentities, ih, List.map_cons]

theorem mapNodeIdentities_eq (ds : List Descriptor) : mapNodeIdentities f ds = ds.map (Descriptor.mapIdentity f) := by
  induction ds with
  | nil => rfl
  | cons d ds ih => rw [mapNodeIdentities, ih, List.map_cons]

theorem mapEntryIdentities_eq (entries : List (Value × Value)) :
    mapEntryIdentities f entries = entries.map fun e => (e.1.mapIdentity f, e.2.mapIdentity f) := by
  induction entries with
  | nil => rfl
  | cons e entries ih => rw [mapEntryIdentities, ih, List.map_cons]

theorem mapAttributeIdentities_eq (attributes : List (Text × Value)) :
    mapAttributeIdentities f attributes = attributes.map fun a => (a.1, a.2.mapIdentity f) := by
  induction attributes with
  | nil => rfl
  | cons a attributes ih => rw [mapAttributeIdentities, ih, List.map_cons]

theorem children_mapIdentity (b : Body) : (b.mapIdentity f).children = b.children.map (Value.mapIdentity f) := by
  cases b with
  | object properties => simp [Body.mapIdentity, Body.children, mapEntryIdentities_eq]
  | union options => simp [Body.mapIdentity, Body.children, mapNodeIdentities_eq, Value.mapIdentity]
  | tuple items rest => cases rest <;> simp [Body.mapIdentity, Body.children, mapNodeIdentities_eq, Value.mapIdentity]
  | _ => simp [Body.mapIdentity, Body.children, Value.mapIdentity]

theorem exists_call_mapIdentity {g : Action} {copy : Nat} {w : Value} (h : g.call defs copy = .ok w) :
    ∃ w', (g.mapIdentity f).call defs copy = .ok w' ∧ (w' = w ∨ w' = w.mapIdentity f) := by
  cases g with
  | returns v =>
    obtain rfl := Except.ok.inj h
    exact ⟨_, rfl, .inr rfl⟩
  | raises e => cases h
  | shares n => exact ⟨w, h, .inl rfl⟩
  | rebuilds n => exact ⟨w, h, .inl rfl⟩

/-- What is built anew has the walks of what it is built from. -/
theorem Walk.mapIdentity {v : Value} {n : Nat} (h : Walk defs v n) : Walk defs (v.mapIdentity f) n := by
  induction h with
  | start v => exact .start _
  | call i j description g => exact .call _ _ _ _
  | @step v w n edge rest ih =>
    cases edge with
    | @field d w child =>
      obtain ⟨i, description, body⟩ := d
      refine .step (.field ?_) ih
      simp only [Descriptor.mapIdentity, Descriptor.body, children_mapIdentity] at child ⊢
      exact List.mem_map_of_mem child
    | getter call =>
      obtain ⟨w', hw', rfl | rfl⟩ := exists_call_mapIdentity f call
      · exact .step (.getter hw') rest
      · exact .step (.getter hw') ih

theorem truthy_mapIdentity (v : Value) : (v.mapIdentity f).truthy = v.truthy := by
  cases v <;> simp [Value.mapIdentity, Value.truthy, mapIdentities_eq, mapEntryIdentities_eq]

end MapIdentity

/-- The truth value that an answer gives, if it gives any. -/
def Answer.kind : Answer → Option Bool
  | gives v => some v.truthy
  | fails _ => none

theorem Answer.isYes_eq (a : Answer) : a.isYes = (a.kind == some true) := by
  cases a with
  | gives v => simp [isYes, kind]
  | fails e => rfl

theorem Answer.kind_or (first second : Answer) :
    (first.or second).kind = if first.kind = some false then second.kind else first.kind := by
  cases first with
  | gives v => cases hv : v.truthy <;> simp only [Answer.or, Answer.kind, hv] <;> rfl
  | fails e => rfl

theorem Answer.kind_and (first second : Answer) :
    (first.and second).kind = if first.kind = some true then second.kind else first.kind := by
  simp only [Answer.and, Answer.isYes_eq, beq_iff_eq]
  split_ifs <;> rfl

/-- A yes if one of the kinds is, unless an earlier one is a failure. -/
def anyKind : List (Option Bool) → Option Bool
  | [] => some false
  | kind :: kinds => if kind = some false then anyKind kinds else kind

section Ask

variable (c : Capability) (defs : Definitions)

/-- The kind of answer for a value, when `child` answers for the fields and for what a getter gives. -/
def askWith (child : Value → Option Bool) : Value → Option Bool
  | .node (.mk _ _ (.primitive p)) => some (c.ofPrimitive p)
  | .node (.mk _ _ (.literal v)) => some (c.ofLiteral v)
  | .node (.mk _ _ (.union options)) => anyKind (options.map fun o => child (.node o))
  | .node (.mk _ _ (.intersection left right)) =>
    if child (.node left) = some true then child (.node right) else child (.node left)
  | .node (.mk _ _ (.modified m inner)) => if c.grantedBy m then some true else child (.node inner)
  | .node (.mk _ _ (.lazy _ getter)) =>
    match getter.call defs 0 with
    | .ok v => child v
    | .error _ => none
  | .node _ => some false
  | v => (v.ask c defs fun _ => .fails .endless).kind

/-- The kind of answer for a value whose walks have fewer steps than `levels`. -/
def askWithin : (levels : Nat) → Value → Option Bool
  | 0, _ => none
  | levels + 1, v => askWith c defs (askWithin levels) v

end Ask

variable {c : Capability} {defs : Definitions}

theorem kind_askAny {jump : Nat → Answer} {child : Value → Option Bool} {options : List Descriptor}
    (h : ∀ o ∈ options, (o.ask c defs jump).kind = child (.node o)) :
    (askAny c defs jump options).kind = anyKind (options.map fun o => child (.node o)) := by
  induction options with
  | nil => rfl
  | cons o options ih =>
    have ho := h o List.mem_cons_self
    have hrest := ih fun p hp => h p (List.mem_cons_of_mem _ hp)
    rw [askAny, Answer.kind_or, ho, hrest, List.map_cons, anyKind]

theorem askWithin_null (levels : Nat) : askWithin c defs levels .null = none := by
  cases levels <;> rfl

theorem kind_foreign_mapIdentity (f : Identity → Identity) (jump : Nat → Answer) (i : Identity) (className : Text)
    (attributes : List (Text × Value)) (unreadable : List (Text × Obstacle)) :
    (((Value.foreign i className attributes unreadable).mapIdentity f).ask c defs jump).kind =
      ((Value.foreign i className attributes unreadable).ask c defs jump).kind := by
  have hfind : ((Value.foreign i className attributes unreadable).mapIdentity f).attribute? c.methodName =
      ((Value.foreign i className attributes unreadable).attribute? c.methodName).map (Value.mapIdentity f) := by
    simp only [Value.mapIdentity, Value.attribute?, mapAttributeIdentities_eq, ← List.map_reverse, List.find?_map,
      Option.map_map]
    split_ifs
    · rfl
    · rw [Option.map_map]
      rfl
  rw [Value.mapIdentity] at hfind ⊢
  simp only [Value.ask, hfind]
  cases (Value.foreign i className attributes unreadable).attribute? c.methodName with
  | none => rfl
  | some v =>
    cases v with
    | callable j action =>
      simp only [Option.map_some, Value.mapIdentity, Value.answerOfCall]
      cases action with
      | returns w => simp [Action.mapIdentity, Action.call, Answer.kind, truthy_mapIdentity]
      | _ => rfl
    | _ => rfl

theorem ofLiteral_mapIdentity (f : Identity → Identity) (c : Capability) (v : Value) :
    c.ofLiteral (v.mapIdentity f) = c.ofLiteral v := by
  cases c <;> cases v <;> rfl

theorem grantedBy_mapIdentity (f : Identity → Identity) (c : Capability) (m : Modifier) :
    c.grantedBy (m.mapIdentity f) = c.grantedBy m := by
  cases c <;> cases m <;> rfl

theorem askWithin_mapIdentity (f : Identity → Identity) (levels : Nat) (v : Value) :
    askWithin c defs levels (v.mapIdentity f) = askWithin c defs levels v := by
  induction levels generalizing v with
  | zero => rfl
  | succ levels ih =>
    have hnode : ∀ d : Descriptor, askWithin c defs levels (.node (d.mapIdentity f)) = askWithin c defs levels (.node d) :=
      fun d => by rw [← ih (.node d), Value.mapIdentity]
    simp only [askWithin]
    cases v with
    | node d =>
      obtain ⟨i, description, body⟩ := d
      cases body with
      | literal v =>
        simp only [Value.mapIdentity, Descriptor.mapIdentity, Body.mapIdentity, askWith, ofLiteral_mapIdentity]
      | union options =>
        simp [Value.mapIdentity, Descriptor.mapIdentity, Body.mapIdentity, askWith, mapNodeIdentities_eq, hnode,
          Function.comp_def]
      | modified m inner =>
        simp only [Value.mapIdentity, Descriptor.mapIdentity, Body.mapIdentity, askWith, grantedBy_mapIdentity, hnode]
      | lazy j g =>
        simp only [Value.mapIdentity, Descriptor.mapIdentity, Body.mapIdentity, askWith]
        cases g with
        | returns w => simp [Action.mapIdentity, Action.call, ih]
        | _ => rfl
      | _ => simp [Value.mapIdentity, Descriptor.mapIdentity, Body.mapIdentity, askWith, hnode]
    | foreign i className attributes unreadable => exact kind_foreign_mapIdentity f _ i className attributes unreadable
    | _ => rfl

/-- Walks from `w` are at least as long as those from `v`. -/
def Outlasts (defs : Definitions) (w v : Value) : Prop := ∀ l, Walk defs v l → ∃ l' ≥ l, Walk defs w l'

theorem Outlasts.step {w v x : Value} (h : Outlasts defs w v) (edge : Edge defs v x) : Outlasts defs w x := by
  intro l hl
  obtain ⟨l', hle, hl'⟩ := h (l + 1) (.step edge hl)
  exact ⟨l', by omega, hl'⟩

theorem WalksWithin.not_outlasts {bound : Nat} {v w y : Value} (h : WalksWithin defs bound v) (edge : Edge defs v y)
    (hy : ∀ l, Walk defs w l → Walk defs y l) : ¬ Outlasts defs w v := by
  intro hout
  have hlong : ∀ n, ∃ l ≥ n, Walk defs v l := by
    intro n
    induction n with
    | zero => exact ⟨0, le_rfl, .start v⟩
    | succ n ih =>
      obtain ⟨l, hle, hl⟩ := ih
      obtain ⟨l', hle', hl'⟩ := hout l hl
      exact ⟨l' + 1, by omega, .step edge (hy l' hl')⟩
  obtain ⟨l, hle, hl⟩ := hlong (bound + 1)
  have := h l hl
  omega

/-- A question is passed on to the fields of a node and to what its getter gives. -/
theorem kind_ask_eq_askWith {jump : Nat → Answer} {child : Value → Option Bool} {v : Value}
    (hfield : ∀ d w, v = .node d → w ∈ d.body.children → (w.ask c defs jump).kind = child w)
    (hgetter : ∀ i description j g, v = .node (.mk i description (.lazy j g)) →
      (g.ask c defs jump).kind = askWith c defs child (.node (.mk i description (.lazy j g)))) :
    (v.ask c defs jump).kind = askWith c defs child v := by
  cases v with
  | node d =>
    obtain ⟨i, description, body⟩ := d
    have hnode : ∀ e : Descriptor, Value.node e ∈ body.children → (e.ask c defs jump).kind = child (.node e) := by
      intro e he
      rw [← hfield _ (.node e) rfl he, Value.ask]
    cases body with
    | union options =>
      rw [Value.ask, Descriptor.ask, Body.ask, askWith]
      exact kind_askAny fun o ho => hnode o (List.mem_map_of_mem ho)
    | intersection left right =>
      have hleft := hnode left List.mem_cons_self
      have hright := hnode right (by simp [Body.children])
      rw [Value.ask, Descriptor.ask, Body.ask, askWith, ← hleft, ← hright, Answer.kind_and]
    | modified m inner =>
      rw [Value.ask, Descriptor.ask, Body.ask, askWith]
      split_ifs
      · rfl
      · exact hnode inner List.mem_cons_self
    | lazy j g =>
      rw [Value.ask, Descriptor.ask, Body.ask]
      exact hgetter i description j g rfl
    | _ => rfl
  | _ => rfl

theorem card_insert_of_subset {α : Type} [DecidableEq α] {a : α} {s t : Finset α} (ha : a ∉ s) (h : insert a s ⊆ t) :
    (insert a s).card = s.card + 1 ∧ s.card < t.card := by
  have hcard := Finset.card_le_card h
  rw [Finset.card_insert_of_notMem ha] at hcard
  exact ⟨Finset.card_insert_of_notMem ha, hcard⟩

/-- Definitions that were entered outlast the value from which one is entered next, so that one is new. -/
theorem card_insert_le {bound : Nat} {v w y : Value} (hw : WalksWithin defs bound v) (edge : Edge defs v y)
    (hy : ∀ l, Walk defs w l → Walk defs y l) {entered : Finset Nat} (hsub : ∀ k ∈ entered, k < defs.length)
    (hout : ∀ k ∈ entered, ∀ x, defs.get k = .ok x → Outlasts defs x v) {n : Nat} (hn : n < defs.length)
    (hget : defs.get n = .ok w) : (insert n entered).card = entered.card + 1 ∧ entered.card < defs.length := by
  have hnew : n ∉ entered := fun hmem => hw.not_outlasts edge hy (hout n hmem w hget)
  have hrange : insert n entered ⊆ Finset.range defs.length := by
    intro k hk
    rcases Finset.mem_insert.mp hk with rfl | hk
    · exact Finset.mem_range.mpr hn
    · exact Finset.mem_range.mpr (hsub k hk)
  obtain ⟨hinsert, hcard⟩ := card_insert_of_subset hnew hrange
  rw [Finset.card_range] at hcard
  exact ⟨hinsert, hcard⟩

theorem get_of_length_le {n : Nat} (h : defs.length ≤ n) : defs.get n = .ok .null := by
  simp [Definitions.get, List.getElem?_eq_none h]

/-- What was entered before, and the definition that is entered now, outlast the definition. -/
theorem outlasts_insert {v w y : Value} (edge : Edge defs v y) (hy : ∀ l, Walk defs w l → Walk defs y l) {n : Nat}
    (hget : defs.get n = .ok w) {entered : Finset Nat} (hout : ∀ k ∈ entered, ∀ x, defs.get k = .ok x → Outlasts defs x v) :
    ∀ k ∈ insert n entered, ∀ x, defs.get k = .ok x → Outlasts defs x w := by
  intro k hk x hx l hl
  rcases Finset.mem_insert.mp hk with rfl | hk
  · obtain rfl := Except.ok.inj (hget.symm.trans hx)
    exact ⟨l, le_rfl, hl⟩
  · exact (hout k hk x hx).step edge l (hy l hl)

theorem lt_of_mem_insert {n bound : Nat} {s : Finset Nat} (hn : n < bound) (hs : ∀ k ∈ s, k < bound) :
    ∀ k ∈ insert n s, k < bound := by
  intro k hk
  rcases Finset.mem_insert.mp hk with rfl | hk
  · exact hn
  · exact hs k hk

theorem kind_askDefinition_of_null {n entries : Nat} (hget : defs.get n = .ok .null) :
    (askDefinition c defs entries n).kind = none := by
  cases entries with
  | zero => rfl
  | succ entries =>
    rw [askDefinition, hget]
    rfl

/-- A getter passes the question on to what it gives; a definition is entered for it. -/
theorem kind_ask_getter {entries levels : Nat} {i j : Identity} {description : Value} {g : Action}
    (hgiven : ∀ w, Edge defs (.node (.mk i description (.lazy j g))) w →
      (w.ask c defs (askDefinition c defs entries)).kind = askWithin c defs levels w)
    (hjump : ∀ n w y, Edge defs (.node (.mk i description (.lazy j g))) y → defs.get n = .ok w →
      (∀ l, Walk defs w l → Walk defs y l) → askWithin c defs levels y = askWithin c defs levels w →
      (askDefinition c defs entries n).kind = askWithin c defs levels y) :
    (g.ask c defs (askDefinition c defs entries)).kind =
      askWith c defs (askWithin c defs levels) (.node (.mk i description (.lazy j g))) := by
  rw [askWith]
  cases g with
  | returns w =>
    have hcall : (Action.returns w).call defs 0 = .ok w := rfl
    exact hgiven w (.getter hcall)
  | raises e => rfl
  | shares n =>
    simp only [Action.ask, Action.call]
    cases hget : defs.get n with
    | error e => cases entries <;> simp [askDefinition, hget, Answer.kind]
    | ok w =>
      have hcall : (Action.shares n).call defs 0 = .ok w := hget
      exact hjump n w w (.getter hcall) hget (fun _ h => h) rfl
  | rebuilds n =>
    simp only [Action.ask, Action.call]
    cases hget : defs.get n with
    | error e => cases entries <;> simp [askDefinition, hget, Answer.kind, Except.map]
    | ok w =>
      have hcall : (Action.rebuilds n).call defs 0 = .ok (w.rebuild n 0) := by simp [Action.call, hget, Except.map]
      exact hjump n w _ (.getter hcall) hget (fun _ h => h.mapIdentity _) (askWithin_mapIdentity _ _ _)

/-- Entering definitions one inside the other, the question has the answer that it has without counting them.
Those that are `entered` outlast the value, so none of them is entered again. -/
theorem kind_ask (levels : Nat) {bound : Nat} {v : Value} (hw : WalksWithin defs bound v) (hlt : bound < levels)
    (entered : Finset Nat) (hsub : ∀ n ∈ entered, n < defs.length)
    (hout : ∀ n ∈ entered, ∀ w, defs.get n = .ok w → Outlasts defs w v) {entries : Nat}
    (hentries : defs.length ≤ entered.card + entries) :
    (v.ask c defs (askDefinition c defs entries)).kind = askWithin c defs levels v := by
  induction levels generalizing bound v entered entries with
  | zero => omega
  | succ levels ih =>
    have hchild : ∀ w, Edge defs v w → (w.ask c defs (askDefinition c defs entries)).kind = askWithin c defs levels w := by
      intro w edge
      obtain ⟨less, rfl, hless⟩ := hw.step edge
      exact ih hless (by omega) entered hsub (fun n hn x hx => (hout n hn x hx).step edge) hentries
    -- the definition that is entered and what the getter gives have the same walks, and the same answer
    have hjump : ∀ n w y, Edge defs v y → defs.get n = .ok w → (∀ l, Walk defs w l → Walk defs y l) →
        askWithin c defs levels y = askWithin c defs levels w →
        (askDefinition c defs entries n).kind = askWithin c defs levels y := by
      intro n w y edge hget hy hask
      by_cases hn : n < defs.length
      · obtain ⟨hcard, hlength⟩ := card_insert_le hw edge hy hsub hout hn hget
        obtain ⟨entries, rfl⟩ : ∃ k, entries = k + 1 := ⟨entries - 1, by omega⟩
        obtain ⟨less, rfl, hless⟩ := hw.step edge
        rw [askDefinition, hget, hask]
        exact ih (fun l hl => hless l (hy l hl)) (by omega) (insert n entered) (lt_of_mem_insert hn hsub)
          (outlasts_insert edge hy hget hout) (by omega)
      · have hnull := get_of_length_le (Nat.le_of_not_lt hn)
        obtain rfl := Except.ok.inj (hnull.symm.trans hget)
        rw [hask, askWithin_null, kind_askDefinition_of_null hget]
    rw [askWithin]
    refine kind_ask_eq_askWith (fun d w hv hmem => hchild w (hv ▸ .field hmem)) fun i description j g hv => ?_
    subst hv
    exact kind_ask_getter hchild hjump

/-- Where walks are bounded, whether a value has a capability is told without counting definitions. -/
theorem WalksWithin.can_eq {bound : Nat} {v : Value} (h : WalksWithin defs bound v) {levels : Nat} (hlt : bound < levels)
    (c : Capability) : v.can c defs = (askWithin c defs levels v == some true) := by
  rw [Value.can, Value.answer, Answer.isYes_eq, kind_ask levels h hlt ∅ (by simp) (by simp) (by simp)]

end Schematic
