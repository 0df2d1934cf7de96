import Schematic.Proofs.Sharing
import Schematic.Proofs.Unshared

namespace Schematic

/-- Of both values the same is left without identities. -/
abbrev Value.SameTree (v v' : Value) : Prop := v.unshared = v'.unshared

theorem forall₂_of_map_eq {α β γ : Type} {f : α → γ} {g : β → γ} {xs : List α} {ys : List β} (h : xs.map f = ys.map g) :
    List.Forall₂ (fun a b => f a = g b) xs ys := by
  rw [← List.forall₂_eq_eq_eq] at h
  exact List.forall₂_map_right_iff.mp (List.forall₂_map_left_iff.mp h)

theorem Value.IsText.eq_of_unshared_eq {v v' : Value} (hv : v.IsText) (hv' : v'.IsText) (h : v.unshared = v'.unshared) :
    v = v' := by
  obtain ⟨t, rfl⟩ := hv
  obtain ⟨t', rfl⟩ := hv'
  exact h

theorem Value.IsLength.eq_of_unshared_eq {v v' : Value} (hv : v.IsLength) (hv' : v'.IsLength)
    (h : v.unshared = v'.unshared) : v = v' := by
  rcases hv with rfl | ⟨n, rfl⟩ <;> rcases hv' with rfl | ⟨n', rfl⟩ <;> exact h

theorem Modifier.like_of_unshared_eq {m m' : Modifier} (h : m.unshared = m'.unshared) : Modifier.Like m m' := by
  cases m <;> cases m' <;> simp only [Modifier.unshared, reduceCtorEq] at h <;> constructor

theorem forall₂_of_unsharedNodes {ds ds' : List Descriptor} (h : unsharedNodes ds = unsharedNodes ds') :
    List.Forall₂ (fun o o' => Value.SameTree (.node o) (.node o')) ds ds' := by
  rw [unsharedNodes_eq, unsharedNodes_eq] at h
  exact (forall₂_of_map_eq h).imp fun _ _ hd => congrArg Value.node hd

theorem Body.like_object_of_unshared {properties properties' : List (Value × Value)} (ht : (Body.object properties).Typed)
    (ht' : (Body.object properties').Typed) (h : unsharedEntries properties = unsharedEntries properties') :
    Body.Like Value.SameTree (.object properties) (.object properties') := by
  rw [unsharedEntries_eq, unsharedEntries_eq] at h
  refine .object ((forall₂_mem (forall₂_of_map_eq h)).imp ?_)
  rintro p p' ⟨heq, hp, hp'⟩
  injection heq with hkey hvalue
  exact ⟨(ht p hp).1.eq_of_unshared_eq (ht' p' hp').1 hkey, hvalue⟩

theorem Body.like_tuple_of_unshared {items items' : List Descriptor} {rest rest' : Value}
    (ht : (Body.tuple items rest).Typed) (ht' : (Body.tuple items' rest').Typed)
    (hitems : unsharedNodes items = unsharedNodes items') (hrest : rest.unshared = rest'.unshared) :
    Body.Like Value.SameTree (.tuple items rest) (.tuple items' rest') := by
  rcases ht with rfl | ⟨d, rfl⟩ <;> rcases ht' with rfl | ⟨d', rfl⟩
  · exact .closedTuple (forall₂_of_unsharedNodes hitems)
  · cases hrest
  · cases hrest
  · exact .openTuple (forall₂_of_unsharedNodes hitems) (by simp) (by simp) hrest

theorem ofLiteral_unshared (c : Capability) (v : Value) : c.ofLiteral v.unshared = c.ofLiteral v := by
  cases c <;> cases v <;> rfl

theorem Body.like_literal_of_unshared {value value' : Value} (h : value.unshared = value'.unshared) :
    Body.Like Value.SameTree (.literal value) (.literal value') := by
  refine .literal ?_ fun c => ?_
  · rw [← value.token_unshared, h, value'.token_unshared]
  · rw [← ofLiteral_unshared, h, ofLiteral_unshared]

theorem Body.like_of_unshared_eq {b b' : Body} (ht : b.Typed) (ht' : b'.Typed) (h : b.unshared = b'.unshared) :
    Body.Like Value.SameTree b b' := by
  have hnode : ∀ {d d' : Descriptor}, d.unshared = d'.unshared → (Value.node d).unshared = (Value.node d').unshared :=
    fun hd => congrArg Value.node hd
  cases b <;> cases b' <;> simp only [Body.unshared, reduceCtorEq] at h
  case array.array =>
    injection h with helement hlow hhigh hexact
    obtain rfl := ht.1.eq_of_unshared_eq ht'.1 hlow
    obtain rfl := ht.2.1.eq_of_unshared_eq ht'.2.1 hhigh
    obtain rfl := ht.2.2.eq_of_unshared_eq ht'.2.2 hexact
    exact .array rfl (hnode helement)
  case object.object =>
    injection h with hproperties
    exact Body.like_object_of_unshared ht ht' hproperties
  case union.union =>
    injection h with hoptions
    exact .union (forall₂_of_unsharedNodes hoptions)
  case intersection.intersection =>
    injection h with hleft hright
    exact .intersection (hnode hleft) (hnode hright)
  case record.record =>
    injection h with hkey hvalue
    exact .record (hnode hkey) (hnode hvalue)
  case tuple.tuple =>
    injection h with hitems hrest
    exact Body.like_tuple_of_unshared ht ht' hitems hrest
  case literal.literal =>
    injection h with hvalue
    exact Body.like_literal_of_unshared hvalue
  case promise.promise =>
    injection h with hinner
    exact .promise (hnode hinner)
  case modified.modified =>
    injection h with hm hinner
    exact .modified (Modifier.like_of_unshared_eq hm) (hnode hinner)
  case lazy.lazy => exact .lazy _ _ _ _
  all_goals
    injection h with heq
    subst heq
    constructor

theorem Value.isNode_of_unshared_eq {v v' : Value} (h : v.unshared = v'.unshared) (hv : v.IsNode) : v'.IsNode := by
  obtain ⟨d, rfl⟩ := hv
  cases v' with
  | node d' => exact ⟨d', rfl⟩
  | _ => cases h

section Copies

variable {defs defs' : Definitions}

/-- Definitions of which the same is left without identities. -/
abbrev Definitions.Copies (defs defs' : Definitions) : Prop :=
  List.Forall₂ (OutcomeLike Value.SameTree) defs defs'

/-- Well-typed schemas of which the same is left without identities. -/
structure Value.Copies (defs defs' : Definitions) (v v' : Value) : Prop where
  same : v.unshared = v'.unshared
  typed : WellTyped defs v
  typed' : WellTyped defs' v'

theorem Definitions.Copies.get (h : Definitions.Copies defs defs') (n : Nat) :
    OutcomeLike Value.SameTree (defs.get n) (defs'.get n) := by
  unfold Definitions.get
  induction h generalizing n with
  | nil => exact .ok rfl
  | cons h _ ih =>
    cases n with
    | zero => exact h
    | succ n => exact ih n

namespace Raised

theorem unshared_eq (e : Raised) : e.unshared = .mk e.className (e.arguments.map Value.unshared) := by
  obtain ⟨className, arguments⟩ := e
  rw [unshared, unsharedItems_eq]
  rfl

theorem isName_unshared (e : Raised) (v : Value) : e.unshared.isName v.unshared = e.isName v := by
  obtain ⟨className, arguments⟩ := e
  cases v <;> rfl

theorem kept_unshared (e : Raised) : e.unshared.kept = e.kept.map Value.unshared := by
  have harguments : e.unshared.arguments = e.arguments.map Value.unshared := by rw [unshared_eq]; rfl
  have hclass : e.unshared.className = e.className := by rw [unshared_eq]; rfl
  unfold kept report?
  rw [harguments, hclass]
  rcases e.arguments with _ | ⟨number, _ | ⟨words, _ | ⟨file, rest⟩⟩⟩
  · rfl
  · rfl
  · simp only [List.map_cons, List.map_nil, List.length_nil]
    split_ifs <;> rfl
  · simp only [List.map_cons, List.length_map, List.length_cons, isName_unshared]
    split_ifs <;> rfl

theorem written_unshared (e : Raised) : e.unshared.written = e.written := by
  have hclass : e.unshared.className = e.className := by rw [unshared_eq]; rfl
  unfold written
  rw [kept_unshared, hclass, ← unsharedItems_eq]
  rcases e.kept with _ | ⟨v, _ | ⟨w, vs⟩⟩
  · rfl
  · simp only [unsharedItems, Value.written_unshared]
  · simp only [unsharedItems, writtenItems, Value.written_unshared, writtenItems_unshared]

theorem mark_unshared (e : Raised) : e.unshared.mark = e.mark := by
  have hclass : e.unshared.className = e.className := by rw [unshared_eq]; rfl
  unfold mark ResolutionFailure.ofRaised
  rw [hclass]
  split_ifs
  · rfl
  · rw [ResolutionFailure.said_getterFailed, ResolutionFailure.said_getterFailed, written_unshared]
    cases e.written.obstacle? <;> rfl

end Raised

/-- A getter gives a definition as it is or built anew, which is the same without identities. -/
theorem Action.exists_call_eq {g : Action} {n : Nat} (h : g.unshared = .shares n) (defs : Definitions) (copy : Nat) :
    ∃ f : Value → Value, (∀ v, (f v).unshared = v.unshared) ∧ g.call defs copy = (defs.get n).map f := by
  cases g with
  | shares m =>
    injection h with h
    subst h
    refine ⟨id, fun _ => rfl, ?_⟩
    rw [Action.call]
    cases defs.get m <;> rfl
  | rebuilds m =>
    injection h with h
    subst h
    exact ⟨_, fun v => v.unshared_mapIdentity _, rfl⟩
  | _ => cases h

theorem Definitions.Copies.call (h : Definitions.Copies defs defs') {g g' : Action} (hg : g.unshared = g'.unshared)
    (copy copy' : Nat) : OutcomeLike Value.SameTree (g.call defs copy) (g'.call defs' copy') := by
  have hdefinition : ∀ n, g.unshared = .shares n →
      OutcomeLike Value.SameTree (g.call defs copy) (g'.call defs' copy') := by
    intro n hn
    obtain ⟨f, hf, hcall⟩ := Action.exists_call_eq hn defs copy
    obtain ⟨f', hf', hcall'⟩ := Action.exists_call_eq (hg.symm.trans hn) defs' copy'
    have hget := h.get n
    rw [hcall, hcall']
    generalize defs.get n = outcome at hget
    generalize defs'.get n = outcome' at hget
    cases hget with
    | ok heq => exact .ok ((hf _).trans (heq.trans (hf' _).symm))
    | error he => exact .error he
  cases g with
  | returns v =>
    cases g' with
    | returns v' => exact .ok (Action.returns.inj hg)
    | _ => cases hg
  | raises e =>
    cases g' with
    | raises e' =>
      have he := Action.raises.inj hg
      exact .error (by rw [← e.mark_unshared, he, e'.mark_unshared])
    | _ => cases hg
  | shares n | rebuilds n => exact hdefinition n rfl

theorem Value.Copies.edge {v v' w w' : Value} (h : Value.Copies defs defs' v v') (hw : w.unshared = w'.unshared)
    (edge : Edge defs v w) (edge' : Edge defs' v' w') : Value.Copies defs defs' w w' :=
  ⟨hw, h.typed.below (.single edge), h.typed'.below (.single edge')⟩

theorem Value.Copies.like {v v' : Value} (h : Value.Copies defs defs' v v') :
    Value.Like (Value.Copies defs defs') v v' := by
  by_cases hnode : v.IsNode
  · obtain ⟨d', rfl⟩ := Value.isNode_of_unshared_eq h.same hnode
    obtain ⟨d, rfl⟩ := hnode
    have hbody : d.body.unshared = d'.body.unshared := by
      have hsame := h.same
      obtain ⟨i, description, body⟩ := d
      obtain ⟨i', description', body'⟩ := d'
      injection hsame with hsame
      injection hsame
    refine .node ((Body.like_of_unshared_eq (h.typed d .refl).2 (h.typed' d' .refl).2 hbody).imp ?_)
    exact fun w w' hw hw' hsame => h.edge hsame (.field hw) (.field hw')
  · exact .other hnode fun hnode' => hnode (Value.isNode_of_unshared_eq h.same.symm hnode')

theorem Value.Copies.madeDefault {v v' : Value} (hdefs : Definitions.Copies defs defs')
    (h : Value.Copies defs defs' v v') :
    OutcomeLike Value.SameTree (v.madeDefault defs 0) (v'.madeDefault defs' 0) := by
  cases h.like with
  | @node d d' hbody =>
    have hsame := h.same
    have htyped := (h.typed d .refl).2
    have htyped' := (h.typed' d' .refl).2
    obtain ⟨i, description, body⟩ := d
    obtain ⟨i', description', body'⟩ := d'
    cases hbody with
    | modified hm =>
      cases hm with
      | default =>
        injection hsame with hsame
        injection hsame with _ _ hsame
        injection hsame with hm
        injection hm with hvalue hfactory
        rcases htyped with rfl | ⟨j, action, rfl⟩ <;> rcases htyped' with rfl | ⟨j', action', rfl⟩
        · exact .ok hvalue
        · cases hfactory
        · cases hfactory
        · injection hfactory with _ haction
          exact hdefs.call haction 0 0
      | _ => exact .ok rfl
    | _ => exact .ok rfl
  | other hv hv' =>
    have hother : ∀ {w : Value} {defs : Definitions}, ¬ w.IsNode → w.madeDefault defs 0 = .ok .absent := by
      intro w defs hw
      cases w with
      | node d => exact (hw ⟨d, rfl⟩).elim
      | _ => rfl
    rw [hother hv, hother hv']
    exact .ok rfl

theorem Value.Copies.default {v v' : Value} (hdefs : Definitions.Copies defs defs') (h : Value.Copies defs defs' v v') :
    (v.summary defs).default.token = (v'.summary defs').default.token := by
  have hmade := h.madeDefault hdefs
  simp only [Value.summary]
  generalize v.madeDefault defs 0 = outcome at hmade
  generalize v'.madeDefault defs' 0 = outcome' at hmade
  cases hmade with
  | @ok w w' hw => simp only [← w.token_unshared, hw, w'.token_unshared]
  | error => rfl

theorem Value.isFunction_of_unshared_eq {v v' : Value} (h : v.unshared = v'.unshared) (hv : v.IsFunction) :
    v'.IsFunction := by
  obtain ⟨i, action, rfl⟩ := hv
  cases v' with
  | callable i' action' => exact ⟨i', action', rfl⟩
  | _ => cases h

/-- What can be asked of a copy gives the same kind of answer. -/
theorem Definitions.Copies.kind_answerOfCall (h : Definitions.Copies defs defs') {w w' : Value}
    (hw : w.unshared = w'.unshared) :
    (w.answerOfCall defs).kind = (w'.answerOfCall defs').kind := by
  by_cases hfunction : w.IsFunction
  · obtain ⟨i', action', rfl⟩ := Value.isFunction_of_unshared_eq hw hfunction
    obtain ⟨i, action, rfl⟩ := hfunction
    injection hw with _ haction
    have hcall := h.call haction 0 0
    simp only [Value.answerOfCall]
    generalize action.call defs 0 = outcome at hcall
    generalize action'.call defs' 0 = outcome' at hcall
    cases hcall with
    | @ok v v' hv => simp only [Answer.kind, ← v.truthy_unshared, hv, v'.truthy_unshared]
    | error => rfl
  · have hother : ∀ {v : Value} {defs : Definitions}, ¬ v.IsFunction → (v.answerOfCall defs).kind = none := by
      intro v defs hv
      cases v with
      | callable i action => exact (hv ⟨i, action, rfl⟩).elim
      | _ => rfl
    rw [hother hfunction, hother fun hw' => hfunction (Value.isFunction_of_unshared_eq hw.symm hw')]

/-- A copy that is no node is named and answers like what it is a copy of. -/
theorem Value.Copies.other {v v' : Value} (hdefs : Definitions.Copies defs defs') (h : Value.Copies defs defs' v v')
    (hv : ¬ v.IsNode) :
    v.fullSignature = v'.fullSignature ∧ ∀ c : Capability, (v.answer c defs).kind = (v'.answer c defs').kind := by
  have hv' : ¬ v'.IsNode := fun hnode => hv (Value.isNode_of_unshared_eq h.same.symm hnode)
  have hsignature : ∀ {w : Value}, ¬ w.IsNode → w.unshared.fullSignature = w.fullSignature := by
    intro w hw
    cases w with
    | node d => exact (hw ⟨d, rfl⟩).elim
    | foreign i className attributes unreadable =>
      simp only [Value.unshared, Value.fullSignature]
      exact Value.fallbackName_unshared (.foreign i className attributes unreadable)
    | _ => rfl
  have hanswer : ∀ {w : Value} {defs : Definitions} (c : Capability), ¬ w.IsNode →
      (w.answer c defs).kind = (w.attribute? c.methodName).bind fun a => (a.answerOfCall defs).kind := by
    intro w defs c hw
    cases w with
    | node d => exact (hw ⟨d, rfl⟩).elim
    | foreign i className attributes unreadable =>
      simp only [Value.answer, Value.ask]
      cases (Value.foreign i className attributes unreadable).attribute? c.methodName <;> rfl
    | _ => rfl
  refine ⟨by rw [← hsignature hv, h.same, hsignature hv'], fun c => ?_⟩
  have hattribute : (v.attribute? c.methodName).map Value.unshared = (v'.attribute? c.methodName).map Value.unshared := by
    rw [← Value.attribute?_unshared, h.same, Value.attribute?_unshared]
  rw [hanswer c hv, hanswer c hv']
  generalize v.attribute? c.methodName = a at hattribute
  generalize v'.attribute? c.methodName = a' at hattribute
  cases a <;> cases a'
  · rfl
  · cases hattribute
  · cases hattribute
  · exact hdefs.kind_answerOfCall (Option.some.inj hattribute)

theorem bisimulation_copies (hdefs : Definitions.Copies defs defs') :
    Bisimulation defs defs' (Value.Copies defs defs') where
  like _ _ h := h.like
  unreadable v v' h := by rw [← v.obstacleAt?_unshared, h.same, v'.obstacleAt?_unshared]
  description v v' h := by rw [← v.description?_unshared, h.same, v'.description?_unshared]
  default _ _ h := h.default hdefs
  getter := by
    intro i j i' j' description description' g g' h copy copy'
    have hg : g.unshared = g'.unshared := by
      have hsame := h.same
      injection hsame with hsame
      injection hsame with _ _ hsame
      injection hsame
    have houtcome := hdefs.call hg copy copy'
    generalize hcall : g.call defs copy = outcome at houtcome ⊢
    generalize hcall' : g'.call defs' copy' = outcome' at houtcome ⊢
    cases houtcome with
    | ok hw => exact .ok (h.edge hw (.getter hcall) (.getter hcall'))
    | error he => exact .error he
  other _ _ h hv := h.other hdefs hv

end Copies

section Acyclic

variable {defs defs' : Definitions} {config : Config}

theorem walksWithin_maxDepth {v : Value} (hw : ∀ n, Walk defs v n → (n : Int) ≤ config.maxDepth) :
    WalksWithin defs config.maxDepth.toNat v := by
  intro n hn
  have := hw n hn
  omega

/-- Rendering an acyclic schema is plain rendering if no walk is longer than the limit. -/
theorem exists_plain_page {d : Descriptor} (ht : WellTyped defs (.node d)) (ha : Acyclic defs (.node d))
    (hw : ∀ n, Walk defs (.node d) n → (n : Int) ≤ config.maxDepth) :
    ∃ page : Page, Visit.Renders defs config (.top (.node d)) (.ok page) ∧ render defs config 0 (.node d) = page.whole ∧
      PlainRenders defs config 1 (.node d) page.text := by
  have hpos : 0 ≤ config.maxDepth := hw 0 (.start _)
  have hdepth : (Visit.top (.node d)).depth = 0 := rfl
  have hdescends := Visit.descends_top defs (.node d)
  obtain ⟨page, hpage, hplain⟩ : ∃ page, (Visit.top (.node d)).block defs config = .ok page ∧
      PlainRenders defs config 1 (.node d) page.text :=
    hdescends.exists_plain ht ha (walksWithin_maxDepth hw) (by omega) (by omega)
  exact ⟨page, Visit.renders_iff.mpr hpage, render_of_block hpage, hplain⟩

/-- The renderer shows an acyclic schema as plain rendering does, and never takes a shared node for an ancestor.
So what is shared in it and what is copied does not show. -/
theorem render_text_eq_plain (defs : Definitions) (config : Config) (d : Descriptor) (ht : WellTyped defs (.node d))
    (ha : Acyclic defs (.node d)) (hw : ∀ n, Walk defs (.node d) n → (n : Int) ≤ config.maxDepth) :
    ∃ page : Page, Visit.Renders defs config (.top (.node d)) (.ok page) ∧ render defs config 0 (.node d) = page.whole ∧
      PlainRenders defs config 1 (.node d) page.text ∧
      (∀ text, PlainRenders defs config 1 (.node d) text → text = page.text) ∧
      (∀ visit, Visit.Makes defs config (.top (.node d)) visit → ∀ v, visit.finding defs config ≠ .cycle v) ∧
      ∀ defs' d' R, WellTyped defs' (.node d') → Acyclic defs' (.node d') →
        (∀ n, Walk defs' (.node d') n → (n : Int) ≤ config.maxDepth) → Bisimulation defs defs' R →
        R (.node d) (.node d') →
        ∃ page' : Page, Visit.Renders defs' config (.top (.node d')) (.ok page') ∧
          render defs' config 0 (.node d') = page'.whole ∧ page'.text = page.text := by
  obtain ⟨page, hrenders, hrender, hplain⟩ := exists_plain_page ht ha hw
  refine ⟨page, hrenders, hrender, hplain, fun text htext => htext.unique hplain, fun visit hvisit v => ?_, ?_⟩
  · exact ((Visit.descends_top defs (.node d)).of_makes hvisit).finding_ne_cycle ha v
  · intro defs' d' R ht' ha' hw' hR hd
    obtain ⟨page', hrenders', hrender', hplain'⟩ := exists_plain_page ht' ha' hw'
    have htext := hR.plainRenders_eq hd ht ht' (walksWithin_maxDepth hw) (walksWithin_maxDepth hw') hplain hplain'
    exact ⟨page', hrenders', hrender', htext.symm⟩

end Acyclic

def pairItem (copy : Nat) : Descriptor := .mk ⟨0, [], copy⟩ .null (.string [])

def pairLink (getter : Action) (n : Nat) : Descriptor := .mk ⟨1, [n], 0⟩ .null (.lazy ⟨1, [0, n], 0⟩ getter)

def itemPair (getter : Action) : Descriptor := .mk ⟨1, [], 0⟩ .null (.union [pairLink getter 0, pairLink getter 1])

def pairDefinitions : Definitions := [.ok (.node (pairItem 0))]

/-- The nodes of a pair with the number of steps to the item. -/
inductive PairNode (getter : Action) : Nat → Descriptor → Prop
  | item (copy : Nat) : PairNode getter 0 (pairItem copy)
  | link (n : Nat) : PairNode getter 1 (pairLink getter n)
  | pair : PairNode getter 2 (itemPair getter)

section Pair

variable {getter : Action} (hgetter : ∀ copy w, getter.call pairDefinitions copy = .ok w → ∃ k, w = .node (pairItem k))

include hgetter

theorem PairNode.step {n : Nat} {d : Descriptor} {w : Value} (h : PairNode getter n d)
    (edge : Edge pairDefinitions (.node d) w) : ∃ m e, n = m + 1 ∧ w = .node e ∧ PairNode getter m e := by
  cases h with
  | item copy =>
    cases edge with
    | field child => cases child
  | link k =>
    cases edge with
    | field child => cases child
    | getter call =>
      obtain ⟨k, rfl⟩ := hgetter _ _ call
      exact ⟨0, _, rfl, rfl, .item k⟩
  | pair =>
    cases edge with
    | field child =>
      rcases List.mem_pair.mp child with rfl | rfl
      · exact ⟨1, _, rfl, rfl, .link 0⟩
      · exact ⟨1, _, rfl, rfl, .link 1⟩

theorem PairNode.reaches {n : Nat} {d : Descriptor} {v : Value} (h : PairNode getter n d)
    (hv : Reaches pairDefinitions (.node d) v) : ∃ m e, v = .node e ∧ PairNode getter m e := by
  induction hv with
  | refl => exact ⟨n, d, rfl, h⟩
  | tail _ edge ih =>
    obtain ⟨m, e, rfl, he⟩ := ih
    obtain ⟨l, f, _, rfl, hf⟩ := he.step hgetter edge
    exact ⟨l, f, rfl, hf⟩

theorem PairNode.transGen {n : Nat} {d : Descriptor} {v : Value} (h : PairNode getter n d)
    (hv : Relation.TransGen (Edge pairDefinitions) (.node d) v) : ∃ m e, m < n ∧ v = .node e ∧ PairNode getter m e := by
  induction hv with
  | single edge =>
    obtain ⟨m, e, rfl, rfl, he⟩ := h.step hgetter edge
    exact ⟨m, e, by omega, rfl, he⟩
  | tail _ edge ih =>
    obtain ⟨m, e, hm, rfl, he⟩ := ih
    obtain ⟨l, f, rfl, rfl, hf⟩ := he.step hgetter edge
    exact ⟨l, f, by omega, rfl, hf⟩

theorem wellTyped_itemPair : WellTyped pairDefinitions (.node (itemPair getter)) := by
  intro d hd
  obtain ⟨n, e, heq, he⟩ := PairNode.pair.reaches hgetter hd
  obtain rfl := Value.node.inj heq
  cases he <;> exact ⟨.inl rfl, trivial⟩

theorem acyclic_itemPair : Acyclic pairDefinitions (.node (itemPair getter)) := by
  intro d e hd habove hid
  obtain ⟨n, d, heq, hn⟩ := PairNode.pair.reaches hgetter hd
  obtain rfl := Value.node.inj heq
  obtain ⟨m, e, hlt, heq, hm⟩ := hn.transGen hgetter habove
  obtain rfl := Value.node.inj heq
  cases hn <;> cases hm <;> first | omega | cases hid

theorem PairNode.walk_le {n l : Nat} {d : Descriptor} (h : PairNode getter n d) (hl : Walk pairDefinitions (.node d) l) :
    l ≤ n := by
  generalize hv : Value.node d = v at hl
  induction hl generalizing n d with
  | start => omega
  | call =>
    obtain rfl := Value.node.inj hv
    cases h
    omega
  | step edge _ ih =>
    subst hv
    obtain ⟨m, e, rfl, rfl, he⟩ := h.step hgetter edge
    have := ih he rfl
    omega

end Pair

theorem exists_shared_item (copy : Nat) (w : Value) (h : (Action.shares 0).call pairDefinitions copy = .ok w) :
    ∃ k, w = .node (pairItem k) := ⟨0, (Except.ok.inj h).symm⟩

theorem exists_rebuilt_item (copy : Nat) (w : Value) (h : (Action.rebuilds 0).call pairDefinitions copy = .ok w) :
    ∃ k, w = .node (pairItem k) := ⟨copy, (Except.ok.inj h).symm⟩

theorem copies_itemPair : Value.Copies pairDefinitions pairDefinitions (.node (itemPair (.shares 0)))
    (.node (itemPair (.rebuilds 0))) where
  same := rfl
  typed := wellTyped_itemPair exists_shared_item
  typed' := wellTyped_itemPair exists_rebuilt_item

theorem render_shared_pair_eq_rebuilt_pair :
    ∃ page page' : Page, PlainRenders pairDefinitions .standard 1 (.node (itemPair (.shares 0))) page.text ∧
      render pairDefinitions .standard 0 (.node (itemPair (.shares 0))) = page.whole ∧
      render pairDefinitions .standard 0 (.node (itemPair (.rebuilds 0))) = page'.whole ∧ page'.text = page.text := by
  have hlimit : ∀ {getter : Action}, (∀ copy w, getter.call pairDefinitions copy = .ok w → ∃ k, w = .node (pairItem k)) →
      ∀ n, Walk pairDefinitions (.node (itemPair getter)) n → (n : Int) ≤ Config.standard.maxDepth := by
    intro getter hgetter n hn
    have hle := PairNode.pair.walk_le hgetter hn
    have hmax : Config.standard.maxDepth = 64 := rfl
    omega
  obtain ⟨page, _, hrender, hplain, _, _, hcopies⟩ := render_text_eq_plain pairDefinitions .standard (itemPair (.shares 0))
    (wellTyped_itemPair exists_shared_item) (acyclic_itemPair exists_shared_item) (hlimit exists_shared_item)
  obtain ⟨page', _, hrender', htext⟩ := hcopies pairDefinitions (itemPair (.rebuilds 0)) _
    (wellTyped_itemPair exists_rebuilt_item) (acyclic_itemPair exists_rebuilt_item) (hlimit exists_rebuilt_item)
    (bisimulation_copies (.cons (.ok rfl) .nil)) copies_itemPair
  exact ⟨page, page', hplain, hrender, hrender', htext⟩

/-- Some path from a value has this many edges. -/
inductive EdgePath (defs : Definitions) : Value → Nat → Prop
  | start (v : Value) : EdgePath defs v 0
  | step {v w : Value} {n : Nat} (edge : Edge defs v w) (rest : EdgePath defs w n) : EdgePath defs v (n + 1)

def failingLazy : Descriptor :=
  .mk ⟨0, [], 0⟩ .null (.lazy ⟨0, [0], 0⟩ (.raises (.mk "ValueError" [.text "x"])))

def flatConfig : Config := { Config.standard with maxDepth := 0 }

theorem not_edge_failingLazy (w : Value) : ¬ Edge [] (.node failingLazy) w := by
  intro edge
  cases edge with
  | field child => cases child
  | getter call => cases call

theorem eq_of_reaches_failingLazy {v : Value} (h : Reaches [] (.node failingLazy) v) : v = .node failingLazy := by
  induction h with
  | refl => rfl
  | tail _ edge ih =>
    subst ih
    exact (not_edge_failingLazy _ edge).elim

/-- The page of a lazy node that was not resolved because the limit is zero. -/
def unresolvedPage : Page := failureBlock flatConfig (.unresolved 0)

theorem whole_unresolvedPage : unresolvedPage.whole = .ok unresolvedPage := Page.whole_eq_ok (by decide)

theorem render_failingLazy_ne_plain :
    WellTyped [] (.node failingLazy) ∧ Acyclic [] (.node failingLazy) ∧
      (∀ n, EdgePath [] (.node failingLazy) n → (n : Int) ≤ flatConfig.maxDepth) ∧
      PlainRenders [] flatConfig 1 (.node failingLazy) flatConfig.unresolvedMarker ∧
      ∃ page : Page, render [] flatConfig 0 (.node failingLazy) = .ok page ∧ page.text = flatConfig.recursionMarker ∧
        page.text ≠ flatConfig.unresolvedMarker := by
  refine ⟨fun d hd => ?_, fun d e hd habove => ?_, fun n hn => ?_, ?_, ?_⟩
  · obtain rfl := Value.node.inj (eq_of_reaches_failingLazy hd)
    exact ⟨.inl rfl, trivial⟩
  · rw [eq_of_reaches_failingLazy hd] at habove
    obtain ⟨w, edge, _⟩ := Relation.TransGen.head'_iff.mp habove
    exact (not_edge_failingLazy w edge).elim
  · cases hn with
    | start => decide
    | step edge => exact (not_edge_failingLazy _ edge).elim
  · have hraised : Unwraps [] 1 (.node failingLazy) 1 (.error (.mk "ValueError" [.text "x"])) := .raised rfl
    exact PlainRenders.failed hraised
  · have hblock : (Visit.top (.node failingLazy)).block [] flatConfig = .ok unresolvedPage := rfl
    exact ⟨unresolvedPage, (render_of_block hblock).trans whole_unresolvedPage, rfl, by decide⟩

end Schematic
