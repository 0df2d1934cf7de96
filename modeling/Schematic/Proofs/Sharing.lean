import Schematic.Proofs.Plain
import Schematic.Proofs.Question

namespace Schematic

/-- Two calls that give related values or fail in the same way. -/
inductive OutcomeLike (R : Value → Value → Prop) : Except Raised Value → Except Raised Value → Prop
  | ok {v v' : Value} (h : R v v') : OutcomeLike R (.ok v) (.ok v')
  | error {e e' : Raised} (h : e.mark = e'.mark) : OutcomeLike R (.error e) (.error e')

/-- Values that `R` relates unfold to the same tree: they show the same of themselves, their fields are related
one by one, and so is what their getters give on whichever call. -/
structure Bisimulation (defs defs' : Definitions) (R : Value → Value → Prop) : Prop where
  like : ∀ v v', R v v' → Value.Like R v v'
  unreadable : ∀ v v', R v v' → v.obstacleAt? "description" = v'.obstacleAt? "description"
  description : ∀ v v', R v v' → v.description? = v'.description?
  default : ∀ v v', R v v' → (v.summary defs).default.token = (v'.summary defs').default.token
  getter : ∀ {i j i' j' description description' g g'},
    R (.node (.mk i description (.lazy j g))) (.node (.mk i' description' (.lazy j' g'))) →
    ∀ copy copy', OutcomeLike R (g.call defs copy) (g'.call defs' copy')
  other : ∀ v v', R v v' → ¬ v.IsNode →
    v.fullSignature = v'.fullSignature ∧ ∀ c, (v.answer c defs).kind = (v'.answer c defs').kind

variable {defs defs' : Definitions} {config : Config} {R : Value → Value → Prop}

theorem Value.isOptionalNode_of_not_isNode {v : Value} (hv : ¬ v.IsNode) : v.isOptionalNode = false := by
  cases v with
  | node d => exact (hv ⟨d, rfl⟩).elim
  | _ => rfl

theorem askWith_of_not_isNode {c : Capability} {child : Value → Option Bool} {v : Value} (hv : ¬ v.IsNode) :
    askWith c defs child v = (v.answer c defs).kind := by
  cases v with
  | node d => exact (hv ⟨d, rfl⟩).elim
  | _ => rfl

theorem isModifier_of_like {v v' : Value} (h : Value.Like R v v') : v.isModifier = v'.isModifier := by
  cases h with
  | @node d e hbody =>
    obtain ⟨i, description, body⟩ := d
    obtain ⟨i', description', body'⟩ := e
    cases hbody <;> rfl
  | other hv hv' =>
    rw [Value.isModifier_of_not_isNode hv, Value.isModifier_of_not_isNode hv']

theorem isOptionalNode_of_like {v v' : Value} (h : Value.Like R v v') : v.isOptionalNode = v'.isOptionalNode := by
  cases h with
  | @node d e hbody =>
    obtain ⟨i, description, body⟩ := d
    obtain ⟨i', description', body'⟩ := e
    cases hbody with
    | modified hm => cases hm <;> rfl
    | _ => rfl
  | other hv hv' =>
    rw [Value.isOptionalNode_of_not_isNode hv, Value.isOptionalNode_of_not_isNode hv']

theorem isComplex_of_like {d e : Descriptor} (h : Body.Like R d.body e.body) : d.isComplex = e.isComplex := by
  obtain ⟨i, description, body⟩ := d
  obtain ⟨i', description', body'⟩ := e
  cases h <;> rfl

theorem grantedBy_of_like (c : Capability) {m m' : Modifier} (h : Modifier.Like m m') :
    c.grantedBy m = c.grantedBy m' := by
  cases c <;> cases h <;> rfl

theorem WellTyped.isNode_of_edge {c w : Value} (h : WellTyped defs c) (hc : c.isModifier = false) (edge : Edge defs c w) :
    w.IsNode := by
  cases edge with
  | getter => simp [Value.isModifier] at hc
  | @field d w child =>
    obtain ⟨i, description, body⟩ := d
    have hbody := (h _ .refl).2
    cases body with
    | object properties =>
      obtain ⟨entry, hentry, rfl⟩ := List.mem_map.mp child
      exact (hbody entry hentry).2
    | union options =>
      obtain ⟨o, _, rfl⟩ := List.mem_map.mp child
      exact ⟨o, rfl⟩
    | tuple items rest =>
      rcases Body.mem_children_tuple.mp child with ⟨o, _, rfl⟩ | ⟨rfl, hrest⟩
      · exact ⟨o, rfl⟩
      · exact hbody.resolve_left hrest
    | intersection | record =>
      rcases List.mem_pair.mp child with rfl | rfl <;> exact ⟨_, rfl⟩
    | array | promise | modified =>
      obtain rfl := List.mem_singleton.mp child
      exact ⟨_, rfl⟩
    | _ => cases child

theorem WellTyped.descriptionOrNull_of_edge {c w : Value} (h : WellTyped defs c) (hc : c.isModifier = false)
    (edge : Edge defs c w) : w.descriptionOrNull = .null ∨ w.descriptionOrNull.IsText := by
  obtain ⟨d, rfl⟩ := h.isNode_of_edge hc edge
  exact (h d (.single edge)).descriptionOrNull

theorem descriptionOrNull_eq {v v' : Value} (h : v.description? = v'.description?)
    (hv : v.descriptionOrNull = .null ∨ v.descriptionOrNull.IsText)
    (hv' : v'.descriptionOrNull = .null ∨ v'.descriptionOrNull.IsText) : v.descriptionOrNull = v'.descriptionOrNull := by
  unfold Value.description? at h
  rcases hv with hv | ⟨t, hv⟩ <;> rcases hv' with hv' | ⟨t', hv'⟩ <;> rw [hv, hv'] at h ⊢ <;>
    simp_all [shownDescription, Value.shown]

namespace Bisimulation

/-- Related values unwrap to related values, or fail in the same way. -/
theorem unwraps (hR : Bisimulation defs defs' R) {copy count : Nat} {v : Value} {r : Except Raised Value}
    (h : Unwraps defs copy v count r) {v' : Value} (hv : R v v') (copy' : Nat) :
    ∃ r', Unwraps defs' copy' v' count r' ∧ OutcomeLike R r r' := by
  induction h generalizing v' copy' with
  | done plain => exact ⟨_, .done ((isModifier_of_like (hR.like _ _ hv)).symm.trans plain), .ok hv⟩
  | wrapper _ ih =>
    cases hR.like _ _ hv with
    | @node _ e hbody =>
      obtain ⟨i', description', body'⟩ := e
      cases hbody with
      | modified _ hinner =>
        obtain ⟨r', hr', hlike⟩ := ih hinner copy'
        exact ⟨r', .wrapper hr', hlike⟩
    | other hnode => exact (hnode ⟨_, rfl⟩).elim
  | @raised copy i j description g e call =>
    cases hR.like _ _ hv with
    | @node _ e' hbody =>
      obtain ⟨i', description', body'⟩ := e'
      cases hbody with
      | lazy _ j' _ g' =>
        have houtcome := hR.getter hv copy copy'
        rw [call] at houtcome
        generalize hcall : g'.call defs' copy' = outcome at houtcome
        cases houtcome with
        | error he => exact ⟨_, .raised hcall, .error he⟩
    | other hnode => exact (hnode ⟨_, rfl⟩).elim
  | @resolved copy count i j description w g r call _ ih =>
    cases hR.like _ _ hv with
    | @node _ e' hbody =>
      obtain ⟨i', description', body'⟩ := e'
      cases hbody with
      | lazy _ j' _ g' =>
        have houtcome := hR.getter hv copy copy'
        rw [call] at houtcome
        generalize hcall : g'.call defs' copy' = outcome at houtcome
        cases houtcome with
        | ok hw =>
          obtain ⟨r', hr', hlike⟩ := ih hw (copy' + 1)
          exact ⟨r', .resolved hcall hr', hlike⟩
    | other hnode => exact (hnode ⟨_, rfl⟩).elim

theorem fullSignature_eq (hR : Bisimulation defs defs' R) {v v' : Value} (hv : R v v') :
    v.fullSignature = v'.fullSignature := by
  induction hsize : sizeOf v using Nat.strong_induction_on generalizing v v' with
  | _ size ih =>
    subst hsize
    cases hR.like _ _ hv with
    | @node d e hbody =>
      rw [fullSignature_node, fullSignature_node]
      refine signatureWith_of_like (R := fun w w' => R w w' ∧ w ∈ d.body.children)
        (hbody.imp fun w w' hw _ hr => ⟨hr, hw⟩) fun w w' hw => ih _ ?_ hw.1 rfl
      have := Descriptor.sizeOf_children_lt hw.2
      simp only [Value.node.sizeOf_spec]
      omega
    | other hnode => exact (hR.other _ _ hv hnode).1

theorem askWithin_eq (hR : Bisimulation defs defs' R) (c : Capability) (levels : Nat) {v v' : Value} (hv : R v v') :
    askWithin c defs levels v = askWithin c defs' levels v' := by
  induction levels generalizing v v' with
  | zero => rfl
  | succ levels ih =>
    simp only [askWithin]
    cases hR.like _ _ hv with
    | @node d e hbody =>
      obtain ⟨i, description, body⟩ := d
      obtain ⟨i', description', body'⟩ := e
      cases hbody with
      | union hcs => simp only [askWith, map_eq_map_of_forall₂ hcs fun o o' ho => ih ho]
      | intersection h₁ h₂ => simp only [askWith, ih h₁, ih h₂]
      | literal _ granted => simp only [askWith, granted]
      | modified hm hc => simp only [askWith, grantedBy_of_like c hm, ih hc]
      | lazy j j' g g' =>
        have houtcome := hR.getter hv 0 0
        simp only [askWith]
        generalize g.call defs 0 = outcome at houtcome ⊢
        generalize g'.call defs' 0 = outcome' at houtcome ⊢
        cases houtcome with
        | ok hw => exact ih hw
        | error => rfl
      | _ => rfl
    | other hnode hnode' =>
      rw [askWith_of_not_isNode hnode, askWith_of_not_isNode hnode', (hR.other _ _ hv hnode).2 c]

theorem mayBeLeftOut_eq (hR : Bisimulation defs defs' R) {v v' : Value} (hv : R v v') {bound bound' : Nat}
    (hw : WalksWithin defs bound v) (hw' : WalksWithin defs' bound' v') : v.mayBeLeftOut defs = v'.mayBeLeftOut defs' := by
  have hlevels : bound < max bound bound' + 1 ∧ bound' < max bound bound' + 1 := by omega
  rw [Value.mayBeLeftOut, Value.mayBeLeftOut, isOptionalNode_of_like (hR.like _ _ hv), hw.can_eq hlevels.1,
    hw'.can_eq hlevels.2, hR.askWithin_eq _ _ hv]

theorem plainType_eq (hR : Bisimulation defs defs' R) {v v' : Value} (hv : R v v') {copy copy' : Nat} {t t' : Text}
    (h : PlainType defs config copy v t) (h' : PlainType defs' config copy' v' t') : t = t' := by
  cases h with
  | failed hu =>
    obtain ⟨r, hr, houtcome⟩ := hR.unwraps hu hv copy'
    cases h' with
    | failed hu' =>
      obtain rfl := (hr.unique hu').2
      cases houtcome with
      | error he => rw [he]
    | shown hu' =>
      obtain rfl := (hr.unique hu').2
      cases houtcome
  | shown hu =>
    obtain ⟨r, hr, houtcome⟩ := hR.unwraps hu hv copy'
    cases h' with
    | failed hu' =>
      obtain rfl := (hr.unique hu').2
      cases houtcome
    | shown hu' =>
      obtain rfl := (hr.unique hu').2
      cases houtcome with
      | ok hc => exact hR.fullSignature_eq hc

theorem plainRenders_eq (hR : Bisimulation defs defs' R) {copy copy' : Nat} {v v' : Value} (hv : R v v')
    (ht : WellTyped defs v) (ht' : WellTyped defs' v') {bound bound' : Nat} (hw : WalksWithin defs bound v)
    (hw' : WalksWithin defs' bound' v') {t t' : Text}
    (h : PlainRenders defs config copy v t) (h' : PlainRenders defs' config copy' v' t') : t = t' := by
  induction h generalizing v' copy' t' with
  | @failed copy count v e hu =>
    obtain ⟨r, hr, houtcome⟩ := hR.unwraps hu hv copy'
    cases h' with
    | failed hu' =>
      obtain rfl := (hr.unique hu').2
      cases houtcome with
      | error he => rw [he]
    | opened hu' =>
      obtain rfl := (hr.unique hu').2
      cases houtcome
  | @opened copy count v c type text parts hu htypes hl _ ih =>
    obtain ⟨r, hr, houtcome⟩ := hR.unwraps hu hv copy'
    cases h' with
    | failed hu' =>
      obtain rfl := (hr.unique hu').2
      cases houtcome
    | @opened _ _ _ c' type' text' parts' hu' htypes' hl' hchildren' =>
      obtain rfl := (hr.unique hu').2
      cases houtcome with
      | ok hc =>
        have htc := ht.below hu.reaches
        have htc' := ht'.below hu'.reaches
        have hwc := hw.below hu.reaches
        have hwc' := hw'.below hu'.reaches
        have hparts := layoutWith_of_like (R := fun w w' => R w w' ∧ Edge defs c w ∧ Edge defs' c' w') ⟨?_, ?_, ?_⟩
          ((hR.like _ _ hc).restrict defs defs') (hR.unreadable _ _ hc) (hR.description _ _ hc)
          (hR.fullSignature_eq hc) hl hl'
        · refine flatMap_textWith_of_like hparts fun w w' hmem hmem' hrel => ?_
          obtain ⟨hrel, hedge, hedge'⟩ := hrel
          exact ih w hmem hrel (htc.below (.single hedge)) (htc'.below (.single hedge')) (hwc.below (.single hedge))
            (hwc'.below (.single hedge')) (hchildren' w' hmem')
        · exact fun w w' hrel => hR.fullSignature_eq hrel.1
        · rintro w w' ⟨hrel, hedge, hedge'⟩
          have htype := hR.plainType_eq hrel (htypes w hedge) (htypes' w' hedge')
          have hleft := hR.mayBeLeftOut_eq hrel (hwc.below (.single hedge)) (hwc'.below (.single hedge'))
          have hdescription := descriptionOrNull_eq (hR.description _ _ hrel)
            (htc.descriptionOrNull_of_edge hu.isModifier_eq_false hedge)
            (htc'.descriptionOrNull_of_edge hu'.isModifier_eq_false hedge')
          simp only [plainLook, cellsOf, htype, hleft, hdescription, hR.default _ _ hrel]
        · rintro d d' ⟨hrel, _⟩
          cases hR.like _ _ hrel with
          | node hbody => exact isComplex_of_like hbody
          | other hnode => exact (hnode ⟨d, rfl⟩).elim

end Bisimulation
end Schematic
