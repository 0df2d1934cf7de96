import Schematic.Proofs.Simulation

/-! Plain rendering unwraps a value for as long as it takes and renders the children of what it comes to. It
remembers no ancestors and counts no levels, so it need not end. On an acyclic graph it does, and under a
limit that no walk exceeds the renderer gives the same text: a node that is shared is not taken for one that
comes back to itself. -/
namespace Schematic

section Plain

variable (defs : Definitions) (config : Config)

inductive PlainType (copy : Nat) (v : Value) : Text → Prop
  | failed {count : Nat} {e : Raised} (unwraps : Unwraps defs copy v count (.error e)) :
      PlainType copy v (config.marker e.mark)
  | shown {count : Nat} {c : Value} (unwraps : Unwraps defs copy v count (.ok c)) : PlainType copy v c.fullSignature

/-- What is shown of values when signatures have no limit and rows have the types `type`. -/
def plainLook (type : Value → Text) : Look where
  signature := Value.fullSignature
  cells v := cellsOf defs config (type v) v

/-- Plain rendering of a value ends with a text. -/
inductive PlainRenders : (copy : Nat) → Value → Text → Prop
  | failed {copy count : Nat} {v : Value} {e : Raised} (unwraps : Unwraps defs copy v count (.error e)) :
      PlainRenders copy v (config.marker e.mark)
  | opened {copy count : Nat} {v c : Value} {type text : Value → Text} {parts : List Part}
      (unwraps : Unwraps defs copy v count (.ok c))
      (types : ∀ w, Edge defs c w → PlainType defs config (copy + count) w (type w))
      (layout : layoutWith config (plainLook defs config type) c = .ok parts)
      (children : ∀ w ∈ blocks parts, PlainRenders (copy + count) w (text w)) :
      PlainRenders copy v (parts.flatMap (Part.textWith text))

end Plain

variable {defs : Definitions} {config : Config} {root : Value}

theorem PlainType.unique {copy : Nat} {v : Value} {t t' : Text} (h : PlainType defs config copy v t)
    (h' : PlainType defs config copy v t') : t = t' := by
  cases h with
  | failed hu =>
    cases h' with
    | failed hu' => rw [Except.error.inj (hu.unique hu').2]
    | shown hu' => cases (hu.unique hu').2
  | shown hu =>
    cases h' with
    | failed hu' => cases (hu.unique hu').2
    | shown hu' => rw [Except.ok.inj (hu.unique hu').2]

theorem PlainRenders.unique {copy : Nat} {v : Value} {t t' : Text} (h : PlainRenders defs config copy v t)
    (h' : PlainRenders defs config copy v t') : t = t' := by
  induction h generalizing t' with
  | failed hu =>
    cases h' with
    | failed hu' => rw [Except.error.inj (hu.unique hu').2]
    | opened hu' => cases (hu.unique hu').2
  | @opened copy count v c type text parts hu htypes hl _ ih =>
    cases h' with
    | failed hu' => cases (hu.unique hu').2
    | @opened _ _ _ _ type' text' parts' hu' htypes' hl' hchildren' =>
      obtain ⟨rfl, hc⟩ := hu.unique hu'
      obtain rfl := Except.ok.inj hc
      have hself : (plainLook defs config type).signature c = (plainLook defs config type').signature c := rfl
      have hlike : Value.Like (fun w w' => w = w' ∧ Edge defs c w) c c := .refl defs fun w hedge => ⟨rfl, hedge⟩
      have hparts := layoutWith_of_like ⟨?_, ?_, ?_⟩ hlike rfl rfl hself hl hl'
      · refine flatMap_textWith_of_like hparts ?_
        rintro w _ hw hw' ⟨rfl, _⟩
        exact ih w hw (hchildren' w hw')
      · rintro w _ ⟨rfl, _⟩
        rfl
      · rintro w _ ⟨rfl, hedge⟩
        simp only [plainLook, (htypes w hedge).unique (htypes' w hedge)]
      · rintro d d' ⟨hd, _⟩
        rw [Value.node.inj hd]

/-- A signature is shown in full by more levels than a walk has steps. -/
theorem WalksWithin.signatureIn_eq {bound : Nat} {v : Value} (h : WalksWithin defs bound v) {levels : Nat}
    (hlevels : bound < levels) (marker : Text) : v.signatureIn marker levels = v.fullSignature := by
  induction levels generalizing v bound with
  | zero => omega
  | succ levels ih =>
    by_cases hnode : v.IsNode
    · obtain ⟨d, rfl⟩ := hnode
      rw [signatureIn_node, fullSignature_node]
      refine signatureWith_congr fun w hw => ?_
      obtain ⟨less, rfl, hless⟩ := h.step (.field hw)
      exact ih hless (by omega)
    · exact signatureIn_other marker levels hnode

theorem WalksWithin.signature_eq {bound : Nat} {v : Value} (h : WalksWithin defs bound v)
    (hle : (bound : Int) ≤ config.maxDepth) : config.signature v = v.fullSignature :=
  h.signatureIn_eq (by unfold Value.levels; omega) _

theorem WalksWithin.plainType {bound : Nat} {v : Value} (h : WalksWithin defs bound v)
    (hle : (bound : Int) ≤ config.maxDepth) (copy : Nat) :
    PlainType defs config copy v (rowType defs config copy v) := by
  obtain ⟨count, r, hcount, hu⟩ := h.exists_unwraps copy
  rw [rowType_eq, unwrapped_of_unwraps hu (by omega)]
  cases r with
  | error e => exact .failed hu
  | ok c =>
    have hc : config.signature c = c.fullSignature := (h.below hu.reaches).signature_eq hle
    simp only [Except.mapError, hc]
    exact .shown hu

/-- Where walks are bounded, a block has the same parts when nothing is cut short. -/
theorem WalksWithin.exists_plain_layout {bound : Nat} {c : Value} (h : WalksWithin defs bound c) (ht : WellTyped defs c)
    (hle : (bound : Int) ≤ config.maxDepth) (copy : Nat) :
    ∃ parts parts', layout defs config copy c = .ok parts ∧
      layoutWith config (plainLook defs config (rowType defs config copy)) c = .ok parts' ∧
      List.Forall₂ (Part.Like fun w w' => w = w' ∧ Edge defs c w) parts parts' := by
  obtain ⟨parts, hl⟩ := ht.exists_layout config copy
  obtain ⟨parts', hl'⟩ : ∃ parts', layoutWith config (plainLook defs config (rowType defs config copy)) c = .ok parts' :=
    ht.exists_layoutWith config fun d hd => ht.cellsOf_isText hd config _
  refine ⟨parts, parts', hl, hl', ?_⟩
  have hlike : Value.Like (fun w w' => w = w' ∧ Edge defs c w) c c := .refl defs fun w hedge => ⟨rfl, hedge⟩
  refine layoutWith_of_like ⟨?_, ?_, ?_⟩ hlike rfl rfl (h.signature_eq hle) hl hl'
  · rintro w _ ⟨rfl, hedge⟩
    exact (h.below (.single hedge)).signature_eq hle
  · rintro w _ ⟨rfl, _⟩
    rfl
  · rintro d d' ⟨hd, _⟩
    rw [Value.node.inj hd]

namespace Visit

/-- The ancestors of a visit are nodes from which its value is reached, at least in one step. -/
structure Descends (defs : Definitions) (root : Value) (visit : Visit) : Prop where
  reached : Reaches defs root visit.value
  ancestors : ∀ i ∈ visit.ancestors, ∃ d, d.identity = i ∧ Reaches defs root (.node d) ∧
    Relation.TransGen (Edge defs) (.node d) visit.value

theorem descends_top (defs : Definitions) (v : Value) : Descends defs v (.top v) where
  reached := .refl
  ancestors := by simp [top]

/-- On an acyclic graph nothing below a visit is one of its ancestors. -/
theorem Descends.isAmong_eq_false (ha : Acyclic defs root) {visit : Visit} (h : Descends defs root visit) {v : Value}
    (hv : Reaches defs visit.value v) : v.isAmong visit.ancestors = false := by
  by_contra hamong
  obtain ⟨e, rfl, hmem⟩ := exists_node_of_isAmong (by simpa using hamong)
  obtain ⟨d, hid, hd, habove⟩ := h.ancestors _ hmem
  exact ha d e hd (habove.trans_left hv) hid

theorem Descends.finding_ne_cycle (ha : Acyclic defs root) {visit : Visit} (h : Descends defs root visit) (v : Value) :
    visit.finding defs config ≠ .cycle v := by
  have hraw := h.isAmong_eq_false ha .refl
  by_cases hdepth : visit.depth ≤ config.maxDepth
  · cases hu : visit.value.unwrapped defs config.maxDepth visit.copy with
    | error r =>
      obtain ⟨failure, hfinding, _⟩ := finding_of_error hraw hdepth hu
      simp [hfinding]
    | ok c =>
      obtain ⟨copy, hfinding⟩ := finding_of_ok hraw hdepth hu
      simp [hfinding, h.isAmong_eq_false ha (reaches_of_unwrapped hu)]
  · simp [finding, hraw, show config.maxDepth < visit.depth by omega]

theorem Descends.child {visit : Visit} (h : Descends defs root visit) {c w : Value} {copy : Nat}
    (hc : Reaches defs visit.value c) (hw : Edge defs c w) : Descends defs root (visit.child c copy w) := by
  have habove : Relation.TransGen (Edge defs) visit.value w := Relation.TransGen.tail' hc hw
  refine ⟨h.reached.trans habove.to_reflTransGen, fun i hi => ?_⟩
  simp only [Visit.child, below, List.mem_append, mem_identity?] at hi
  rcases hi with (⟨d, rfl, hid⟩ | ⟨d, hd, hid⟩) | hi
  · exact ⟨d, hid, h.reached.trans hc, .single hw⟩
  · exact ⟨d, hid, hd ▸ h.reached, hd ▸ habove⟩
  · obtain ⟨d, hid, hd, hreach⟩ := h.ancestors i hi
    exact ⟨d, hid, hd, hreach.trans habove⟩

theorem Descends.of_makes {visit next : Visit} (h : Descends defs root visit) (hmakes : Makes defs config visit next) :
    Descends defs root next := by
  induction hmakes with
  | refl => exact h
  | tail _ hnext ih =>
    obtain ⟨c, copy, parts, v, hfinding, hl, hv, rfl⟩ := mem_nested hnext
    exact ih.child (reaches_of_unwrap (finding_opened hfinding).2.2.1) (edge_of_mem_blocks hl hv)

/-- On an acyclic graph a visit has the block that plain rendering gives its value. -/
theorem Descends.exists_plain (ht : WellTyped defs root) (ha : Acyclic defs root) {visit : Visit}
    (h : Descends defs root visit) {bound : Nat} (hw : WalksWithin defs bound visit.value) (hpos : 0 ≤ visit.depth)
    (hdepth : visit.depth + bound ≤ config.maxDepth) :
    ∃ page, visit.block defs config = .ok page ∧ PlainRenders defs config visit.copy visit.value page.text := by
  induction bound using Nat.strong_induction_on generalizing visit with
  | _ bound ih =>
    have hraw := h.isAmong_eq_false ha .refl
    obtain ⟨count, r, hcount, hu⟩ := hw.exists_unwraps visit.copy
    have hunwrap : visit.value.unwrap defs config.maxDepth visit.copy = _ := unwrap_of_unwraps hu (by omega)
    have hunwrapped : visit.value.unwrapped defs config.maxDepth visit.copy = _ := unwrapped_of_unwraps hu (by omega)
    cases r with
    | error e =>
      obtain ⟨failure, hfinding, hr⟩ := finding_of_error hraw (by omega) hunwrapped
      refine ⟨failureBlock config failure, by rw [block_eq, blockWith, hfinding], ?_⟩
      rw [text_failureBlock, hr]
      exact .failed hu
    | ok c =>
      have hc := hu.reaches
      obtain ⟨copy, hfinding⟩ := finding_of_ok hraw (by omega) hunwrapped
      rw [h.isAmong_eq_false ha hc] at hfinding
      obtain rfl : copy = visit.copy + count := by
        have := (finding_opened hfinding).2.2.1
        rw [hunwrap] at this
        injection this with this
        injection this with _ this
        exact this.symm
      have htc : WellTyped defs c := ht.below (h.reached.trans hc)
      have hwc := hw.below hc
      have hle : (bound : Int) ≤ config.maxDepth := by omega
      obtain ⟨parts, parts', hl, hl', hparts⟩ := hwc.exists_plain_layout htc hle (visit.copy + count)
      have hblock : ∀ w, Edge defs c w → ∃ page, (visit.child c (visit.copy + count) w).block defs config = .ok page ∧
          PlainRenders defs config (visit.copy + count) w page.text := by
        intro w hedge
        obtain ⟨less, rfl, hless⟩ := hwc.step hedge
        have hnext : (visit.child c (visit.copy + count) w).depth = visit.depth + 1 := rfl
        exact ih less (by omega) (h.child hc hedge) hless (by omega) (by omega)
      obtain ⟨page, hpage, htext⟩ := block_of_opened hfinding hl fun w hmem => by
        obtain ⟨page, hpage, _⟩ := hblock w (edge_of_mem_blocks hl hmem)
        exact ⟨page, hpage⟩
      refine ⟨page, hpage, ?_⟩
      rw [htext, flatMap_textWith_of_like hparts fun w w' _ _ hw' => by rw [hw'.1]]
      refine .opened hu (fun w hedge => ?_) hl' fun w hmem => ?_
      · exact (hwc.below (.single hedge)).plainType hle _
      · obtain ⟨page, hpage, hplain⟩ := hblock w (edge_of_mem_blocks hl' hmem)
        rw [hpage]
        exact hplain

end Visit
end Schematic
