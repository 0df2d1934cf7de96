import Schematic.Markdown.Document
import Schematic.Proofs.Simulation

/-! A graph may be cyclic, and yet rendering it ends by itself if its getters give the same on each call: on
the way down each level adds a node to the ancestors, and there are only so many nodes. A depth limit of at
least their number is never met, and which limit it is does not show. Nor do modifiers: a value is rendered
like what it unwraps to. -/
namespace Schematic

variable {defs : Definitions} {config : Config} {root : Value} {n : Nat}

/-- On a fixed graph a path through fields meets no node twice, so enough levels show a signature in full. -/
theorem Fixed.signatureIn_eq (hf : Fixed defs root) (hn : nodeCount defs root = n) {v : Value} (hv : Reaches defs root v)
    (above : Finset Identity) (hsub : ∀ i ∈ above, i ∈ identities defs root)
    (habove : ∀ d, Reaches defs root (.node d) → d.identity ∈ above → sizeOf v < sizeOf (Value.node d)) {levels : Nat}
    (hlevels : n < above.card + levels) (marker : Text) : v.signatureIn marker levels = v.fullSignature := by
  induction hsize : sizeOf v using Nat.strong_induction_on generalizing v above levels with
  | _ size ih =>
    subst hsize
    have hcard := card_le_of_subset_identities hn hsub
    obtain ⟨levels, rfl⟩ : ∃ l, levels = l + 1 := ⟨levels - 1, by omega⟩
    by_cases hnode : v.IsNode
    · obtain ⟨d, rfl⟩ := hnode
      have hd : d.identity ∉ above := fun hmem => (habove d hv hmem).false
      rw [signatureIn_node, fullSignature_node]
      refine signatureWith_congr fun w hw => ?_
      have hsize : sizeOf w < sizeOf (Value.node d) := by
        have := Descriptor.sizeOf_children_lt hw
        simp only [Value.node.sizeOf_spec]
        omega
      refine ih _ hsize (hv.tail (.field hw)) (insert d.identity above) ?_ ?_ ?_ rfl
      · intro i hi
        rcases Finset.mem_insert.mp hi with rfl | hi
        · exact ⟨d, hv, rfl⟩
        · exact hsub i hi
      · intro e he hmem
        rcases Finset.mem_insert.mp hmem with heq | hmem
        · exact hf.faithful _ _ he hv heq ▸ hsize
        · exact hsize.trans (habove e he hmem)
      · rw [Finset.card_insert_of_notMem hd]
        omega
    · exact signatureIn_other marker levels hnode

theorem Fixed.signature_eq (hf : Fixed defs root) (hn : nodeCount defs root = n) (hle : n ≤ config.maxDepth) {v : Value}
    (hv : Reaches defs root v) : config.signature v = v.fullSignature := by
  refine hf.signatureIn_eq hn hv ∅ (by simp) (by simp) ?_ _
  rw [Finset.card_empty, Value.levels]
  omega

theorem Fixed.rowType_eq (hf : Fixed defs root) (hn : nodeCount defs root = n) (hle : n ≤ config.maxDepth) {maxDepth : Int}
    (hle' : n ≤ maxDepth) (depthMarker : Text) (copy copy' : Nat) {v : Value} (hv : Reaches defs root v) :
    rowType defs config copy v = rowType defs (config.withLimit maxDepth depthMarker) copy' v := by
  have hunwrapped := hf.unwrapped_eq hn hv hle hle' copy copy'
  have hlimit : (config.withLimit maxDepth depthMarker).maxDepth = maxDepth := rfl
  rw [Schematic.rowType_eq, Schematic.rowType_eq, hlimit, hunwrapped]
  cases hu : v.unwrapped defs maxDepth copy' with
  | error r => rfl
  | ok c =>
    have hc : Reaches defs root c := hv.trans (reaches_of_unwrapped hu)
    have hlimited : (config.withLimit maxDepth depthMarker).signature c = c.fullSignature := hf.signature_eq hn hle' hc
    simp only [hf.signature_eq hn hle hc, hlimited]

/-- Below the given nodes, rendering a value stops at the value or at what it unwraps to. -/
def Guarded (defs : Definitions) (ancestors : List Identity) (v : Value) : Prop :=
  v.isAmong ancestors = true ∨ ∃ copy count c, Unwraps defs copy v count (.ok c) ∧ c.isAmong ancestors = true

theorem guarded_append {l l' : List Identity} {v : Value} :
    Guarded defs (l ++ l') v ↔ Guarded defs l v ∨ Guarded defs l' v := by
  simp only [Guarded, isAmong_append, Bool.or_eq_true]
  constructor
  · rintro ((h | h) | ⟨copy, count, c, hu, h | h⟩)
    · exact .inl (.inl h)
    · exact .inr (.inl h)
    · exact .inl (.inr ⟨copy, count, c, hu, h⟩)
    · exact .inr (.inr ⟨copy, count, c, hu, h⟩)
  · rintro ((h | ⟨copy, count, c, hu, h⟩) | h | ⟨copy, count, c, hu, h⟩)
    · exact .inl (.inl h)
    · exact .inr ⟨copy, count, c, hu, .inl h⟩
    · exact .inl (.inr h)
    · exact .inr ⟨copy, count, c, hu, .inr h⟩

theorem not_guarded_nil {v : Value} : ¬ Guarded defs [] v := by
  have hnil : ∀ w : Value, w.isAmong [] = false := fun w => by cases w <;> rfl
  simp [Guarded, hnil]

/-- On a fixed graph all limits from the number of nodes on let a value unwrap to what it leads to. -/
theorem Fixed.unwrapped_of_unwraps (hf : Fixed defs root) (hn : nodeCount defs root = n) {limit : Int} (hle : n ≤ limit)
    {copy count : Nat} {v : Value} {r : Except Raised Value} (h : Unwraps defs copy v count r) (hv : Reaches defs root v)
    (copy' : Nat) : v.unwrapped defs limit copy' = r.mapError Raised.mark := by
  have := hf.count_le hn h hv
  exact Schematic.unwrapped_of_unwraps (hf.unwraps_copy h hv copy') (by omega)

theorem exists_unwraps_of_unwrapped {limit : Int} {copy : Nat} {v c : Value} (h : v.unwrapped defs limit copy = .ok c) :
    ∃ count, Unwraps defs copy v count (.ok c) := by
  unfold Value.unwrapped at h
  rcases unwrap_cases defs limit copy v with ⟨count, r, _, hu, houtcome⟩ | hu
  · rw [houtcome] at h
    cases r with
    | error e => cases h
    | ok c' => exact ⟨count, Except.ok.inj h ▸ hu⟩
  · rw [hu] at h
    cases h

namespace Visit

/-- The ancestors of a visit are distinct nodes of the graph, and at least as many as the levels above it. -/
structure Bounded (defs : Definitions) (root : Value) (visit : Visit) : Prop where
  reached : Reaches defs root visit.value
  nodes : ∀ i ∈ visit.ancestors, i ∈ identities defs root
  depth : visit.depth ≤ visit.ancestors.toFinset.card

theorem Bounded.depth_le {visit : Visit} (h : Bounded defs root visit) (hn : nodeCount defs root = n) :
    visit.depth ≤ n := by
  have hcard := card_le_of_subset_identities hn fun i hi => h.nodes i (List.mem_toFinset.mp hi)
  have := h.depth
  omega

theorem bounded_top (defs : Definitions) {root v : Value} (hv : Reaches defs root v) : Bounded defs root (.top v) where
  reached := hv
  nodes := by simp [top]
  depth := by simp [top]

/-- An opened visit is not guarded, and its node is new among the ancestors of the children. -/
theorem Bounded.child {visit : Visit} (h : Bounded defs root visit) {c w : Value} {copy : Nat}
    (hf : visit.finding defs config = .opened c copy) (hw : Edge defs c w) :
    Bounded defs root (visit.child c copy w) := by
  obtain ⟨_, _, hu, hc⟩ := finding_opened hf
  have hreached : Reaches defs root c := h.reached.trans (reaches_of_unwrap hu)
  obtain ⟨d, rfl⟩ := hw.isNode
  have hd : d.identity ∉ visit.ancestors := by
    intro hmem
    rw [(isAmong_node _ d).mpr hmem] at hc
    cases hc
  refine ⟨hreached.tail hw, fun i hi => ?_, ?_⟩
  · simp only [Visit.child, below, List.mem_append, mem_identity?] at hi
    rcases hi with (⟨e, he, rfl⟩ | ⟨e, he, rfl⟩) | hi
    · exact ⟨e, he ▸ hreached, rfl⟩
    · exact ⟨e, he ▸ h.reached, rfl⟩
    · exact h.nodes i hi
  · have hsub : insert d.identity visit.ancestors.toFinset ⊆ (visit.below (.node d)).toFinset := by
      intro i hi
      simp only [below, List.mem_toFinset, List.mem_append, mem_identity?]
      rcases Finset.mem_insert.mp hi with rfl | hi
      · exact .inl (.inl ⟨d, rfl, rfl⟩)
      · exact .inr (List.mem_toFinset.mp hi)
    have hcard := Finset.card_le_card hsub
    rw [Finset.card_insert_of_notMem (by simpa using hd)] at hcard
    have := h.depth
    simp only [Visit.child]
    omega

/-- Visits of one value below ancestors that guard the same. -/
structure Paired (defs : Definitions) (root : Value) (a b : Visit) : Prop where
  value : a.value = b.value
  left : Bounded defs root a
  right : Bounded defs root b
  guards : ∀ w, Reaches defs root w → (Guarded defs a.ancestors w ↔ Guarded defs b.ancestors w)

section Finding

variable {visit : Visit} (hf : Fixed defs root) (hn : nodeCount defs root = n) (hle : n ≤ config.maxDepth)
  (hbounded : Bounded defs root visit)

include hf hn hle hbounded

theorem finding_of_guarded (h : Guarded defs visit.ancestors visit.value) :
    ∃ v, visit.finding defs config = .cycle v := by
  by_cases hraw : visit.value.isAmong visit.ancestors = true
  · exact ⟨_, finding_of_isAmong hraw⟩
  · rcases h with h | ⟨copy, count, c, hu, hc⟩
    · exact (hraw h).elim
    · have hdepth := hbounded.depth_le hn
      obtain ⟨copy', hfinding⟩ := finding_of_ok (by simpa using hraw) (hdepth.trans hle)
        (hf.unwrapped_of_unwraps hn hle hu hbounded.reached visit.copy)
      exact ⟨c, by rw [hfinding, if_pos hc]⟩

omit hf in
theorem finding_of_not_guarded (h : ¬ Guarded defs visit.ancestors visit.value) :
    (∀ mark, visit.value.unwrapped defs config.maxDepth visit.copy = .error mark →
      ∃ failure, visit.finding defs config = .failed failure ∧ failure.mark = mark) ∧
    ∀ c, visit.value.unwrapped defs config.maxDepth visit.copy = .ok c →
      ∃ copy, visit.finding defs config = .opened c copy := by
  have hraw : visit.value.isAmong visit.ancestors = false := by
    by_contra hraw
    exact h (.inl (by simpa using hraw))
  have hdepth := (hbounded.depth_le hn).trans hle
  refine ⟨fun mark hmark => finding_of_error hraw hdepth hmark, fun c hc => ?_⟩
  obtain ⟨copy, hfinding⟩ := finding_of_ok hraw hdepth hc
  obtain ⟨count, hu⟩ := exists_unwraps_of_unwrapped hc
  have hamong : ¬ c.isAmong visit.ancestors = true := fun hamong => h (.inr ⟨_, count, c, hu, hamong⟩)
  exact ⟨copy, by rw [hfinding, if_neg hamong]⟩

theorem finding_ne_tooDeep : visit.finding defs config ≠ .tooDeep := by
  by_cases h : Guarded defs visit.ancestors visit.value
  · obtain ⟨v, hv⟩ := finding_of_guarded hf hn hle hbounded h
    simp [hv]
  · obtain ⟨hfailed, hopened⟩ := finding_of_not_guarded hn hle hbounded h
    cases hu : visit.value.unwrapped defs config.maxDepth visit.copy with
    | error r =>
      obtain ⟨failure, hfinding, _⟩ := hfailed r hu
      simp [hfinding]
    | ok c =>
      obtain ⟨copy, hfinding⟩ := hopened c hu
      simp [hfinding]

end Finding

section Limits

variable {a b : Visit} (ht : WellTyped defs root) (hf : Fixed defs root) (hn : nodeCount defs root = n)
  (hle : n ≤ config.maxDepth) {maxDepth : Int} (hle' : n ≤ maxDepth) (depthMarker : Text)

include ht hf hn hle hle'

/-- Visits that open one value agree if the ancestors of its children guard the same. -/
theorem agree_of_opened (ha : Bounded defs root a) (hb : Bounded defs root b) {c : Value} {copy copy' : Nat}
    (hfa : a.finding defs config = .opened c copy)
    (hfb : b.finding defs (config.withLimit maxDepth depthMarker) = .opened c copy')
    (hguards : c.IsNode → ∀ w, Reaches defs root w → (Guarded defs (a.below c) w ↔ Guarded defs (b.below c) w)) :
    Agree defs defs config (config.withLimit maxDepth depthMarker) (Paired defs root) a b := by
  have hc : Reaches defs root c := ha.reached.trans (reaches_of_unwrap (finding_opened hfa).2.2.1)
  obtain ⟨parts, hl⟩ := (ht.below hc).exists_layout config copy
  obtain ⟨parts', hl'⟩ := (ht.below hc).exists_layout (config.withLimit maxDepth depthMarker) copy'
  have hsignature : ∀ v, Reaches defs root v →
      config.signature v = (config.withLimit maxDepth depthMarker).signature v := by
    intro v hv
    have hlimited : (config.withLimit maxDepth depthMarker).signature v = v.fullSignature := hf.signature_eq hn hle' hv
    rw [hf.signature_eq hn hle hv, hlimited]
  have hlook' : layoutWith config ((config.withLimit maxDepth depthMarker).look defs copy') c = .ok parts' := by
    rw [← hl', layout, layoutWith_withLimit]
  have hlike : Value.Like (fun w w' => Paired defs root (a.child c copy w) (b.child c copy' w')) c c :=
    .refl defs fun w hw => ⟨rfl, ha.child hfa hw, hb.child hfb hw, hguards hw.isNode⟩
  refine .opened hfa hfb hl hl' (layoutWith_of_like ⟨?_, ?_, ?_⟩ hlike rfl rfl (hsignature c hc) hl hlook')
  · intro v v' h
    obtain rfl : v = v' := h.value
    exact hsignature v h.left.reached
  · intro v v' h
    obtain rfl : v = v' := h.value
    have hv : Reaches defs root v := h.left.reached
    simp only [Config.look, hf.rowType_eq hn hle hle' depthMarker copy copy' hv]
    rfl
  · intro d d' h
    obtain rfl := Value.node.inj h.value
    rfl

theorem Paired.agree (h : Paired defs root a b) :
    Agree defs defs config (config.withLimit maxDepth depthMarker) (Paired defs root) a b := by
  have hguarded : Guarded defs a.ancestors a.value ↔ Guarded defs b.ancestors b.value :=
    h.value ▸ h.guards a.value h.left.reached
  by_cases hg : Guarded defs a.ancestors a.value
  · obtain ⟨v, hv⟩ := finding_of_guarded hf hn hle h.left hg
    obtain ⟨v', hv'⟩ : ∃ v', b.finding defs (config.withLimit maxDepth depthMarker) = .cycle v' :=
      finding_of_guarded hf hn hle' h.right (hguarded.mp hg)
    exact .cycle hv hv'
  · obtain ⟨hfailed, hopened⟩ := finding_of_not_guarded hn hle h.left hg
    have hg' : ¬ Guarded defs b.ancestors b.value := fun hg' => hg (hguarded.mpr hg')
    have hlimited : n ≤ (config.withLimit maxDepth depthMarker).maxDepth := hle'
    obtain ⟨hfailed', hopened'⟩ := finding_of_not_guarded hn hlimited h.right hg'
    have hunwrapped : a.value.unwrapped defs config.maxDepth a.copy = b.value.unwrapped defs maxDepth b.copy :=
      h.value ▸ hf.unwrapped_eq hn h.left.reached hle hle' a.copy b.copy
    cases hu : a.value.unwrapped defs config.maxDepth a.copy with
    | error r =>
      obtain ⟨failure, hfinding, hr⟩ := hfailed r hu
      obtain ⟨failure', hfinding', hr'⟩ := hfailed' r (hunwrapped ▸ hu)
      exact .failed hfinding hfinding' (hr.trans hr'.symm)
    | ok c =>
      obtain ⟨copy, hfinding⟩ := hopened c hu
      obtain ⟨copy', hfinding'⟩ := hopened' c (hunwrapped ▸ hu)
      refine agree_of_opened ht hf hn hle hle' depthMarker h.left h.right hfinding hfinding' fun _ w hw => ?_
      simp only [below, guarded_append, h.guards w hw, h.value]

end Limits

theorem Bounded.of_makes {visit next : Visit} (h : Bounded defs root visit) (hmakes : Makes defs config visit next) :
    Bounded defs root next := by
  induction hmakes with
  | refl => exact h
  | tail _ hnext ih =>
    obtain ⟨c, copy, parts, v, hfinding, hl, hv, rfl⟩ := mem_nested hnext
    exact ih.child hfinding (edge_of_mem_blocks hl hv)

end Visit

/-- The block of a fixed graph has the same text under all limits from the number of nodes on. No visit is too
deep, no signature is cut short, and nothing that unwraps without a limit fails at the limit. -/
theorem render_text_eq_withLimit {d : Descriptor} (ht : WellTyped defs (.node d)) (hf : Fixed defs (.node d))
    (hn : nodeCount defs (.node d) = n) (hle : n ≤ config.maxDepth) {maxDepth : Int} (hle' : n ≤ maxDepth)
    (depthMarker : Text) :
    (∃ page page' : Page, render defs config 0 (.node d) = page.whole ∧
      render defs (config.withLimit maxDepth depthMarker) 0 (.node d) = page'.whole ∧ page.text = page'.text) ∧
    (∀ visit, Visit.Makes defs config (.top (.node d)) visit →
      visit.depth ≤ n ∧ visit.finding defs config ≠ .tooDeep) ∧
    ∀ v, Reaches defs (.node d) v →
      config.signature v = v.fullSignature ∧
      ∀ copy count c, Unwraps defs copy v count (.ok c) →
        v.unwrap defs config.maxDepth copy = .ok (c, copy + count) := by
  have htop : Visit.Paired defs (.node d) (.top (.node d)) (.top (.node d)) :=
    ⟨rfl, Visit.bounded_top defs .refl, Visit.bounded_top defs .refl, fun _ _ => Iff.rfl⟩
  refine ⟨?_, fun visit hvisit => ?_, fun v hv => ⟨hf.signature_eq hn hle hv, fun copy count c hu => ?_⟩⟩
  · have hagree : ∀ a b, Visit.Paired defs (.node d) a b →
        Visit.Agree defs defs config (config.withLimit maxDepth depthMarker) (Visit.Paired defs (.node d)) a b :=
      fun a b h => h.agree ht hf hn hle hle' depthMarker
    have hrecursion : config.recursionMarker = (config.withLimit maxDepth depthMarker).recursionMarker := rfl
    have hunresolved : config.unresolvedMarker = (config.withLimit maxDepth depthMarker).unresolvedMarker := rfl
    obtain ⟨page, page', hpage, hpage', htext⟩ :=
      Visit.exists_blocks_of_agree hrecursion hunresolved hagree (hagree _ _ htop)
    exact ⟨page, page', render_of_block hpage, render_of_block hpage', htext⟩
  · have hbounded := (Visit.bounded_top defs .refl).of_makes hvisit
    exact ⟨hbounded.depth_le hn, Visit.finding_ne_tooDeep hf hn hle hbounded⟩
  · have := hf.count_le hn hu hv
    exact unwrap_of_unwraps_ok hu (by omega)

theorem render_listRest_eq_withLimit : nodeCount listDefinitions (.node listRest) = (4 : Nat) ∧
    ∃ page page' : Page, render listDefinitions .standard 0 (.node listRest) = page.whole ∧
      render listDefinitions (Config.standard.withLimit 4 "...") 0 (.node listRest) = page'.whole ∧
      page.text = page'.text := by
  have hle : ((4 : Nat) : Int) ≤ Config.standard.maxDepth := by decide
  have htext := (render_text_eq_withLimit wellTyped_listRest fixed_listRest nodeCount_listRest hle le_rfl "...").1
  exact ⟨nodeCount_listRest, htext⟩

/-- What a wrapper guards is guarded by what the wrapper unwraps to. -/
theorem Fixed.guarded_of_wrapper (hf : Fixed defs root) {d x : Descriptor} (hd : Reaches defs root (.node d))
    {copy count : Nat} (h : Unwraps defs copy (.node d) count (.ok (.node x))) {w : Value} (hw : Reaches defs root w)
    (hg : Guarded defs [d.identity] w) : Guarded defs [x.identity] w := by
  have hx : (Value.node x).isAmong [x.identity] = true := by simp [isAmong_node]
  rcases hg with hamong | ⟨copy', count', c, hu, hamong⟩
  · obtain ⟨e, rfl, he⟩ := exists_node_of_isAmong hamong
    obtain rfl := hf.faithful e d hw hd (by simpa using he)
    exact .inr ⟨copy, count, _, h, hx⟩
  · obtain ⟨e, rfl, he⟩ := exists_node_of_isAmong hamong
    obtain rfl := hf.faithful e d (hw.trans hu.reaches) hd (by simpa using he)
    have hself : Unwraps defs copy (.node e) 0 (.ok (.node e)) := .done hu.isModifier_eq_false
    have heq := Except.ok.inj (hself.unique h).2
    exact .inr ⟨copy', count', _, hu, heq ▸ hx⟩

/-- A descriptor of a fixed graph is rendered like what it unwraps to, whatever refers back to either. -/
theorem render_text_eq_unwrapped {d : Descriptor} (ht : WellTyped defs (.node d)) (hf : Fixed defs (.node d))
    (hn : nodeCount defs (.node d) = n) (hle : n ≤ config.maxDepth) {c : Value} {copy next : Nat}
    (hu : (Value.node d).unwrap defs config.maxDepth copy = .ok (c, next)) :
    ∃ page page' : Page, render defs config 0 (.node d) = page.whole ∧ render defs config 0 c = page'.whole ∧
      page.text = page'.text := by
  have hunwrapped : (Value.node d).unwrapped defs config.maxDepth copy = .ok c := by simp [Value.unwrapped, hu]
  obtain ⟨count, hunwraps⟩ := exists_unwraps_of_unwrapped hunwrapped
  have hc : Reaches defs (.node d) c := hunwraps.reaches
  have hself : Unwraps defs 1 c 0 (.ok c) := .done hunwraps.isModifier_eq_false
  have hleft := Visit.bounded_top (v := .node d) defs .refl
  have hright := Visit.bounded_top defs hc
  obtain ⟨copyd, hfd⟩ := (Visit.finding_of_not_guarded hn hle hleft not_guarded_nil).2 c
    (hf.unwrapped_of_unwraps hn hle hunwraps .refl 1)
  obtain ⟨copyc, hfc⟩ := (Visit.finding_of_not_guarded hn hle hright not_guarded_nil).2 c
    (hf.unwrapped_of_unwraps hn hle hself hc 1)
  -- only on one side is the wrapper itself an ancestor
  have hguards : c.IsNode → ∀ w, Reaches defs (.node d) w →
      (Guarded defs ((Visit.top (.node d)).below c) w ↔ Guarded defs ((Visit.top c).below c) w) := by
    rintro ⟨x, rfl⟩ w hw
    have hwrapper := hf.guarded_of_wrapper .refl hunwraps hw
    simp only [Visit.below, guarded_append, Visit.top, Value.identity?, Option.toList_some]
    tauto
  have hagree : Visit.Agree defs defs config config (Visit.Paired defs (.node d)) (.top (.node d)) (.top c) :=
    Visit.agree_of_opened ht hf hn hle hle config.depthMarker hleft hright hfd hfc hguards
  obtain ⟨page, page', hpage, hpage', htext⟩ := Visit.exists_blocks_of_agree rfl rfl
    (fun _ _ h => h.agree ht hf hn hle hle config.depthMarker) hagree
  exact ⟨page, page', render_of_block hpage, render_of_block hpage', htext⟩

theorem render_listRest_eq_linkedList :
    (Value.node listRest).unwrap listDefinitions Config.standard.maxDepth 1 = .ok (.node linkedList, 2) ∧
    ∃ page page' : Page, render listDefinitions .standard 0 (.node listRest) = page.whole ∧
      render listDefinitions .standard 0 (.node linkedList) = page'.whole ∧ page.text = page'.text := by
  have hle : ((4 : Nat) : Int) ≤ Config.standard.maxDepth := by decide
  have hu : (Value.node listRest).unwrap listDefinitions Config.standard.maxDepth 1 = .ok (.node linkedList, 2) := rfl
  exact ⟨hu, render_text_eq_unwrapped wellTyped_listRest fixed_listRest nodeCount_listRest hle hu⟩

end Schematic
