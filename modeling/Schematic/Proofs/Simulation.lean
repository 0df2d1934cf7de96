import Schematic.Proofs.Visit

namespace Schematic

def textOf : Rendering → Text
  | .ok page => page.text
  | .error _ => []

namespace Visit

/-- Two visits find the same, and the visits that they make are related one by one. -/
inductive Agree (defs defs' : Definitions) (config config' : Config) (S : Visit → Visit → Prop) (a b : Visit) : Prop
  | cycle {v v' : Value} (left : a.finding defs config = .cycle v) (right : b.finding defs' config' = .cycle v')
  | failed {failure failure' : ResolutionFailure} (left : a.finding defs config = .failed failure)
      (right : b.finding defs' config' = .failed failure') (same : failure.mark = failure'.mark)
  | opened {c c' : Value} {copy copy' : Nat} {parts parts' : List Part} (left : a.finding defs config = .opened c copy)
      (right : b.finding defs' config' = .opened c' copy') (layout : layout defs config copy c = .ok parts)
      (layout' : Schematic.layout defs' config' copy' c' = .ok parts')
      (children : List.Forall₂ (Part.Like fun w w' => S (a.child c copy w) (b.child c' copy' w')) parts parts')

variable {defs defs' : Definitions} {config config' : Config}

theorem exists_of_mem_blocks {R : Value → Value → Prop} {parts parts' : List Part}
    (h : List.Forall₂ (Part.Like R) parts parts') :
    (∀ v ∈ blocks parts, ∃ v', R v v') ∧ ∀ v' ∈ blocks parts', ∃ v, R v v' := by
  induction h with
  | nil => simp
  | cons hp _ ih =>
    cases hp with
    | text t => exact ih
    | @block w w' hw =>
      simp only [blocks_block, List.forall_mem_cons]
      exact ⟨⟨⟨w', hw⟩, ih.1⟩, ⟨w, hw⟩, ih.2⟩

/-- The text of an opened visit, when the visits that it makes have blocks. -/
theorem block_of_opened {visit : Visit} {c : Value} {copy : Nat} {parts : List Part}
    (hf : visit.finding defs config = .opened c copy) (hl : layout defs config copy c = .ok parts)
    (h : ∀ v ∈ blocks parts, ∃ page, (visit.child c copy v).block defs config = .ok page) :
    ∃ page, visit.block defs config = .ok page ∧
      page.text = parts.flatMap (Part.textWith fun v => textOf ((visit.child c copy v).block defs config)) := by
  obtain ⟨page, hpage, htext⟩ := renderParts_text fun v hv => by
    obtain ⟨page, hpage⟩ := h v hv
    exact ⟨page, hpage, congrArg textOf hpage.symm⟩
  rw [block_eq]
  simp only [blockWith, hf, blockWith_eq, hl, Except.bind, hpage, Except.map]
  exact ⟨_, rfl, htext⟩

theorem text_cycleBlock (config : Config) (v : Value) : (cycleBlock config v).text = config.recursionMarker := rfl

theorem text_failureBlock (config : Config) (failure : ResolutionFailure) :
    (failureBlock config failure).text = config.marker failure.mark := by
  cases failure <;> rfl

theorem marker_congr (hrecursion : config.recursionMarker = config'.recursionMarker)
    (hunresolved : config.unresolvedMarker = config'.unresolvedMarker) (mark : Mark) :
    config.marker mark = config'.marker mark := by
  cases mark with
  | recursion => exact hrecursion
  | unresolved => exact hunresolved
  | gap => rfl

/-- If related visits agree, then visits that agree have blocks with the same text. -/
theorem exists_blocks_of_agree {S : Visit → Visit → Prop} (hrecursion : config.recursionMarker = config'.recursionMarker)
    (hunresolved : config.unresolvedMarker = config'.unresolvedMarker)
    (hS : ∀ a b, S a b → Agree defs defs' config config' S a b) {a b : Visit}
    (hab : Agree defs defs' config config' S a b) :
    ∃ page page', a.block defs config = .ok page ∧ b.block defs' config' = .ok page' ∧ page.text = page'.text := by
  induction hlevels : (config.maxDepth + 1 - a.depth).toNat using Nat.strong_induction_on generalizing a b with
  | _ levels ih =>
    cases hab with
    | cycle left right =>
      refine ⟨_, _, by rw [block_eq, blockWith, left], by rw [block_eq, blockWith, right], ?_⟩
      rw [text_cycleBlock, text_cycleBlock, hrecursion]
    | failed left right same =>
      refine ⟨_, _, by rw [block_eq, blockWith, left], by rw [block_eq, blockWith, right], ?_⟩
      rw [text_failureBlock, text_failureBlock, same, marker_congr hrecursion hunresolved]
    | @opened c c' copy copy' parts parts' left right hl hl' children =>
      have hchild : ∀ w w', S (a.child c copy w) (b.child c' copy' w') →
          ∃ page page', (a.child c copy w).block defs config = .ok page ∧
            (b.child c' copy' w').block defs' config' = .ok page' ∧ page.text = page'.text := by
        intro w w' hw
        refine ih _ ?_ (hS _ _ hw) rfl
        have hdepth := (finding_opened left).2.1
        have : (a.child c copy w).depth = a.depth + 1 := rfl
        omega
      obtain ⟨page, hpage, htext⟩ := block_of_opened left hl fun v hv => by
        obtain ⟨v', hv'⟩ := (exists_of_mem_blocks children).1 v hv
        obtain ⟨page, _, hpage, _⟩ := hchild v v' hv'
        exact ⟨page, hpage⟩
      obtain ⟨page', hpage', htext'⟩ := block_of_opened right hl' fun v' hv' => by
        obtain ⟨v, hv⟩ := (exists_of_mem_blocks children).2 v' hv'
        obtain ⟨_, page', _, hpage', _⟩ := hchild v v' hv
        exact ⟨page', hpage'⟩
      refine ⟨page, page', hpage, hpage', ?_⟩
      rw [htext, htext']
      refine flatMap_textWith_of_like children fun v v' _ _ hv => ?_
      obtain ⟨p, p', hp, hp', htexts⟩ := hchild v v' hv
      rw [hp, hp', textOf, textOf, htexts]

end Visit
end Schematic
