import Schematic.Proofs.Layout

namespace Schematic

theorem isAmong_append (l l' : List Identity) (v : Value) : v.isAmong (l ++ l') = (v.isAmong l || v.isAmong l') := by
  unfold Value.isAmong
  cases v.identity? with
  | none => rfl
  | some i => simp

theorem isAmong_node (l : List Identity) (d : Descriptor) : (Value.node d).isAmong l = true ↔ d.identity ∈ l := by
  simp [Value.isAmong, Value.identity?]

theorem exists_node_of_isAmong {l : List Identity} {v : Value} (h : v.isAmong l = true) :
    ∃ d, v = .node d ∧ d.identity ∈ l := by
  cases v with
  | node d => exact ⟨d, rfl, (isAmong_node l d).mp h⟩
  | _ => simp [Value.isAmong, Value.identity?] at h

theorem mem_identity? {i : Identity} {v : Value} : i ∈ v.identity?.toList ↔ ∃ d, v = .node d ∧ d.identity = i := by
  cases v <;> simp [Value.identity?, eq_comm]

/-- A value to be rendered: at a depth, below some nodes, with new buildings numbered from `copy` on. -/
structure Visit where
  depth : Int
  ancestors : List Identity
  copy : Nat
  value : Value

/-- What a visit comes to before any child is visited. -/
inductive Finding where
  /-- The value or what is under its modifiers is being rendered already. -/
  | cycle (v : Value)
  | tooDeep
  | failed (failure : ResolutionFailure)
  | opened (canonical : Value) (copy : Nat)

namespace Visit

/-- The visit with which the rendering of a value starts. -/
def top (v : Value) : Visit := ⟨0, [], 1, v⟩

section

variable (defs : Definitions) (config : Config)

def finding (visit : Visit) : Finding :=
  if visit.value.isAmong visit.ancestors then .cycle visit.value
  else if config.maxDepth < visit.depth then .tooDeep
  else match visit.value.unwrap defs config.maxDepth visit.copy with
    | .error failure => .failed failure
    | .ok (canonical, copy) => if canonical.isAmong visit.ancestors then .cycle canonical else .opened canonical copy

/-- The ancestors of the children of the unwrapped value. -/
def below (visit : Visit) (canonical : Value) : List Identity :=
  canonical.identity?.toList ++ visit.value.identity?.toList ++ visit.ancestors

def child (visit : Visit) (canonical : Value) (copy : Nat) (v : Value) : Visit :=
  ⟨visit.depth + 1, visit.below canonical, copy, v⟩

def nested (visit : Visit) : List Visit :=
  match visit.finding defs config with
  | .opened canonical copy =>
    match layout defs config copy canonical with
    | .ok parts => (blocks parts).map (visit.child canonical copy)
    | .error _ => []
  | _ => []

/-- The block of a visit, when the visits that it makes have the blocks `block`. -/
def blockWith (block : Visit → Rendering) (visit : Visit) : Rendering :=
  match visit.finding defs config with
  | .cycle v => .ok (cycleBlock config v)
  | .tooDeep => .ok (depthBlock config)
  | .failed failure => .ok (failureBlock config failure)
  | .opened canonical copy =>
    let opening := Page.log .debug
      ("Rendering " ++ canonical.fallbackName ++ " descriptor at depth " ++ Text.ofInt visit.depth)
    (Schematic.blockWith defs config copy (fun v => block (visit.child canonical copy v)) canonical).map (opening ++ ·)

def block (visit : Visit) : Rendering :=
  renderIn defs config (Value.levels config.maxDepth visit.depth) visit.depth visit.ancestors visit.copy visit.value

/-- The visits that a visit makes, directly or through others, and the visit itself. -/
abbrev Makes : Visit → Visit → Prop := Relation.ReflTransGen fun visit next => next ∈ visit.nested defs config

/-- Rendering visit by visit, for as long as it takes, ends with a block. -/
inductive Renders : Visit → Rendering → Prop
  | visit (visit : Visit) (block : Visit → Rendering)
      (children : ∀ next ∈ visit.nested defs config, Renders next (block next)) :
      Renders visit (visit.blockWith defs config block)

end

variable {defs : Definitions} {config : Config}

theorem finding_opened {visit : Visit} {canonical : Value} {copy : Nat}
    (h : visit.finding defs config = .opened canonical copy) :
    visit.value.isAmong visit.ancestors = false ∧ visit.depth ≤ config.maxDepth ∧
      visit.value.unwrap defs config.maxDepth visit.copy = .ok (canonical, copy) ∧
      canonical.isAmong visit.ancestors = false := by
  unfold finding at h
  split_ifs at h with hv hdeep
  cases hu : visit.value.unwrap defs config.maxDepth visit.copy with
  | error failure => simp [hu] at h
  | ok c =>
    simp only [hu] at h
    split_ifs at h with hc
    injection h with hcanonical hcopy
    subst hcanonical hcopy
    exact ⟨by simpa using hv, by omega, rfl, by simpa using hc⟩

theorem finding_of_isAmong {visit : Visit} (h : visit.value.isAmong visit.ancestors = true) :
    visit.finding defs config = .cycle visit.value := by
  simp [finding, h]

/-- A descriptor that is no modifier is opened as it is, below no other node. -/
theorem finding_plain {d : Descriptor} (hplain : (Value.node d).isModifier = false) {depth : Int}
    (hdepth : depth ≤ config.maxDepth) :
    finding defs config ⟨depth, [], 1, .node d⟩ = .opened (.node d) 1 := by
  have hdeep : ¬ config.maxDepth < depth := by omega
  simp [finding, unwrap_plain hplain, Value.isAmong, Value.identity?, hdeep]

section Unwrapped

variable {visit : Visit} (hraw : visit.value.isAmong visit.ancestors = false) (hdepth : visit.depth ≤ config.maxDepth)

include hraw hdepth

theorem finding_of_error {mark : Mark} (h : visit.value.unwrapped defs config.maxDepth visit.copy = .error mark) :
    ∃ failure, visit.finding defs config = .failed failure ∧ failure.mark = mark := by
  have hdeep : ¬ config.maxDepth < visit.depth := by omega
  unfold Value.unwrapped at h
  cases hu : visit.value.unwrap defs config.maxDepth visit.copy with
  | error failure =>
    rw [hu] at h
    exact ⟨failure, by simp [finding, hraw, hdeep, hu], Except.error.inj h⟩
  | ok c => simp [hu] at h

theorem finding_of_ok {c : Value} (h : visit.value.unwrapped defs config.maxDepth visit.copy = .ok c) :
    ∃ copy, visit.finding defs config =
      if c.isAmong visit.ancestors then .cycle c else .opened c copy := by
  have hdeep : ¬ config.maxDepth < visit.depth := by omega
  unfold Value.unwrapped at h
  cases hu : visit.value.unwrap defs config.maxDepth visit.copy with
  | error failure => simp [hu] at h
  | ok p =>
    obtain ⟨c', copy⟩ := p
    rw [hu] at h
    obtain rfl := Except.ok.inj h
    exact ⟨copy, by simp [finding, hraw, hdeep, hu]⟩

end Unwrapped

theorem mem_nested {visit next : Visit} (h : next ∈ visit.nested defs config) :
    ∃ canonical copy parts v, visit.finding defs config = .opened canonical copy ∧
      layout defs config copy canonical = .ok parts ∧ v ∈ blocks parts ∧ visit.child canonical copy v = next := by
  unfold nested at h
  cases hf : visit.finding defs config with
  | opened canonical copy =>
    cases hl : layout defs config copy canonical with
    | error e => simp [hf, hl] at h
    | ok parts =>
      simp only [hf, hl] at h
      obtain ⟨v, hv, hnext⟩ := List.mem_map.mp h
      exact ⟨canonical, copy, parts, v, rfl, hl, hv, hnext⟩
  | _ => simp [hf] at h

theorem depth_of_mem_nested {visit next : Visit} (h : next ∈ visit.nested defs config) :
    visit.depth ≤ config.maxDepth ∧ next.depth = visit.depth + 1 := by
  obtain ⟨canonical, copy, parts, v, hf, _, _, rfl⟩ := mem_nested h
  exact ⟨(finding_opened hf).2.1, rfl⟩

theorem reaches_of_mem_nested {visit next : Visit} (h : next ∈ visit.nested defs config) :
    Reaches defs visit.value next.value := by
  obtain ⟨canonical, copy, parts, v, hf, hl, hv, rfl⟩ := mem_nested h
  have hcanonical : Reaches defs visit.value canonical := reaches_of_unwrap (finding_opened hf).2.2.1
  exact hcanonical.tail (edge_of_mem_blocks hl hv)

/-- The block of a visit depends on those of the visits that it makes. -/
theorem blockWith_congr {visit : Visit} {block block' : Visit → Rendering}
    (h : ∀ next ∈ visit.nested defs config, block next = block' next) :
    visit.blockWith defs config block = visit.blockWith defs config block' := by
  unfold blockWith
  cases hf : visit.finding defs config with
  | opened canonical copy =>
    cases hl : layout defs config copy canonical with
    | error e => simp only [blockWith_eq, hl, Except.bind]
    | ok parts =>
      have hparts : ∀ v ∈ blocks parts, block (visit.child canonical copy v) = block' (visit.child canonical copy v) := by
        intro v hv
        apply h
        simp only [nested, hf, hl]
        exact List.mem_map_of_mem hv
      simp only [blockWith_eq, hl, Except.bind, renderParts_congr hparts]
  | _ => rfl

/-- A visit of a value with a layout has a block if the visits that it makes have. -/
theorem exists_blockWith {visit : Visit} {block : Visit → Rendering}
    (hlayout : ∀ canonical copy, visit.finding defs config = .opened canonical copy →
      ∃ parts, layout defs config copy canonical = .ok parts)
    (h : ∀ next ∈ visit.nested defs config, ∃ page, block next = .ok page) :
    ∃ page, visit.blockWith defs config block = .ok page := by
  unfold blockWith
  cases hf : visit.finding defs config with
  | opened canonical copy =>
    obtain ⟨parts, hl⟩ := hlayout canonical copy hf
    have hparts : ∀ v ∈ blocks parts, ∃ page, block (visit.child canonical copy v) = .ok page := by
      intro v hv
      apply h
      simp only [nested, hf, hl]
      exact List.mem_map_of_mem hv
    choose! page hpage using hparts
    obtain ⟨whole, hwhole, _⟩ := renderParts_text fun v hv => ⟨page v, hpage v hv, rfl⟩
    simp only [blockWith_eq, hl, Except.bind, hwhole, Except.map]
    exact ⟨_, rfl⟩
  | _ => exact ⟨_, rfl⟩

/-- The block of a visit in terms of those of the visits that it makes. -/
theorem block_eq (visit : Visit) : visit.block defs config = visit.blockWith defs config (block defs config) := by
  obtain ⟨depth, ancestors, copy, v⟩ := visit
  unfold blockWith finding
  simp only [block]
  by_cases hdeep : config.maxDepth < depth
  · have hlevels : Value.levels config.maxDepth depth = 0 := by
      unfold Value.levels
      omega
    rw [hlevels, renderIn]
    split_ifs <;> rfl
  · obtain ⟨levels, hlevels⟩ : ∃ levels, Value.levels config.maxDepth depth = levels + 1 :=
      ⟨(config.maxDepth - depth).toNat, by unfold Value.levels; omega⟩
    have hnext : Value.levels config.maxDepth (depth + 1) = levels := by
      unfold Value.levels at hlevels ⊢
      omega
    rw [hlevels, renderIn]
    split_ifs with hv
    · rfl
    · cases v.unwrap defs config.maxDepth copy with
      | error failure => rfl
      | ok c =>
        simp only []
        split_ifs with hc
        · rfl
        · simp only [child, below, hnext]

/-- Rendering ends for every visit, since the limit bounds how deep it goes. -/
theorem renders_block (defs : Definitions) (config : Config) (visit : Visit) :
    Renders defs config visit (visit.block defs config) := by
  obtain ⟨levels, hlevels⟩ : ∃ levels : Nat, (config.maxDepth + 1 - visit.depth).toNat ≤ levels := ⟨_, le_rfl⟩
  induction levels generalizing visit with
  | zero =>
    rw [block_eq]
    refine .visit visit _ fun next hnext => ?_
    have := (depth_of_mem_nested hnext).1
    omega
  | succ levels ih =>
    rw [block_eq]
    refine .visit visit _ fun next hnext => ih next ?_
    have := depth_of_mem_nested hnext
    omega

theorem Renders.unique {visit : Visit} {r r' : Rendering} (h : Renders defs config visit r)
    (h' : Renders defs config visit r') : r = r' := by
  induction h generalizing r' with
  | visit visit block _ ih =>
    cases h' with
    | visit _ block' children' =>
      exact blockWith_congr fun next hnext => ih next hnext (children' next hnext)

theorem renders_iff {visit : Visit} {r : Rendering} : Renders defs config visit r ↔ visit.block defs config = r :=
  ⟨fun h => (renders_block defs config visit).unique h, fun h => h ▸ renders_block defs config visit⟩

theorem reaches_of_makes {visit next : Visit} (h : Makes defs config visit next) :
    Reaches defs visit.value next.value := by
  induction h with
  | refl => exact .refl
  | tail _ hnext ih => exact ih.trans (reaches_of_mem_nested hnext)

/-- No visit is deeper than one level below the limit, unless rendering starts there. -/
theorem depth_le_of_makes {visit next : Visit} (h : Makes defs config visit next) :
    next.depth ≤ max visit.depth (config.maxDepth + 1) := by
  induction h with
  | refl => exact le_max_left _ _
  | tail _ hnext _ =>
    have := depth_of_mem_nested hnext
    omega

theorem exists_block_of_wellTyped (config : Config) (visit : Visit) (h : WellTyped defs visit.value) :
    ∃ page, visit.block defs config = .ok page := by
  have hrenders := renders_block defs config visit
  generalize visit.block defs config = r at hrenders
  induction hrenders with
  | visit visit block _ ih =>
    refine exists_blockWith (fun canonical copy hf => ?_) fun next hnext => ?_
    · exact (h.below (reaches_of_unwrap (finding_opened hf).2.2.1)).exists_layout config copy
    · exact ih next hnext (h.below (reaches_of_mem_nested hnext))

end Visit

theorem render_of_block {defs : Definitions} {config : Config} {v : Value} {page : Page}
    (h : (Visit.top v).block defs config = .ok page) : render defs config 0 v = page.whole := by
  change ((Visit.top v).block defs config).bind Page.whole = page.whole
  rw [h]
  rfl

theorem render_of_blockWith {defs : Definitions} {config : Config} {d : Descriptor}
    (hplain : (Value.node d).isModifier = false) {t : Text}
    (hblock : ∀ child, blockWith defs config 1 child (.node d) = .ok (.ofText t)) {depth : Int}
    (hdepth : depth ≤ config.maxDepth) :
    ∃ page : Page, render defs config depth (.node d) = page.whole ∧ page.text = t := by
  have hfinding : Visit.finding defs config ⟨depth, [], 1, .node d⟩ = .opened (.node d) 1 :=
    Visit.finding_plain hplain hdepth
  obtain ⟨page, hpage, htext⟩ : ∃ page : Page, Visit.block defs config ⟨depth, [], 1, .node d⟩ = .ok page ∧
      page.text = t := by
    rw [Visit.block_eq, Visit.blockWith, hfinding]
    simp only [hblock]
    exact ⟨_, rfl, rfl⟩
  refine ⟨page, ?_, htext⟩
  change (Visit.block defs config ⟨depth, [], 1, .node d⟩).bind Page.whole = page.whole
  rw [hpage]
  rfl

end Schematic
