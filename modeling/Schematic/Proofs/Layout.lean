import Schematic.Markdown.Renderer
import Schematic.Proofs.Likeness
import Schematic.Proofs.Outcomes
import Schematic.Proofs.Unwrapping

/-! A block is a list of parts, texts of its own and blocks of children. The layout fixes the parts before any
child is rendered, from what is shown of children beside their blocks: signatures and the cells of a table. So
what a rendering does with children is said once for all kinds. -/
namespace Schematic

theorem Page.append_empty (p : Page) : p ++ Page.empty = p := by
  obtain ⟨t, records⟩ := p
  change Page.mk (t ++ []) (records ++ []) = _
  simp

theorem Page.append_assoc (p q r : Page) : p ++ q ++ r = p ++ (q ++ r) := by
  change Page.mk (p.text ++ q.text ++ r.text) (p.records ++ q.records ++ r.records) =
    Page.mk (p.text ++ (q.text ++ r.text)) (p.records ++ (q.records ++ r.records))
  simp

theorem Page.whole_eq_ok {page : Page} (ht : page.text.hasGap = false) : page.whole = .ok page := by
  have hnone : page.text.obstacle? = none := by simpa [Text.hasGap] using ht
  rw [Page.whole, hnone]

/-- A part of a block: a text, or the block of a child. -/
inductive Part where
  | text (t : Text)
  | block (v : Value)

namespace Part

def block? : Part → Option Value
  | text _ => none
  | block v => some v

/-- The text of a part when the block of a child has the text `child`. -/
def textWith (child : Value → Text) : Part → Text
  | text t => t
  | block v => child v

end Part

def blocks (parts : List Part) : List Value := parts.filterMap Part.block?

@[simp] theorem blocks_nil : blocks [] = [] := rfl

@[simp] theorem blocks_text (t : Text) (parts : List Part) : blocks (.text t :: parts) = blocks parts := rfl

@[simp] theorem blocks_block (v : Value) (parts : List Part) : blocks (.block v :: parts) = v :: blocks parts := rfl

@[simp] theorem blocks_append (parts parts' : List Part) : blocks (parts ++ parts') = blocks parts ++ blocks parts' :=
  List.filterMap_append

/-- The parts one after another, when `child` renders the children. -/
def renderParts (child : Value → Rendering) : List Part → Rendering
  | [] => .ok .empty
  | .text t :: rest => (renderParts child rest).map (Page.ofText t ++ ·)
  | .block v :: rest => do
    let block ← child v
    let more ← renderParts child rest
    return block ++ more

section RenderParts

variable {child child' : Value → Rendering}

theorem renderParts_append (parts parts' : List Part) :
    renderParts child (parts ++ parts') = do
      let page ← renderParts child parts
      let page' ← renderParts child parts'
      return page ++ page' := by
  induction parts with
  | nil =>
    simp only [List.nil_append, renderParts]
    cases renderParts child parts' <;> rfl
  | cons part rest ih =>
    cases part with
    | text t =>
      simp only [List.cons_append, renderParts, ih]
      cases renderParts child rest with
      | error => rfl
      | ok page =>
        cases renderParts child parts' <;>
          simp [Except.map, bind, Except.bind, pure, Except.pure, Page.append_assoc]
    | block v =>
      simp only [List.cons_append, renderParts, ih]
      cases child v with
      | error => rfl
      | ok block =>
        cases renderParts child rest with
        | error => rfl
        | ok page => cases renderParts child parts' <;> simp [bind, Except.bind, pure, Except.pure, Page.append_assoc]

theorem renderParts_congr {parts : List Part} (h : ∀ v ∈ blocks parts, child v = child' v) :
    renderParts child parts = renderParts child' parts := by
  induction parts with
  | nil => rfl
  | cons part rest ih =>
    cases part with
    | text t => simp only [renderParts, ih h]
    | block v =>
      have hrest : ∀ w ∈ blocks rest, child w = child' w := fun w hw => h w (List.mem_cons_of_mem _ hw)
      simp only [renderParts, h v List.mem_cons_self, ih hrest]

/-- If every child has a block, so have the parts together, and its text is settled by the texts of the children. -/
theorem renderParts_text {parts : List Part} {text : Value → Text}
    (h : ∀ v ∈ blocks parts, ∃ page, child v = .ok page ∧ page.text = text v) :
    ∃ page, renderParts child parts = .ok page ∧ page.text = parts.flatMap (Part.textWith text) := by
  induction parts with
  | nil => exact ⟨_, rfl, rfl⟩
  | cons part rest ih =>
    cases part with
    | text t =>
      obtain ⟨page, hpage, htext⟩ := ih h
      exact ⟨Page.ofText t ++ page, by simp [renderParts, hpage, Except.map], by simp [Part.textWith, htext]⟩
    | block v =>
      obtain ⟨block, hblock, hbtext⟩ := h v List.mem_cons_self
      obtain ⟨page, hpage, htext⟩ := ih fun w hw => h w (List.mem_cons_of_mem _ hw)
      exact ⟨block ++ page, by simp [renderParts, hblock, hpage, bind, Except.bind, pure, Except.pure],
        by simp [Part.textWith, hbtext, htext]⟩

end RenderParts

/-- What is shown of a value beside its block: its signature, and the cells after the key in a row of a table. -/
structure Look where
  signature : Value → Text
  cells : Value → List Value

def cellsOf (defs : Definitions) (config : Config) (type : Text) (property : Value) : List Value :=
  [.text type,
   .text (if property.mayBeLeftOut defs then config.requiredNo else config.requiredYes),
   (match property.descriptionOrNull with
    | .null => .text []
    | d => d),
   .text (property.summary defs).default.token]

def Config.look (defs : Definitions) (config : Config) (copy : Nat) : Look where
  signature := config.signature
  cells property := cellsOf defs config (rowType defs config copy property) property

def sectionParts (label : Text) (d : Descriptor) : List Part :=
  if d.isComplex then [.text ("\n\n" ++ label ++ "\n\n"), .block (.node d)] else []

def numberedParts (config : Config) (look : Look) (label : Text) : (number : Nat) → List Descriptor → List Part
  | _, [] => []
  | number, d :: ds =>
    .text (config.subsection (label ++ " " ++ Text.ofNat number ++ ": " ++ look.signature (.node d))) ::
      .block (.node d) :: .text "\n\n" :: numberedParts config look label (number + 1) ds

def restParts (config : Config) (look : Look) (rest : Value) : List Part :=
  match rest with
  | .null => []
  | r => [.text (config.subsection ("Rest: " ++ look.signature r)), .block r]

def objectLead (description : Value) : Text :=
  match description with
  | .null => []
  | d => d.shown ++ "\n\n"

def tableRow (config : Config) (look : Look) (entry : Value × Value) : Except Raised Text :=
  ((entry.1 :: look.cells entry.2).zipIdx.mapM fun (cell, i) => cellText config i cell).map Table.row

/-- The parts of the block of an unwrapped value. Only a row of a table can fail. -/
def layoutWith (config : Config) (look : Look) (canonical : Value) : Except Raised (List Part) :=
  let description := canonical.descriptionOrNull
  match canonical with
  | .node (.mk _ _ (.object properties)) =>
    (properties.mapM (tableRow config look)).map fun (rows : List Text) =>
      [.text (objectLead description ++ Table.header config.tableColumns ++ rows.flatten)]
  | .node (.mk _ _ (.array element low high exact)) =>
    let lead := withDescription ("Array of " ++ look.signature (.node element)) description
    .ok (.text (lead ++ constraintList config (arrayLines low high exact)) :: sectionParts config.itemSchemaLabel element)
  | .node (.mk _ _ (.enum options)) =>
    .ok [.text (withDescription "Enum with values:" description ++ "\n\n" ++ options.flatMap codeBullet)]
  | .node (.mk _ _ (.union options)) =>
    .ok (.text (withDescription "Union of:" description ++ "\n\n") :: numberedParts config look "Option" 1 options)
  | .node (.mk _ _ (.intersection left right)) =>
    .ok [.text (withDescription "Intersection of:" description ++ "\n\n" ++ config.subsection "First part:"),
      .block (.node left), .text ("\n\n" ++ config.subsection "Second part:"), .block (.node right)]
  | .node (.mk _ _ (.record key value)) =>
    let lead := "Record with keys of type " ++ look.signature (.node key) ++ " and values of type " ++
      look.signature (.node value)
    .ok (.text (withDescription lead description) :: sectionParts config.valueSchemaLabel value)
  | .node (.mk _ _ (.tuple items rest)) =>
    .ok (.text (withDescription "Tuple with elements:" description ++ "\n\n") ::
      (numberedParts config look "Element" 1 items ++ restParts config look rest))
  | .node (.mk _ _ (.literal v)) => .ok [.text (withDescription ("Literal: " ++ v.token) description)]
  | v => .ok [.text (v.oneLine (look.signature v))]

abbrev layout (defs : Definitions) (config : Config) (copy : Nat) : Value → Except Raised (List Part) :=
  layoutWith config (config.look defs copy)

section Blocks

variable {child : Value → Rendering}

theorem renderParts_section (label : Text) (d : Descriptor) :
    renderParts child (sectionParts label d) = childSection label child d := by
  unfold sectionParts childSection
  split_ifs
  · simp only [renderParts]
    cases child (.node d) <;> simp [Except.map, bind, Except.bind, pure, Except.pure, Page.append_empty]
  · rfl

theorem renderParts_numbered (defs : Definitions) (config : Config) (copy : Nat) (label : Text) (number : Nat)
    (ds : List Descriptor) :
    renderParts child (numberedParts config (config.look defs copy) label number ds) =
      numberedBlocks config label child number ds := by
  induction ds generalizing number with
  | nil => rfl
  | cons d ds ih =>
    simp only [numberedParts, renderParts, numberedBlocks, ih]
    cases child (.node d) with
    | error => rfl
    | ok block =>
      cases numberedBlocks config label child (number + 1) ds <;>
        simp [Except.map, bind, Except.bind, pure, Except.pure, Page.append_assoc, Config.look]

theorem renderParts_rest (defs : Definitions) (config : Config) (copy : Nat) (rest : Value) :
    renderParts child (restParts config (config.look defs copy) rest) = restBlock config child rest := by
  cases rest <;> simp only [restParts, renderParts, restBlock] <;>
    cases child _ <;> simp [Except.map, bind, Except.bind, pure, Except.pure, Page.append_empty, Config.look]

theorem renderParts_single (t : Text) : renderParts child [.text t] = .ok (Page.ofText t) := by
  simp [renderParts, Except.map, Page.append_empty]

/-- The block of an unwrapped value is its layout with the children rendered. -/
theorem blockWith_eq (defs : Definitions) (config : Config) (copy : Nat) (child : Value → Rendering) (canonical : Value) :
    blockWith defs config copy child canonical = (layout defs config copy canonical).bind (renderParts child) := by
  cases canonical with
  | node d =>
    obtain ⟨i, description, body⟩ := d
    cases body with
    | array element low high exact =>
      simp only [blockWith, layoutWith, Descriptor.body, Except.bind, renderParts, renderParts_section]
      cases childSection config.itemSchemaLabel child element <;> rfl
    | object properties =>
      have hrows : (properties.mapM fun entry => propertyRow defs config copy entry.1 entry.2) =
          properties.mapM (tableRow config (config.look defs copy)) := rfl
      simp only [blockWith, layoutWith, Descriptor.body, objectBlock, hrows]
      cases properties.mapM (tableRow config (config.look defs copy)) with
      | error => rfl
      | ok rows => exact (renderParts_single _).symm
    | union options => simp only [blockWith, layoutWith, Descriptor.body, Except.bind, renderParts, renderParts_numbered]
    | intersection left right =>
      simp only [blockWith, layoutWith, Descriptor.body, Except.bind, renderParts]
      cases child (.node left) with
      | error => rfl
      | ok first =>
        cases child (.node right) <;>
          simp [Except.map, bind, Except.bind, pure, Except.pure, Page.append_assoc, Page.append_empty]
    | record key value =>
      simp only [blockWith, layoutWith, Descriptor.body, Except.bind, renderParts, renderParts_section]
      cases childSection config.valueSchemaLabel child value <;> rfl
    | tuple items rest =>
      simp only [blockWith, layoutWith, Descriptor.body, Except.bind, renderParts, renderParts_append, renderParts_numbered,
        renderParts_rest]
      cases numberedBlocks config "Element" child 1 items with
      | error => rfl
      | ok blocks =>
        cases restBlock config child rest <;>
          simp [Except.map, bind, Except.bind, pure, Except.pure, Page.append_assoc]
    | enum | literal => simp only [blockWith, layoutWith, Descriptor.body, Except.bind, renderParts_single]
    | _ =>
      simp only [blockWith, layoutWith, Descriptor.body, Except.bind, renderParts_single]
      rfl
  | _ =>
    simp only [blockWith, layoutWith, Except.bind, renderParts_single]
    rfl

end Blocks

theorem mem_blocks_section {label : Text} {d : Descriptor} {v : Value} (h : v ∈ blocks (sectionParts label d)) :
    v = .node d := by
  unfold sectionParts at h
  split_ifs at h <;> simp at h
  exact h

theorem mem_blocks_numbered {config : Config} {look : Look} {label : Text} {number : Nat} {ds : List Descriptor}
    {v : Value} (h : v ∈ blocks (numberedParts config look label number ds)) : ∃ d ∈ ds, Value.node d = v := by
  induction ds generalizing number with
  | nil => simp [numberedParts] at h
  | cons d ds ih =>
    simp only [numberedParts, blocks_text, blocks_block, List.mem_cons] at h
    rcases h with rfl | h
    · exact ⟨d, List.mem_cons_self, rfl⟩
    · obtain ⟨e, he, rfl⟩ := ih h
      exact ⟨e, List.mem_cons_of_mem _ he, rfl⟩

theorem mem_blocks_rest {config : Config} {look : Look} {rest v : Value} (h : v ∈ blocks (restParts config look rest)) :
    v = rest ∧ rest ≠ .null := by
  unfold restParts at h
  split at h
  · simp at h
  · rename_i hrest
    exact ⟨by simpa using h, hrest⟩

/-- A child whose block is part of a block stands in a field. -/
theorem edge_of_mem_blocks {defs : Definitions} {config : Config} {look : Look} {canonical v : Value} {parts : List Part}
    (hl : layoutWith config look canonical = .ok parts) (hv : v ∈ blocks parts) : Edge defs canonical v := by
  cases canonical with
  | node d =>
    obtain ⟨i, description, body⟩ := d
    refine .field ?_
    cases body with
    | object properties =>
      simp only [layoutWith] at hl
      cases hrows : properties.mapM (tableRow config look) with
      | error e => simp [hrows, Except.map] at hl
      | ok rows =>
        rw [hrows] at hl
        obtain rfl := Except.ok.inj hl
        simp at hv
    | array element low high exact =>
      obtain rfl := Except.ok.inj hl
      obtain rfl := mem_blocks_section hv
      exact List.mem_singleton_self _
    | union options =>
      obtain rfl := Except.ok.inj hl
      exact List.mem_map.mpr (mem_blocks_numbered hv)
    | intersection left right =>
      obtain rfl := Except.ok.inj hl
      simpa [Descriptor.body, Body.children] using hv
    | record key value =>
      obtain rfl := Except.ok.inj hl
      obtain rfl := mem_blocks_section hv
      exact List.mem_pair.mpr (.inr rfl)
    | tuple items rest =>
      obtain rfl := Except.ok.inj hl
      simp only [blocks_text, blocks_append, List.mem_append] at hv
      exact Body.mem_children_tuple.mpr (hv.imp mem_blocks_numbered mem_blocks_rest)
    | _ =>
      obtain rfl := Except.ok.inj hl
      simp at hv
  | _ =>
    obtain rfl := Except.ok.inj hl
    simp at hv

theorem exists_tableRow {config : Config} {look : Look} {entry : Value × Value}
    (h : ∀ cell ∈ entry.1 :: look.cells entry.2, cell.IsText) : ∃ row, tableRow config look entry = .ok row := by
  have hcell : ∀ p ∈ (entry.1 :: look.cells entry.2).zipIdx, ∃ t, cellText config p.2 p.1 = .ok t := by
    intro p hp
    obtain ⟨t, ht⟩ := h p.1 (List.fst_mem_of_mem_zipIdx hp)
    exact ⟨_, by rw [ht, cellText]⟩
  obtain ⟨cells, hcells⟩ := exists_mapM hcell
  exact ⟨Table.row cells, congrArg (Except.map Table.row) hcells⟩

theorem Descriptor.Typed.descriptionOrNull {d : Descriptor} (h : d.Typed) :
    (Value.node d).descriptionOrNull = .null ∨ (Value.node d).descriptionOrNull.IsText := by
  simp only [Value.descriptionOrNull]
  split_ifs
  · exact h.1
  · exact .inl rfl

theorem cellsOf_isText {defs : Definitions} {config : Config} {type : Text} {property cell : Value}
    (hd : property.descriptionOrNull = .null ∨ property.descriptionOrNull.IsText)
    (h : cell ∈ cellsOf defs config type property) : cell.IsText := by
  simp only [cellsOf, List.mem_cons, List.not_mem_nil, or_false] at h
  rcases h with rfl | rfl | rfl | rfl
  · exact ⟨_, rfl⟩
  · exact ⟨_, rfl⟩
  · rcases hd with hd | ⟨t, hd⟩ <;> rw [hd] <;> exact ⟨_, rfl⟩
  · exact ⟨_, rfl⟩

/-- A well-typed value has a layout if the cells of its properties are texts, for its keys are texts. -/
theorem WellTyped.exists_layoutWith {defs : Definitions} {canonical : Value} (h : WellTyped defs canonical)
    (config : Config) {look : Look}
    (hcells : ∀ d, Edge defs canonical (.node d) → ∀ cell ∈ look.cells (.node d), cell.IsText) :
    ∃ parts, layoutWith config look canonical = .ok parts := by
  cases canonical with
  | node d =>
    obtain ⟨i, description, body⟩ := d
    cases body with
    | object properties =>
      have hrow : ∀ entry ∈ properties, ∃ row, tableRow config look entry = .ok row := by
        intro entry hentry
        obtain ⟨hkey, d, hd⟩ := (h _ .refl).2 entry hentry
        have hedge : Edge defs (.node (.mk i description (.object properties))) (.node d) :=
          .field (List.mem_map.mpr ⟨entry, hentry, hd⟩)
        refine exists_tableRow fun cell hcell => ?_
        rcases List.mem_cons.mp hcell with rfl | hcell
        · exact hkey
        · exact hcells d hedge cell (hd ▸ hcell)
      obtain ⟨rows, hrows⟩ := exists_mapM hrow
      simp only [layoutWith, hrows]
      exact ⟨_, rfl⟩
    | _ => exact ⟨_, rfl⟩
  | _ => exact ⟨_, rfl⟩

theorem WellTyped.cellsOf_isText {defs : Definitions} {canonical : Value} (h : WellTyped defs canonical) {d : Descriptor}
    (hd : Edge defs canonical (.node d)) (config : Config) (type : Text) :
    ∀ cell ∈ cellsOf defs config type (.node d), cell.IsText :=
  fun _ hcell => Schematic.cellsOf_isText (h d (.single hd)).descriptionOrNull hcell

theorem WellTyped.exists_layout {defs : Definitions} {canonical : Value} (h : WellTyped defs canonical) (config : Config)
    (copy : Nat) : ∃ parts, layout defs config copy canonical = .ok parts :=
  h.exists_layoutWith config fun _ hd => h.cellsOf_isText hd config _

inductive Part.Like (R : Value → Value → Prop) : Part → Part → Prop
  | text (t : Text) : Like R (.text t) (.text t)
  | block {v v' : Value} (h : R v v') : Like R (.block v) (.block v')

structure SameLook (R : Value → Value → Prop) (look look' : Look) : Prop where
  signature : ∀ v v', R v v' → look.signature v = look'.signature v'
  cells : ∀ v v', R v v' → look.cells v = look'.cells v'
  complex : ∀ d d', R (.node d) (.node d') → d.isComplex = d'.isComplex

section Like

variable {R : Value → Value → Prop} {config : Config} {look look' : Look}

theorem sectionParts_of_like (hlook : SameLook R look look') {d d' : Descriptor} (h : R (.node d) (.node d'))
    (label : Text) :
    List.Forall₂ (Part.Like R) (sectionParts label d) (sectionParts label d') := by
  unfold sectionParts
  rw [hlook.complex _ _ h]
  split_ifs
  · exact .cons (.text _) (.cons (.block h) .nil)
  · exact .nil

theorem numberedParts_of_like (hlook : SameLook R look look') {ds ds' : List Descriptor}
    (h : List.Forall₂ (fun d d' => R (.node d) (.node d')) ds ds') (label : Text) (number : Nat) :
    List.Forall₂ (Part.Like R) (numberedParts config look label number ds)
      (numberedParts config look' label number ds') := by
  induction h generalizing number with
  | nil => exact .nil
  | cons hd _ ih =>
    rw [numberedParts, numberedParts, hlook.signature _ _ hd]
    exact .cons (.text _) (.cons (.block hd) (.cons (.text _) (ih _)))

theorem restParts_of_like (hlook : SameLook R look look') {rest rest' : Value} (hrest : rest ≠ .null)
    (hrest' : rest' ≠ .null) (h : R rest rest') :
    List.Forall₂ (Part.Like R) (restParts config look rest) (restParts config look' rest') := by
  unfold restParts
  split
  · exact (hrest rfl).elim
  · simp only [hlook.signature _ _ h]
    exact .cons (.text _) (.cons (.block h) .nil)

def shownDescription (description : Value) : Option Text :=
  match description with
  | .null => none
  | d => some d.shown

/-- The description of a value as it is shown, if it has one. -/
def Value.description? (v : Value) : Option Text := shownDescription v.descriptionOrNull

theorem withDescription_eq (lead : Text) (description : Value) :
    withDescription lead description =
      lead ++ ((shownDescription description).map fun t : Text => "\n\n" ++ t).getD [] := by
  cases description <;> simp [withDescription, shownDescription]

theorem objectLead_eq (description : Value) :
    objectLead description = ((shownDescription description).map fun t : Text => t ++ "\n\n").getD [] := by
  cases description <;> rfl

theorem Value.oneLine_eq (signature : Text) (v : Value) :
    v.oneLine signature = match v.obstacleAt? "description" with
      | some why => [.gap why]
      | none => signature ++ (v.description?.map fun t : Text => " - " ++ t).getD [] := by
  unfold oneLine description?
  cases v.obstacleAt? "description" with
  | some why => rfl
  | none => cases v.descriptionOrNull <;> simp [shownDescription]

/-- Two layouts are alike, if neither fails. -/
def LayoutsLike (R : Value → Value → Prop) (made made' : Except Raised (List Part)) : Prop :=
  ∀ parts parts', made = .ok parts → made' = .ok parts' → List.Forall₂ (Part.Like R) parts parts'

theorem LayoutsLike.of_ok {parts parts' : List Part} (h : List.Forall₂ (Part.Like R) parts parts') :
    LayoutsLike R (.ok parts) (.ok parts') := by
  rintro _ _ ⟨⟩ ⟨⟩
  exact h

theorem LayoutsLike.of_text {made : Except Raised (List Text)} {text : List Text → Text} :
    LayoutsLike R (made.map fun rows => [.text (text rows)]) (made.map fun rows => [.text (text rows)]) := by
  cases made with
  | error e => nofun
  | ok rows => exact .of_ok (.cons (.text _) .nil)

theorem layoutWith_other {v : Value} (hv : ¬ v.IsNode) :
    layoutWith config look v = .ok [.text (v.oneLine (look.signature v))] := by
  cases v with
  | node d => exact (hv ⟨d, rfl⟩).elim
  | _ => rfl

theorem tableRows_of_like (hlook : SameLook R look look') {properties properties' : List (Value × Value)}
    (h : List.Forall₂ (fun p p' => p.1 = p'.1 ∧ R p.2 p'.2) properties properties') :
    properties.mapM (tableRow config look) = properties'.mapM (tableRow config look') :=
  mapM_eq_of_forall₂ h fun p p' hp => by simp only [tableRow, hp.1, hlook.cells _ _ hp.2]

/-- What a value shows of itself, beside its children, is the same. -/
structure Value.SameShown (v v' : Value) : Prop where
  unreadable : v.obstacleAt? "description" = v'.obstacleAt? "description"
  description : v.description? = v'.description?

namespace Value.SameShown

variable {v v' : Value}

theorem oneLine_eq (h : v.SameShown v') (signature : Text) : v.oneLine signature = v'.oneLine signature := by
  rw [v.oneLine_eq, v'.oneLine_eq, h.unreadable, h.description]

theorem withDescription_eq (h : v.SameShown v') (lead : Text) :
    withDescription lead v.descriptionOrNull = withDescription lead v'.descriptionOrNull := by
  have hdescription : shownDescription v.descriptionOrNull = shownDescription v'.descriptionOrNull := h.description
  rw [Schematic.withDescription_eq, Schematic.withDescription_eq, hdescription]

theorem objectLead_eq (h : v.SameShown v') : objectLead v.descriptionOrNull = objectLead v'.descriptionOrNull := by
  have hdescription : shownDescription v.descriptionOrNull = shownDescription v'.descriptionOrNull := h.description
  rw [Schematic.objectLead_eq, Schematic.objectLead_eq, hdescription]

end Value.SameShown

/-- Nodes with bodies that are alike have layouts that are alike. -/
theorem layoutsLike_of_body (hlook : SameLook R look look') {i i' : Identity} {description description' : Value}
    {body body' : Body} (hbody : Body.Like R body body')
    (hshown : (Value.node (.mk i description body)).SameShown (.node (.mk i' description' body')))
    (hself : look.signature (.node (.mk i description body)) = look'.signature (.node (.mk i' description' body'))) :
    LayoutsLike R (layoutWith config look (.node (.mk i description body)))
      (layoutWith config look' (.node (.mk i' description' body'))) := by
  have hwith := hshown.withDescription_eq
  cases hbody with
  | object hchildren =>
    simp only [layoutWith, hshown.objectLead_eq, tableRows_of_like hlook hchildren]
    exact .of_text
  | array lines hc =>
    simp only [layoutWith, hwith, lines, hlook.signature _ _ hc]
    exact .of_ok (.cons (.text _) (sectionParts_of_like hlook hc _))
  | union hcs =>
    simp only [layoutWith, hwith]
    exact .of_ok (.cons (.text _) (numberedParts_of_like hlook hcs _ _))
  | intersection h₁ h₂ =>
    simp only [layoutWith, hwith]
    exact .of_ok (.cons (.text _) (.cons (.block h₁) (.cons (.text _) (.cons (.block h₂) .nil))))
  | record h₁ h₂ =>
    simp only [layoutWith, hwith, hlook.signature _ _ h₁, hlook.signature _ _ h₂]
    exact .of_ok (.cons (.text _) (sectionParts_of_like hlook h₂ _))
  | closedTuple hcs =>
    simp only [layoutWith, hwith]
    exact .of_ok (.cons (.text _) (List.rel_append (numberedParts_of_like hlook hcs _ _) .nil))
  | openTuple hcs hrest hrest' hlast =>
    simp only [layoutWith, hwith]
    exact .of_ok (.cons (.text _) (List.rel_append (numberedParts_of_like hlook hcs _ _)
      (restParts_of_like hlook hrest hrest' hlast)))
  | enum =>
    simp only [layoutWith, hwith]
    exact .of_ok (.cons (.text _) .nil)
  | literal token =>
    simp only [layoutWith, hwith, token]
    exact .of_ok (.cons (.text _) .nil)
  | _ =>
    simp only [layoutWith, hself, hshown.oneLine_eq]
    exact .of_ok (.cons (.text _) .nil)

theorem layoutWith_of_like (hlook : SameLook R look look') {v v' : Value} (h : Value.Like R v v')
    (hunreadable : v.obstacleAt? "description" = v'.obstacleAt? "description")
    (hdescription : v.description? = v'.description?) (hself : look.signature v = look'.signature v')
    {parts parts' : List Part} (hl : layoutWith config look v = .ok parts)
    (hl' : layoutWith config look' v' = .ok parts') :
    List.Forall₂ (Part.Like R) parts parts' := by
  have hshown : v.SameShown v' := ⟨hunreadable, hdescription⟩
  cases h with
  | @node d e hbody =>
    obtain ⟨i, description, body⟩ := d
    obtain ⟨i', description', body'⟩ := e
    exact layoutsLike_of_body hlook hbody hshown hself _ _ hl hl'
  | other hv hv' =>
    rw [layoutWith_other hv, hself, hshown.oneLine_eq] at hl
    rw [layoutWith_other hv'] at hl'
    exact LayoutsLike.of_ok (.cons (.text _) .nil) _ _ hl hl'

/-- The parts have the same text if the related blocks among them have. -/
theorem flatMap_textWith_of_like {text text' : Value → Text} {parts parts' : List Part}
    (h : List.Forall₂ (Part.Like R) parts parts')
    (htext : ∀ v v', v ∈ blocks parts → v' ∈ blocks parts' → R v v' → text v = text' v') :
    parts.flatMap (Part.textWith text) = parts'.flatMap (Part.textWith text') := by
  induction h with
  | nil => rfl
  | cons hp _ ih =>
    rw [List.flatMap_cons, List.flatMap_cons]
    cases hp with
    | text t => rw [ih htext, Part.textWith, Part.textWith]
    | block hv =>
      rw [ih fun w w' hw hw' => htext w w' (List.mem_cons_of_mem _ hw) (List.mem_cons_of_mem _ hw'), Part.textWith,
        Part.textWith, htext _ _ List.mem_cons_self List.mem_cons_self hv]

end Like

/-- The settings that are laid out in a block are the same. -/
structure Config.SameLayout (config config' : Config) : Prop where
  subsectionHeading : config.subsectionHeading = config'.subsectionHeading
  tableColumns : config.tableColumns = config'.tableColumns
  validationsLabel : config.validationsLabel = config'.validationsLabel
  itemSchemaLabel : config.itemSchemaLabel = config'.itemSchemaLabel
  valueSchemaLabel : config.valueSchemaLabel = config'.valueSchemaLabel
  escapeTablePipes : config.escapeTablePipes = config'.escapeTablePipes

theorem numberedParts_of_sameLayout {config config' : Config} (h : config.SameLayout config') (look : Look) (label : Text)
    (number : Nat) (ds : List Descriptor) :
    numberedParts config look label number ds = numberedParts config' look label number ds := by
  induction ds generalizing number with
  | nil => rfl
  | cons d ds ih => simp only [numberedParts, ih, Config.subsection, h.subsectionHeading]

theorem layoutWith_of_sameLayout {config config' : Config} (h : config.SameLayout config') (look : Look) (v : Value) :
    layoutWith config look v = layoutWith config' look v := by
  have hcell : cellText config = cellText config' := by
    funext index cell
    cases cell <;> simp only [cellText, h.escapeTablePipes]
  cases v with
  | node d =>
    obtain ⟨i, description, body⟩ := d
    cases body with
    | object properties =>
      have hrow : tableRow config look = tableRow config' look := by
        funext entry
        simp only [tableRow, hcell]
      simp only [layoutWith, hrow, h.tableColumns]
    | array element low high exact =>
      have hlist : constraintList config = constraintList config' := by
        funext lines
        cases lines <;> simp only [constraintList, h.validationsLabel]
      simp only [layoutWith, hlist, h.itemSchemaLabel]
    | union options => simp only [layoutWith, numberedParts_of_sameLayout h]
    | intersection left right => simp only [layoutWith, Config.subsection, h.subsectionHeading]
    | record key value => simp only [layoutWith, h.valueSchemaLabel]
    | tuple items rest =>
      have hrest : restParts config look rest = restParts config' look rest := by
        cases rest <;> simp only [restParts, Config.subsection, h.subsectionHeading]
      simp only [layoutWith, numberedParts_of_sameLayout h, hrest]
    | _ => rfl
  | _ => rfl

/-- The configuration with another depth limit and another marker for it. -/
def Config.withLimit (config : Config) (maxDepth : Int) (depthMarker : Text) : Config :=
  { config with maxDepth := maxDepth, depthMarker := depthMarker }

theorem Config.sameLayout_withLimit (config : Config) (maxDepth : Int) (depthMarker : Text) :
    (config.withLimit maxDepth depthMarker).SameLayout config := ⟨rfl, rfl, rfl, rfl, rfl, rfl⟩

theorem layoutWith_withLimit (config : Config) (maxDepth : Int) (depthMarker : Text) (look : Look) (v : Value) :
    layoutWith (config.withLimit maxDepth depthMarker) look v = layoutWith config look v :=
  layoutWith_of_sameLayout (config.sameLayout_withLimit maxDepth depthMarker) look v

theorem rowType_eq (defs : Definitions) (config : Config) (copy : Nat) (property : Value) :
    rowType defs config copy property =
      match property.unwrapped defs config.maxDepth copy with
      | .ok c => config.signature c
      | .error mark => config.marker mark := by
  unfold rowType Value.unwrapped
  cases property.unwrap defs config.maxDepth copy <;> rfl

end Schematic
