import Schematic.Proofs.Data
import Schematic.Proofs.Making
import Schematic.Proofs.TableLines

/-! From an object another one is made whose properties may all be left out. A property that is an optional
node stays as it is, another one is put into such a node. Unwrapping takes the node off again, so in the table
of the object only two cells of a row can change: what is required, and the default, which shows on a default
modifier alone. -/
namespace Schematic

variable {defs : Definitions} {config : Config} {copy : Nat} {properties : List (Value × Value)}

/-- The second value is the first as a property that may be left out. -/
inductive Value.LeavesOut : Value → Value → Prop
  | same {v : Value} (optional : v.isOptionalNode = true) : LeavesOut v v
  | wrapped {d : Descriptor} (i : Identity) (required : (Value.node d).isOptionalNode = false) :
      LeavesOut (.node d) (.node (.mk i d.description (.modified .optional d)))

/-- The second entry is the first with a property that may be left out. -/
def EntryLeavesOut (entry entry' : Value × Value) : Prop := entry'.1 = entry.1 ∧ entry.2.LeavesOut entry'.2

theorem Descriptor.Typed.optional_eq {d : Descriptor} (h : d.Typed) (i : Identity) :
    d.optional i = .ok (.mk i d.description (.modified .optional d)) := by
  let fields : Fields := [(.text "inner", .node d), (.text "description", d.description)]
  have hinner : fields.get? "inner" = some (.node d) := by
    simp [fields, Fields.get?, Entries.get?_cons_text]
  have hdescription : fields.get? "description" = some d.description := by
    simp [fields, Fields.get?, Entries.get?_cons_text, Text.ofString_inj]
  have hnode : descriptorAt (deepestLevel - 1) (i.child 0) (.node d) = .ok d := descriptorAt_node 252 _ d
  have hread : Checked.textOrNull d.description = .ok d.description := by
    rcases h.1 with hd | ⟨t, hd⟩ <;> rw [hd] <;> rfl
  change Descriptor.ofFields .optional i fields = _
  simp only [Descriptor.ofFields, Descriptor.ofFieldsWith, Body.ofFields, Body.wrapperOfFields, Fields.required,
    Fields.optional, hinner, hdescription, hnode, hread, Checked.within]
  rfl

/-- All properties of an object can be made such that they may be left out. -/
theorem exists_optionalProperties (h : ∀ entry ∈ properties, ∃ d, entry.2 = .node d ∧ d.Typed) (defs : Definitions)
    (copy : Nat) (i : Identity) (n : Nat) :
    ∃ made, Descriptor.optionalProperties defs copy i n properties = .ok made ∧
      List.Forall₂ EntryLeavesOut properties made := by
  induction properties generalizing n with
  | nil => exact ⟨[], rfl, .nil⟩
  | cons entry properties ih =>
    obtain ⟨key, v⟩ := entry
    obtain ⟨⟨d, hv, htyped⟩, hrest⟩ := List.forall_mem_cons.mp h
    obtain ⟨made, hmade, hleft⟩ := ih hrest (n + 1)
    obtain ⟨w, hw, hvw⟩ : ∃ w, Descriptor.optionalProperty defs copy (i.child n) v = .ok w ∧ v.LeavesOut w := by
      obtain rfl : v = .node d := hv
      by_cases hoptional : (Value.node d).isOptionalNode
      · exact ⟨_, if_pos hoptional, .same hoptional⟩
      · refine ⟨_, ?_, .wrapped (i.child n) (by simpa using hoptional)⟩
        rw [Descriptor.optionalProperty, if_neg hoptional, htyped.optional_eq]
        rfl
    refine ⟨(key, w) :: made, ?_, .cons ⟨rfl, hvw⟩ hleft⟩
    rw [Descriptor.optionalProperties, hw, hmade]
    rfl

section Cells

variable {v w : Value}

theorem Value.LeavesOut.isOptionalNode (h : v.LeavesOut w) : w.isOptionalNode = true := by
  cases h with
  | same optional => exact optional
  | wrapped i => rfl

/-- Unwrapping takes off what was put around a property, whatever it comes to. -/
theorem Value.LeavesOut.rowType_eq (h : v.LeavesOut w) : rowType defs config copy w = rowType defs config copy v := by
  cases h with
  | same => rfl
  | wrapped i => rw [rowType, rowType, unwrap_wrapper]

theorem Value.LeavesOut.mayBeLeftOut (h : v.LeavesOut w) : w.mayBeLeftOut defs = true := by
  rw [Value.mayBeLeftOut, h.isOptionalNode, Bool.true_or]

theorem Value.LeavesOut.descriptionOrNull_eq (h : v.LeavesOut w) : w.descriptionOrNull = v.descriptionOrNull := by
  cases h with
  | same => rfl
  | wrapped i => rfl

theorem Value.LeavesOut.default_eq (h : v.LeavesOut w) : (w.summary defs).default = .absent := by
  have hoptional := h.isOptionalNode
  unfold Value.isOptionalNode at hoptional
  split at hoptional
  · rfl
  · cases hoptional

end Cells

/-- The texts of the row of a property once it may be left out. -/
def Config.leftOutTexts (config : Config) (texts : List Text) : List Text := (texts.set 2 config.requiredNo).set 4 []

theorem EntryLeavesOut.rowTexts_eq {entry entry' : Value × Value} (h : EntryLeavesOut entry entry') :
    rowTexts defs config copy entry' = config.leftOutTexts (rowTexts defs config copy entry) := by
  obtain ⟨hkey, hleft⟩ := h
  have hdescription : entry'.2.description? = entry.2.description? := congrArg shownDescription hleft.descriptionOrNull_eq
  simp only [rowTexts, propertyTexts, hkey, hleft.rowType_eq, hleft.mayBeLeftOut, hdescription, hleft.default_eq,
    if_true, Config.leftOutTexts, List.set_cons_succ, List.set_cons_zero]
  rfl

def Config.cell (config : Config) (t : Text) : Text := if config.escapeTablePipes then Table.escape t else t

def Config.tableBlock (config : Config) (description : Value) (rows : List (List Text)) : Text :=
  objectLead description ++ Table.header config.tableColumns ++
    (rows.map fun texts => Table.row (texts.map config.cell)).flatten

/-- `d` is shown as a table with the rows `rows copy` wherever it is met, when what getters build is numbered from `copy`
on, and also by itself unless that is too deep. -/
structure ShownInRows (defs : Definitions) (config : Config) (d : Descriptor) (rows : Nat → List (List Text)) : Prop where
  block : ∀ copy child, blockWith defs config copy child (.node d) =
    .ok (.ofText (config.tableBlock (Value.node d).descriptionOrNull (rows copy)))
  render : ∀ depth ≤ config.maxDepth, ∃ page : Page, render defs config depth (.node d) = page.whole ∧
    page.text = config.tableBlock (Value.node d).descriptionOrNull (rows 1)

theorem tableRow_eq_row (config : Config) (copy : Nat) {entry : Value × Value} (hkey : entry.1.IsText)
    (hd : entry.2.descriptionOrNull = .null ∨ entry.2.descriptionOrNull.IsText) :
    tableRow config (config.look defs copy) entry =
      .ok (Table.row ((rowTexts defs config copy entry).map config.cell)) := by
  obtain ⟨key, property⟩ := entry
  obtain ⟨key, rfl⟩ := hkey
  have hcell : ∀ (i : Nat) (t : Text), cellText config i (.text t) = .ok (config.cell t) := fun _ _ => rfl
  rcases hd with hd | ⟨t, hd⟩ <;>
    simp [tableRow, Config.look, cellsOf, rowTexts, propertyTexts, Value.description?, shownDescription, Value.shown, hd,
      hcell, List.zipIdx_cons, List.mapM_cons, bind, Except.bind, pure, Except.pure, Except.map]

theorem mapM_tableRow_eq_row (config : Config) (copy : Nat)
    (h : ∀ entry ∈ properties, entry.1.IsText ∧
      (entry.2.descriptionOrNull = .null ∨ entry.2.descriptionOrNull.IsText)) :
    properties.mapM (tableRow config (config.look defs copy)) =
      .ok ((properties.map (rowTexts defs config copy)).map fun texts => Table.row (texts.map config.cell)) := by
  induction properties with
  | nil => rfl
  | cons entry properties ih =>
    obtain ⟨⟨hkey, hd⟩, hrest⟩ := List.forall_mem_cons.mp h
    rw [List.mapM_cons, tableRow_eq_row config copy hkey hd, ih hrest]
    rfl

/-- An object whose cells are texts is shown with a row for each property. -/
theorem shownInRows (config : Config) {d : Descriptor} (hbody : d.body = .object properties)
    (h : ∀ entry ∈ properties, entry.1.IsText ∧
      (entry.2.descriptionOrNull = .null ∨ entry.2.descriptionOrNull.IsText)) :
    ShownInRows defs config d fun copy => properties.map (rowTexts defs config copy) := by
  obtain ⟨i, description, body⟩ := d
  obtain rfl : body = .object properties := hbody
  have hblock : ∀ copy child, blockWith defs config copy child (.node (.mk i description (.object properties))) =
      .ok (.ofText (config.tableBlock (Value.node (.mk i description (.object properties))).descriptionOrNull
        (properties.map (rowTexts defs config copy)))) := by
    intro copy child
    simp only [blockWith_eq, layoutWith, mapM_tableRow_eq_row config copy h, Except.map, Except.bind, renderParts_single]
    rfl
  exact ⟨hblock, fun depth hdepth => render_of_blockWith rfl (hblock 1) hdepth⟩

theorem ShownInRows.of_leavesOut {config : Config} {d : Descriptor} {made : Fields} (hbody : d.body = .object made)
    (h : ∀ entry ∈ properties, entry.1.IsText ∧
      (entry.2.descriptionOrNull = .null ∨ entry.2.descriptionOrNull.IsText))
    (hleft : List.Forall₂ EntryLeavesOut properties made) :
    ShownInRows defs config d fun copy =>
      properties.map fun entry => config.leftOutTexts (rowTexts defs config copy entry) := by
  have hmade : ∀ entry ∈ made, entry.1.IsText ∧
      (entry.2.descriptionOrNull = .null ∨ entry.2.descriptionOrNull.IsText) := by
    clear hbody
    induction hleft with
    | nil => exact h
    | cons hentry _ ih =>
      obtain ⟨hfirst, hrest⟩ := List.forall_mem_cons.mp h
      refine List.forall_mem_cons.mpr ⟨?_, ih hrest⟩
      rwa [hentry.1, hentry.2.descriptionOrNull_eq]
  have hrows : ∀ copy, (properties.map fun entry => config.leftOutTexts (rowTexts defs config copy entry)) =
      made.map (rowTexts defs config copy) := by
    intro copy
    rw [← List.forall₂_eq_eq_eq, List.forall₂_map_left_iff, List.forall₂_map_right_iff]
    exact hleft.imp fun _ _ hentry => hentry.rowTexts_eq.symm
  simpa only [hrows] using shownInRows config hbody hmade

theorem render_of_lt {v : Value} {depth : Int} (h : config.maxDepth < depth) :
    render defs config depth v = (depthBlock config).whole := by
  have hlevels : Value.levels config.maxDepth depth = 0 := by
    rw [Value.levels]
    omega
  have hamong : v.isAmong [] = false := by
    cases v <;> rfl
  rw [render, hlevels, renderIn, hamong]
  rfl

/-- An object can be made anew with properties that may all be left out. It is then shown with the same rows in the same
order, of which only the cells for what is required and for the default are others, whatever its properties unwrap to. -/
theorem WellTyped.partial_shownInRows {d : Descriptor} (h : WellTyped defs (.node d)) (hbody : d.body = .object properties)
    (copy : Nat) (i : Identity) :
    ∃ e, (Value.node d).call defs copy i "partial" [] = .ok (.node e) ∧ ∀ config : Config,
      ShownInRows defs config d (fun copy => properties.map (rowTexts defs config copy)) ∧
      ShownInRows defs config e (fun copy =>
        properties.map fun entry => config.leftOutTexts (rowTexts defs config copy entry)) ∧
      (Value.node e).descriptionOrNull = (Value.node d).descriptionOrNull ∧
      ∀ depth, config.maxDepth < depth → render defs config depth (.node e) = render defs config depth (.node d) := by
  obtain ⟨j, description, body⟩ := d
  obtain rfl : body = .object properties := hbody
  have hnodes : ∀ entry ∈ properties, ∃ d, entry.2 = .node d ∧ d.Typed := by
    intro entry hentry
    obtain ⟨-, d, hd⟩ := (h _ .refl).2 entry hentry
    exact ⟨d, hd, h d (.single (.field (List.mem_map.mpr ⟨entry, hentry, hd⟩)))⟩
  obtain ⟨made, hmade, hleft⟩ := exists_optionalProperties hnodes defs copy i 0
  have hcall : (Value.node (.mk j description (.object properties))).call defs copy i "partial" [] =
      .ok (.node (.mk i description (.object made))) := by
    change ((Descriptor.optionalProperties defs copy i 0 properties).map _).map _ = _
    rw [hmade]
    rfl
  refine ⟨_, hcall, fun config => ⟨shownInRows config rfl h.object_entries,
    .of_leavesOut (d := .mk i description (.object made)) rfl h.object_entries hleft, rfl, fun depth hdepth => ?_⟩⟩
  rw [render_of_lt hdepth, render_of_lt hdepth]

def givenText : Descriptor :=
  .mk ⟨0, [0], 0⟩ (.text "A.") (.modified (.default (.text "x") .null) (.mk ⟨0, [0, 0], 0⟩ .null (.string [])))

def failingLink : Descriptor :=
  .mk ⟨0, [1], 0⟩ .null (.modified .readonly
    (.mk ⟨0, [0, 1], 0⟩ .null (.lazy ⟨0, [1, 0, 1], 0⟩ (.raises (.mk "ValueError" [.text "x"])))))

def endlessLink : Descriptor := .mk ⟨1, [], 0⟩ .null (.lazy ⟨1, [0], 0⟩ (.shares 0))

/-- An object with a property that has a default, one whose getter fails, and one that leads back to itself. -/
def unevenObject : Descriptor :=
  .mk ⟨0, [], 0⟩ .null
    (.object [(.text "a", .node givenText), (.text "b", .node failingLink), (.text "c", .node endlessLink)])

theorem wellTyped_endlessLink : WellTyped [.ok (.node endlessLink)] (.node endlessLink) := by
  intro d hd
  have hloop : ∀ v, Reaches [.ok (.node endlessLink)] (.node endlessLink) v → v = .node endlessLink := by
    intro v hv
    induction hv with
    | refl => rfl
    | tail _ hedge ih =>
      subst ih
      cases hedge with
      | field child => cases child
      | getter call => exact (Except.ok.inj call).symm
  obtain rfl := Value.node.inj (hloop _ hd)
  exact ⟨.inl rfl, trivial⟩

theorem wellTyped_unevenObject : WellTyped [.ok (.node endlessLink)] (.node unevenObject) := by
  have hgiven : WellTyped [.ok (.node endlessLink)] (.node givenText) :=
    wellTyped_node ⟨.inr ⟨_, rfl⟩, .inl rfl⟩ fun w hw => by
      cases hw with
      | field child =>
        obtain rfl := List.mem_singleton.mp child
        refine wellTyped_node ⟨.inl rfl, trivial⟩ fun w hw => ?_
        cases hw with
        | field child => cases child
  have hfailing : WellTyped [.ok (.node endlessLink)] (.node failingLink) :=
    wellTyped_node ⟨.inl rfl, trivial⟩ fun w hw => by
      cases hw with
      | field child =>
        obtain rfl := List.mem_singleton.mp child
        refine wellTyped_node ⟨.inl rfl, trivial⟩ fun w hw => ?_
        cases hw with
        | field child => cases child
        | getter call => cases call
  refine wellTyped_node ⟨.inl rfl, fun entry hentry => ?_⟩ fun w hw => ?_
  · simp only [List.mem_cons, List.not_mem_nil, or_false] at hentry
    rcases hentry with rfl | rfl | rfl <;> exact ⟨⟨_, rfl⟩, _, rfl⟩
  · cases hw with
    | field child =>
      simp only [unevenObject, Descriptor.body, Body.children, List.map_cons, List.map_nil, List.mem_cons,
        List.not_mem_nil, or_false] at child
      rcases child with rfl | rfl | rfl
      · exact hgiven
      · exact hfailing
      · exact wellTyped_endlessLink

theorem unevenObject_rows :
    ∃ e, (Value.node unevenObject).call [.ok (.node endlessLink)] 0 ⟨0, [9], 0⟩ "partial" [] = .ok (.node e) ∧
      ∃ page page' : Page, render [.ok (.node endlessLink)] .standard 0 (.node unevenObject) = page.whole ∧
        page.text = Config.tableBlock .standard .null
          [["a", "string", "No", "A.", "\"x\""], ["b", "<unresolved>", "Yes", "", ""], ["c", "<recursive>", "Yes", "", ""]] ∧
        render [.ok (.node endlessLink)] .standard 0 (.node e) = page'.whole ∧
        page'.text = Config.tableBlock .standard .null
          [["a", "string", "No", "A.", ""], ["b", "<unresolved>", "No", "", ""], ["c", "<recursive>", "No", "", ""]] := by
  obtain ⟨e, he, hconfig⟩ := wellTyped_unevenObject.partial_shownInRows rfl 0 ⟨0, [9], 0⟩
  obtain ⟨hrows, hrows', hdescription, -⟩ := hconfig .standard
  obtain ⟨page, hpage, htext⟩ := hrows.render 0 (by decide)
  obtain ⟨page', hpage', htext'⟩ := hrows'.render 0 (by decide)
  refine ⟨e, he, page, page', hpage, ?_, hpage', ?_⟩
  · rw [htext]
    rfl
  · rw [htext', hdescription]
    rfl

end Schematic
