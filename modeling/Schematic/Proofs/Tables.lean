import Schematic.Proofs.Visit

/-! A table of escaped cells can be read. A line is split at the bars that do not follow a backslash, and an
escaped cell neither has such a bar nor makes one with the blanks around it, so the cells come back as they
were, but for their line feeds, which have become blanks. -/
namespace Schematic

theorem Text.splitOn_append_cons {mark : CodePoint} {t : Text} (h : mark ∉ t) (rest : Text) :
    Text.splitOn mark (t ++ mark :: rest) = t :: Text.splitOn mark rest := by
  induction t with
  | nil => simp [Text.splitOn]
  | cons c t ih =>
    obtain ⟨hc, ht⟩ := not_or.mp (mt List.mem_cons.mpr h)
    simp [Text.splitOn, Ne.symm hc, ih ht]

/-- The items before `last` at the end, if it is there. -/
def beforeLast? {α : Type} [DecidableEq α] (last : α) (items : List α) : Option (List α) :=
  if items.getLast? = some last then some items.dropLast else none

@[simp] theorem beforeLast?_append {α : Type} [DecidableEq α] (last : α) (items : List α) :
    beforeLast? last (items ++ [last]) = some items := by
  simp [beforeLast?]

namespace Table

def pad (t : Text) : Text := CodePoint.char ' ' :: (t ++ [CodePoint.char ' '])

def inLine (t : Text) : Text := t.map fun c => if c = CodePoint.char '\n' then CodePoint.char ' ' else c

def unescape : Text → Text
  | .char '\\' :: .char '|' :: rest => CodePoint.char '|' :: unescape rest
  | c :: rest => c :: unescape rest
  | [] => []

/-- The pieces of a line between the bars that do not follow a backslash; `escaped` says whether one came last. -/
def pieces : (escaped : Bool) → Text → List Text
  | _, [] => [[]]
  | escaped, c :: rest =>
    if c = CodePoint.char '|' ∧ escaped = false then [] :: pieces false rest
    else (pieces (c = CodePoint.char '\\') rest).modifyHead (c :: ·)

/-- The content of a cell that has one blank on each side. -/
def readCell : Text → Option Text
  | .char ' ' :: rest => (beforeLast? (CodePoint.char ' ') rest).map unescape
  | _ => none

/-- The cells of a line that begins and ends with a bar. -/
def readRow (line : Text) : Option (List Text) :=
  match pieces false line with
  | [] :: rest => (beforeLast? [] rest).bind fun cells => cells.mapM readCell
  | _ => none

def read (t : Text) : Option (List (List Text)) :=
  (beforeLast? [] (Text.splitOn (CodePoint.char '\n') t)).bind fun lines => (lines.drop 2).mapM readRow

section Cells

variable {c : CodePoint} {t : Text}

theorem escape_cons : escape (c :: t) =
    (if c = CodePoint.char '|' then [CodePoint.char '\\', c]
      else if c = CodePoint.char '\n' then [CodePoint.char ' '] else [c]) ++ escape t :=
  List.flatMap_cons

theorem lineFeed_not_mem_escape : CodePoint.char '\n' ∉ escape t := by
  induction t with
  | nil => simp [escape]
  | cons c t ih =>
    rw [escape_cons]
    split_ifs with hbar hfeed
    · simp [hbar, ih]
    · simp [ih]
    · simp [Ne.symm hfeed, ih]

theorem head?_escape_ne_bar : (escape t).head? ≠ some (CodePoint.char '|') := by
  cases t with
  | nil => simp [escape]
  | cons c t =>
    rw [escape_cons]
    split_ifs with hbar <;> simp [hbar]

/-- A backslash in front of an escaped text does not make an escaped bar with it. -/
theorem unescape_cons {u : Text} (hu : u.head? ≠ some (CodePoint.char '|')) : unescape (c :: u) = c :: unescape u := by
  cases u with
  | nil => simp [unescape]
  | cons d u =>
    rw [unescape]
    intro _ _ h
    simp_all

theorem unescape_escape : unescape (escape t) = inLine t := by
  induction t with
  | nil => rfl
  | cons c t ih =>
    rw [escape_cons]
    split_ifs with hbar hfeed
    · simp [hbar, unescape, inLine, ih]
    · simp [hfeed, unescape_cons head?_escape_ne_bar, inLine, ih]
    · simp [hfeed, unescape_cons head?_escape_ne_bar, inLine, ih]

theorem readCell_pad_escape : readCell (pad (escape t)) = some (inLine t) := by
  simp [readCell, pad, unescape_escape]

/-- An escaped cell stays in one piece, whatever is before it and if a blank follows. -/
theorem pieces_escape (escaped : Bool) (t rest : Text) :
    pieces escaped (escape t ++ CodePoint.char ' ' :: rest) =
      (pieces false rest).modifyHead (escape t ++ [CodePoint.char ' '] ++ ·) := by
  induction t generalizing escaped with
  | nil => simp [escape, pieces]
  | cons c t ih =>
    rw [escape_cons]
    split_ifs with hbar hfeed
    · simp [hbar, pieces, ih, Function.comp_def]
    · simp [pieces, ih, Function.comp_def]
    · simp [hbar, pieces, ih, Function.comp_def]

end Cells

section Lines

variable {cells : List Text}

theorem mem_join {separator : Text} {parts : List Text} {c : CodePoint} (h : c ∈ Text.join separator parts) :
    c ∈ separator ∨ ∃ part ∈ parts, c ∈ part := by
  induction parts using Text.join.induct with
  | case1 => simp [Text.join] at h
  | case2 part => exact .inr ⟨part, List.mem_singleton_self _, h⟩
  | case3 part next rest ih =>
    simp only [Text.join, List.mem_append] at h
    rcases h with (h | h) | h
    · exact .inr ⟨part, List.mem_cons_self, h⟩
    · exact .inl h
    · exact (ih h).imp_right fun ⟨p, hp, hc⟩ => ⟨p, List.mem_cons_of_mem _ hp, hc⟩

def line (cells : List Text) : Text := "| " ++ Text.join " | " cells ++ " |"

theorem row_eq_line (cells : List Text) : row cells = line cells ++ [CodePoint.char '\n'] := by
  simp only [row, line, List.append_assoc]
  rfl

theorem lineFeed_not_mem_line (h : ∀ cell ∈ cells, CodePoint.char '\n' ∉ cell) : CodePoint.char '\n' ∉ line cells := by
  intro hmem
  simp only [line, List.mem_append] at hmem
  rcases hmem with (hmem | hmem) | hmem
  · exact absurd hmem (by decide)
  · rcases mem_join hmem with hmem | ⟨cell, hcell, hmem⟩
    · exact absurd hmem (by decide)
    · exact h cell hcell hmem
  · exact absurd hmem (by decide)

/-- Every cell of a line, with its blanks, has a bar behind it. -/
theorem line_cons (cell : Text) (cells : List Text) :
    line (cell :: cells) = CodePoint.char '|' :: (cell :: cells).flatMap fun t => pad t ++ [CodePoint.char '|'] := by
  have hlead : ∀ t : Text, "| " ++ t = CodePoint.char '|' :: CodePoint.char ' ' :: t := fun _ => rfl
  have hend : (" |" : Text) = [CodePoint.char ' ', CodePoint.char '|'] := rfl
  have hbetween : (" | " : Text) = [CodePoint.char ' ', CodePoint.char '|', CodePoint.char ' '] := rfl
  induction cells generalizing cell with
  | nil => simp [line, hlead, hend, Text.join, pad]
  | cons next rest ih =>
    have hnext : CodePoint.char ' ' :: (Text.join " | " (next :: rest) ++ " |") =
        (next :: rest).flatMap fun t => pad t ++ [CodePoint.char '|'] := (List.cons.inj (ih next)).2
    rw [List.flatMap_cons, ← hnext]
    simp [line, hlead, hbetween, Text.join, pad]

theorem pieces_pad (texts : List Text) :
    pieces false (texts.flatMap fun t => pad (escape t) ++ [CodePoint.char '|']) =
      texts.map (fun t => pad (escape t)) ++ [[]] := by
  induction texts with
  | nil => rfl
  | cons t texts ih =>
    rw [List.flatMap_cons, List.map_cons, List.cons_append, ← ih]
    simp [pad, pieces, pieces_escape]

/-- A row of escaped cells is read as these cells, each on one line. -/
theorem readRow_line {texts : List Text} (h : texts ≠ []) :
    readRow (line (texts.map escape)) = some (texts.map inLine) := by
  have hpieces : pieces false (line (texts.map escape)) = [] :: (texts.map (fun t => pad (escape t)) ++ [[]]) := by
    obtain ⟨t, texts, rfl⟩ := List.exists_cons_of_ne_nil h
    rw [List.map_cons, line_cons, ← List.map_cons, List.flatMap_map, ← pieces_pad]
    simp [pieces]
  have hcells : ∀ texts : List Text,
      (texts.map fun t => pad (escape t)).mapM readCell = some (texts.map inLine) := by
    intro texts
    induction texts with
    | nil => rfl
    | cons t texts ih => simp [readCell_pad_escape, ih]
  simp [readRow, hpieces, hcells]

/-- The lines of a table, each with its line feed, are split again. -/
theorem splitOn_lines {lines : List Text} (h : ∀ l ∈ lines, CodePoint.char '\n' ∉ l) :
    Text.splitOn (CodePoint.char '\n') (lines.flatMap (· ++ [CodePoint.char '\n'])) = lines ++ [[]] := by
  induction lines with
  | nil => rfl
  | cons l lines ih =>
    rw [List.flatMap_cons, List.append_assoc, List.singleton_append, Text.splitOn_append_cons (h l List.mem_cons_self),
      ih fun m hm => h m (List.mem_cons_of_mem _ hm), List.cons_append]

theorem read_lines {first second : Text} {lines : List Text}
    (h : ∀ l ∈ first :: second :: lines, CodePoint.char '\n' ∉ l) :
    read ((first :: second :: lines).flatMap (· ++ [CodePoint.char '\n'])) = lines.mapM readRow := by
  rw [read, splitOn_lines h, beforeLast?_append]
  rfl

/-- The line below the columns, without the line feed at its end. -/
def ruler (columns : List Text) : Text :=
  "|" ++ Text.join "|" (columns.map fun c => List.replicate (c.length + 2) (CodePoint.char '-')) ++ "|"

theorem mem_ruler {columns : List Text} {c : CodePoint} (h : c ∈ ruler columns) :
    c = CodePoint.char '|' ∨ c = CodePoint.char '-' := by
  have hbar : ∀ {c}, c ∈ Text.ofString "|" → c = CodePoint.char '|' := List.mem_singleton.mp
  simp only [ruler, List.mem_append] at h
  rcases h with (h | h) | h
  · exact .inl (hbar h)
  · rcases mem_join h with h | ⟨dashes, hdashes, h⟩
    · exact .inl (hbar h)
    · obtain ⟨column, -, rfl⟩ := List.mem_map.mp hdashes
      exact .inr (List.eq_of_mem_replicate h)
  · exact .inl (hbar h)

theorem header_eq (columns : List Text) :
    header columns = line columns ++ [CodePoint.char '\n'] ++ (ruler columns ++ [CodePoint.char '\n']) := by
  simp only [header, row_eq_line, delimiter, ruler, List.append_assoc]
  rfl

/-- The rows of a table of escaped cells are read as these cells, each on one line. -/
theorem read_header_rows {columns : List Text} (hcolumns : ∀ column ∈ columns, CodePoint.char '\n' ∉ column)
    {rows : List (List Text)} (hrows : ∀ texts ∈ rows, texts ≠ []) :
    read (header columns ++ (rows.map fun texts => row (texts.map escape)).flatten) =
      some (rows.map fun texts => texts.map inLine) := by
  have hlines : header columns ++ (rows.map fun texts => row (texts.map escape)).flatten =
      (line columns :: ruler columns :: rows.map fun texts => line (texts.map escape)).flatMap
        (· ++ [CodePoint.char '\n']) := by
    simp only [header_eq, row_eq_line, List.flatMap_cons, List.flatMap_map, List.append_assoc]
    rfl
  have hfeeds : ∀ l ∈ line columns :: ruler columns :: rows.map fun texts => line (texts.map escape),
      CodePoint.char '\n' ∉ l := by
    intro l hl
    rcases List.mem_cons.mp hl with rfl | hl
    · exact lineFeed_not_mem_line hcolumns
    rcases List.mem_cons.mp hl with rfl | hl
    · exact fun hmem => by rcases mem_ruler hmem with h | h <;> cases h
    obtain ⟨texts, -, rfl⟩ := List.mem_map.mp hl
    refine lineFeed_not_mem_line fun cell hcell => ?_
    obtain ⟨t, -, rfl⟩ := List.mem_map.mp hcell
    exact lineFeed_not_mem_escape
  rw [hlines, read_lines hfeeds]
  clear hlines hfeeds
  induction rows with
  | nil => rfl
  | cons texts rows ih =>
    have htexts := readRow_line (hrows texts List.mem_cons_self)
    simp [htexts, ih fun texts h => hrows texts (List.mem_cons_of_mem _ h)]

end Lines
end Table

def propertyTexts (defs : Definitions) (config : Config) (copy : Nat) (key : Text) (property : Value) : List Text :=
  [key,
   rowType defs config copy property,
   if property.mayBeLeftOut defs then config.requiredNo else config.requiredYes,
   property.description?.getD [],
   (property.summary defs).default.token]

/-- What is read from `t` are the properties in their order, with a row of five cells for each. -/
def ReadsBack (defs : Definitions) (config : Config) (copy : Nat) (properties : List (Value × Value)) (t : Text) : Prop :=
  ∃ rows, Table.read t = some rows ∧
    List.Forall₂ (fun (entry : Value × Value) cells => ∃ key, entry.1 = .text key ∧
      cells = (propertyTexts defs config copy key entry.2).map Table.inLine) properties rows

variable {defs : Definitions} {config : Config}

theorem tableRow_eq (hescape : config.escapeTablePipes = true) (copy : Nat) (key : Text) {property : Value}
    (hd : property.descriptionOrNull = .null ∨ property.descriptionOrNull.IsText) :
    tableRow config (config.look defs copy) (.text key, property) =
      .ok (Table.row ((propertyTexts defs config copy key property).map Table.escape)) := by
  have hcell : ∀ (i : Nat) (t : Text), cellText config i (.text t) = .ok (Table.escape t) := by
    intro i t
    simp [cellText, hescape]
  rcases hd with hd | ⟨t, hd⟩ <;>
    simp [tableRow, Config.look, cellsOf, propertyTexts, Value.description?, shownDescription, Value.shown, hd, hcell,
      List.zipIdx_cons, List.mapM_cons, bind, Except.bind, pure, Except.pure, Except.map]

def rowTexts (defs : Definitions) (config : Config) (copy : Nat) (entry : Value × Value) : List Text :=
  propertyTexts defs config copy entry.1.shown entry.2

def tableText (defs : Definitions) (config : Config) (copy : Nat) (properties : List (Value × Value)) : Text :=
  Table.header config.tableColumns ++
    ((properties.map (rowTexts defs config copy)).map fun texts => Table.row (texts.map Table.escape)).flatten

theorem mapM_tableRow (hescape : config.escapeTablePipes = true) (copy : Nat) {properties : List (Value × Value)}
    (h : ∀ entry ∈ properties, entry.1.IsText ∧
      (entry.2.descriptionOrNull = .null ∨ entry.2.descriptionOrNull.IsText)) :
    properties.mapM (tableRow config (config.look defs copy)) =
      .ok ((properties.map (rowTexts defs config copy)).map fun texts => Table.row (texts.map Table.escape)) := by
  induction properties with
  | nil => rfl
  | cons entry properties ih =>
    obtain ⟨key, property⟩ := entry
    obtain ⟨⟨key, rfl⟩, hd⟩ := h _ List.mem_cons_self
    rw [List.mapM_cons, tableRow_eq hescape copy key hd, ih fun entry hentry => h entry (List.mem_cons_of_mem _ hentry)]
    rfl

theorem readsBack_tableText (hcolumns : ∀ column ∈ config.tableColumns, CodePoint.char '\n' ∉ column) (copy : Nat)
    {properties : List (Value × Value)} (hkeys : ∀ entry ∈ properties, entry.1.IsText) :
    ReadsBack defs config copy properties (tableText defs config copy properties) := by
  have hrows : ∀ texts ∈ properties.map (rowTexts defs config copy), texts ≠ [] := by
    intro texts htexts
    obtain ⟨entry, -, rfl⟩ := List.mem_map.mp htexts
    exact List.cons_ne_nil _ _
  refine ⟨_, Table.read_header_rows hcolumns hrows, ?_⟩
  rw [List.forall₂_map_right_iff, List.forall₂_map_right_iff, List.forall₂_same]
  intro entry hentry
  obtain ⟨key, hkey⟩ := hkeys entry hentry
  exact ⟨key, hkey, by rw [rowTexts, hkey, Value.shown]⟩

/-- A property of a well-typed object has a text for its key, and its description is a text if there is one. -/
theorem WellTyped.object_entries {i : Identity} {description : Value} {properties : List (Value × Value)}
    (h : WellTyped defs (.node (.mk i description (.object properties)))) :
    ∀ entry ∈ properties, entry.1.IsText ∧
      (entry.2.descriptionOrNull = .null ∨ entry.2.descriptionOrNull.IsText) := by
  intro entry hentry
  obtain ⟨hkey, d, hd⟩ := (h _ .refl).2 entry hentry
  have hedge : Edge defs (.node (.mk i description (.object properties))) (.node d) :=
    .field (List.mem_map.mpr ⟨entry, hentry, hd⟩)
  rw [hd]
  exact ⟨hkey, (h d (.single hedge)).descriptionOrNull⟩

/-- The block of a well-typed object is its description, if it has one, and the table of its properties. -/
theorem WellTyped.layout_object {d : Descriptor} {properties : List (Value × Value)} (h : WellTyped defs (.node d))
    (hbody : d.body = .object properties) (hescape : config.escapeTablePipes = true) (copy : Nat) :
    layout defs config copy (.node d) =
      .ok [.text (objectLead (Value.node d).descriptionOrNull ++ tableText defs config copy properties)] := by
  obtain ⟨i, description, body⟩ := d
  obtain rfl : body = .object properties := hbody
  simp only [layoutWith, mapM_tableRow hescape copy h.object_entries, Except.map, tableText, List.append_assoc]

theorem WellTyped.object_layout {d : Descriptor} {properties : List (Value × Value)} (h : WellTyped defs (.node d))
    (hbody : d.body = .object properties) (hescape : config.escapeTablePipes = true)
    (hcolumns : ∀ column ∈ config.tableColumns, CodePoint.char '\n' ∉ column) (copy : Nat) :
    ∃ rest, layout defs config copy (.node d) =
        .ok [.text (objectLead (Value.node d).descriptionOrNull ++ rest)] ∧
      ReadsBack defs config copy properties rest := by
  refine ⟨_, h.layout_object hbody hescape copy, readsBack_tableText hcolumns copy ?_⟩
  obtain ⟨i, description, body⟩ := d
  obtain rfl : body = .object properties := hbody
  exact fun entry hentry => (h.object_entries entry hentry).1

/-- The table of a well-typed object has a row for each property, whatever texts are in it, and nothing else. This
holds wherever the object is met, and when it is rendered by itself. -/
theorem WellTyped.object_readsBack {d : Descriptor} {properties : List (Value × Value)} (h : WellTyped defs (.node d))
    (hbody : d.body = .object properties) (hescape : config.escapeTablePipes = true)
    (hcolumns : ∀ column ∈ config.tableColumns, CodePoint.char '\n' ∉ column) :
    (∀ (visit : Visit) copy, visit.finding defs config = .opened (.node d) copy →
      ∃ (page : Page) (rest : Text), visit.block defs config = .ok page ∧
        page.text = objectLead (Value.node d).descriptionOrNull ++ rest ∧ ReadsBack defs config copy properties rest) ∧
    ∀ depth ≤ config.maxDepth, ∃ (page : Page) (rest : Text), render defs config depth (.node d) = page.whole ∧
      page.text = objectLead (Value.node d).descriptionOrNull ++ rest ∧ ReadsBack defs config 1 properties rest := by
  have hvisit : ∀ (visit : Visit) copy, visit.finding defs config = .opened (.node d) copy →
      ∃ (page : Page) (rest : Text), visit.block defs config = .ok page ∧
        page.text = objectLead (Value.node d).descriptionOrNull ++ rest ∧
          ReadsBack defs config copy properties rest := by
    intro visit copy hf
    obtain ⟨rest, hl, hrest⟩ := h.object_layout hbody hescape hcolumns copy
    have hblock : ∃ page : Page, visit.block defs config = .ok page ∧
        page.text = objectLead (Value.node d).descriptionOrNull ++ rest := by
      rw [Visit.block_eq, Visit.blockWith, hf]
      simp only [blockWith_eq, hl, Except.bind, renderParts_single]
      exact ⟨_, rfl, rfl⟩
    obtain ⟨page, hpage, htext⟩ := hblock
    exact ⟨page, rest, hpage, htext, hrest⟩
  refine ⟨hvisit, fun depth hdepth => ?_⟩
  have hplain : (Value.node d).isModifier = false := by
    obtain ⟨i, description, body⟩ := d
    obtain rfl : body = .object properties := hbody
    rfl
  have hf : Visit.finding defs config ⟨depth, [], 1, .node d⟩ = .opened (.node d) 1 :=
    Visit.finding_plain hplain hdepth
  obtain ⟨page, rest, hblock, hpage⟩ := hvisit _ _ hf
  refine ⟨page, rest, ?_, hpage⟩
  change (Visit.block defs config ⟨depth, [], 1, .node d⟩).bind Page.whole = page.whole
  rw [hblock]
  rfl

def fencedText : Descriptor := .mk ⟨0, [1], 0⟩ (.text "x\\|\ny\\") (.string [])

def fencedDefault : Descriptor :=
  .mk ⟨0, [3], 0⟩ .null (.modified (.default (.text "|") .null) (.mk ⟨0, [0, 3], 0⟩ .null (.string [])))

/-- An object with bars, backslashes and line feeds where its cells begin and end. -/
def fenced : Descriptor :=
  .mk ⟨0, [], 0⟩ (.text "Bars.") (.object [(.text "a|b", .node fencedText), (.text [], .node fencedDefault)])

def escaping : Config := { Config.standard with escapeTablePipes := true }

theorem wellTyped_fenced : WellTyped [] (.node fenced) := by
  have htext : WellTyped [] (.node fencedText) :=
    wellTyped_node ⟨.inr ⟨_, rfl⟩, trivial⟩ fun w hw => by
      cases hw with
      | field child => cases child
  have hdefault : WellTyped [] (.node fencedDefault) :=
    wellTyped_node ⟨.inl rfl, .inl rfl⟩ fun w hw => by
      cases hw with
      | field child =>
        obtain rfl := List.mem_singleton.mp child
        refine wellTyped_node ⟨.inl rfl, trivial⟩ fun w hw => ?_
        cases hw with
        | field child => cases child
  refine wellTyped_node ⟨.inr ⟨_, rfl⟩, fun entry hentry => ?_⟩ fun w hw => ?_
  · rcases List.mem_pair.mp hentry with rfl | rfl <;> exact ⟨⟨_, rfl⟩, _, rfl⟩
  · cases hw with
    | field child =>
      rcases List.mem_pair.mp child with rfl | rfl
      · exact htext
      · exact hdefault

theorem fenced_readsBack : ∃ (page : Page) (rest : Text),
    render [] escaping 0 (.node fenced) = page.whole ∧ page.text = "Bars.\n\n" ++ rest ∧
      Table.read rest =
        some ([["a|b", "string", "Yes", "x\\| y\\", ""], ["", "string", "No", "", "\"|\""]] : List (List Text)) := by
  have hcolumns : ∀ column ∈ escaping.tableColumns, CodePoint.char '\n' ∉ column := by decide
  obtain ⟨page, rest, hrender, htext, rows, hread, hrows⟩ :=
    (wellTyped_fenced.object_readsBack rfl rfl hcolumns).2 0 (by decide)
  refine ⟨page, rest, hrender, htext, ?_⟩
  rw [hread]
  cases hrows with
  | cons hfirst hrows =>
    cases hrows with
    | cons hsecond hrows =>
      cases hrows
      obtain ⟨key, hkey, rfl⟩ := hfirst
      obtain ⟨key', hkey', rfl⟩ := hsecond
      obtain rfl := Value.text.inj hkey
      obtain rfl := Value.text.inj hkey'
      rfl

end Schematic
