import Schematic.Proofs.Simulation
import Schematic.Proofs.SingleLine
import Schematic.Proofs.Tables

namespace Schematic

namespace Text

/-- The pieces of a text between its line ends; a carriage return and a line feed behind it are one line end. -/
def linePieces : Text → List Text
  | [] => [[]]
  | .char '\r' :: .char '\n' :: rest => [] :: linePieces rest
  | c :: rest => if c.EndsLine then [] :: linePieces rest else (linePieces rest).modifyHead (c :: ·)

/-- The lines of a text in Markdown. A line end at the end of the text begins no other line. -/
def markdownLines (t : Text) : List Text := (beforeLast? [] t.linePieces).getD t.linePieces

theorem splitOn_ne_nil (mark : CodePoint) (t : Text) : splitOn mark t ≠ [] := by
  cases t with
  | nil => exact List.cons_ne_nil _ _
  | cons c t =>
    rw [splitOn]
    split_ifs
    · exact List.cons_ne_nil _ _
    · split <;> exact List.cons_ne_nil _ _

theorem splitOn_cons_of_ne {mark c : CodePoint} (h : c ≠ mark) (t : Text) :
    splitOn mark (c :: t) = (splitOn mark t).modifyHead (c :: ·) := by
  obtain ⟨piece, pieces, hpieces⟩ := List.exists_cons_of_ne_nil (splitOn_ne_nil mark t)
  rw [splitOn, if_neg h, hpieces]
  rfl

theorem length_splitOn (mark : CodePoint) (t : Text) : (splitOn mark t).length = t.count mark + 1 := by
  induction t with
  | nil => rfl
  | cons c t ih =>
    by_cases hc : c = mark
    · rw [splitOn, if_pos hc, List.length_cons, ih, hc, List.count_cons_self]
    · rw [splitOn_cons_of_ne hc, List.length_modifyHead, ih, List.count_cons_of_ne hc]

theorem splitOn_of_not_mem {mark : CodePoint} {t : Text} (h : mark ∉ t) : splitOn mark t = [t] := by
  induction t with
  | nil => rfl
  | cons c t ih =>
    obtain ⟨hc, ht⟩ := not_or.mp (mt List.mem_cons.mpr h)
    rw [splitOn_cons_of_ne (Ne.symm hc), ih ht]
    rfl

theorem linePieces_lineFeed (rest : Text) : linePieces (CodePoint.char '\n' :: rest) = [] :: linePieces rest := by
  simp [linePieces]

theorem linePieces_return {c : CodePoint} (h : c ≠ CodePoint.char '\n') (rest : Text) :
    linePieces (CodePoint.char '\r' :: c :: rest) = [] :: linePieces (c :: rest) := by
  simp [linePieces, h]

theorem linePieces_of_not_endsLine {c : CodePoint} (h : ¬ c.EndsLine) (rest : Text) :
    linePieces (c :: rest) = (linePieces rest).modifyHead (c :: ·) := by
  rw [linePieces.eq_3 c rest fun _ hc _ => h (.inr hc), if_neg h]

/-- A text without line feeds that does not end in a return is broken at its returns. -/
theorem linePieces_append_lineFeed {t : Text} (hfeed : CodePoint.char '\n' ∉ t)
    (hend : t.getLast? ≠ some (CodePoint.char '\r')) (rest : Text) :
    linePieces (t ++ CodePoint.char '\n' :: rest) = splitOn (CodePoint.char '\r') t ++ linePieces rest := by
  induction t with
  | nil => exact linePieces_lineFeed rest
  | cons c t ih =>
    obtain ⟨hc, ht⟩ := not_or.mp (mt List.mem_cons.mpr hfeed)
    cases t with
    | nil =>
      have hreturn : c ≠ CodePoint.char '\r' := fun h => hend (by rw [h]; rfl)
      have hline : ¬ c.EndsLine := not_or.mpr ⟨Ne.symm hc, hreturn⟩
      rw [splitOn_cons_of_ne hreturn, List.singleton_append, linePieces_of_not_endsLine hline, linePieces_lineFeed]
      rfl
    | cons d t =>
      have ih := ih ht (by rwa [List.getLast?_cons_cons] at hend)
      by_cases hreturn : c = CodePoint.char '\r'
      · have hd : d ≠ CodePoint.char '\n' := fun h => ht (h ▸ List.mem_cons_self)
        rw [hreturn, splitOn, if_pos rfl]
        exact (linePieces_return hd _).trans (congrArg ([] :: ·) ih)
      · have hline : ¬ c.EndsLine := not_or.mpr ⟨Ne.symm hc, hreturn⟩
        obtain ⟨piece, pieces, hpieces⟩ := List.exists_cons_of_ne_nil (splitOn_ne_nil (CodePoint.char '\r') (d :: t))
        rw [splitOn_cons_of_ne hreturn, List.cons_append, linePieces_of_not_endsLine hline, ih, hpieces]
        rfl

/-- The pieces of several such texts, each with a line feed behind it. -/
theorem linePieces_flatMap {texts : List Text}
    (h : ∀ t ∈ texts, CodePoint.char '\n' ∉ t ∧ t.getLast? ≠ some (CodePoint.char '\r')) :
    linePieces (texts.flatMap (· ++ [CodePoint.char '\n'])) = texts.flatMap (splitOn (CodePoint.char '\r')) ++ [[]] := by
  induction texts with
  | nil => rfl
  | cons t texts ih =>
    obtain ⟨ht, htexts⟩ := List.forall_mem_cons.mp h
    rw [List.flatMap_cons, List.append_assoc, List.singleton_append, linePieces_append_lineFeed ht.1 ht.2, ih htexts,
      List.flatMap_cons, List.append_assoc]

end Text

namespace Table

theorem count_join {separator : Text} {c : CodePoint} (h : c ∉ separator) (parts : List Text) :
    (Text.join separator parts).count c = (parts.map (List.count c)).sum := by
  induction parts using Text.join.induct with
  | case1 => rfl
  | case2 part => simp [Text.join]
  | case3 part next rest ih =>
    rw [Text.join, List.count_append, List.count_append, List.count_eq_zero_of_not_mem h, ih, Nat.add_zero,
      List.map_cons (a := part), List.sum_cons]

theorem count_return_escape (t : Text) :
    (escape t).count (CodePoint.char '\r') = t.count (CodePoint.char '\r') := by
  induction t with
  | nil => rfl
  | cons c t ih =>
    rw [escape_cons, List.count_append, ih, ← List.singleton_append (l := t), List.count_append]
    congr 1
    split_ifs with hbar hfeed
    · rw [hbar]
      decide
    · rw [hfeed]
      decide
    · rfl

theorem count_return_line (texts : List Text) :
    (line (texts.map escape)).count (CodePoint.char '\r') = (texts.map (List.count (CodePoint.char '\r'))).sum := by
  have hcells : (texts.map escape).map (List.count (CodePoint.char '\r')) =
      texts.map (List.count (CodePoint.char '\r')) := by
    rw [List.map_map]
    exact List.map_congr_left fun t _ => count_return_escape t
  have hlead : (Text.ofString "| ").count (CodePoint.char '\r') = 0 := by decide
  have hend : (Text.ofString " |").count (CodePoint.char '\r') = 0 := by decide
  rw [line, List.count_append, List.count_append, count_join (by decide), hcells, hlead, hend, Nat.zero_add, Nat.add_zero]

theorem getLast?_line (cells : List Text) : (line cells).getLast? = some (CodePoint.char '|') := by
  rw [line, List.getLast?_append]
  rfl

theorem getLast?_ruler (columns : List Text) : (ruler columns).getLast? = some (CodePoint.char '|') := by
  rw [ruler, List.getLast?_append]
  rfl

/-- The lines of a table are its header, the ruler, and its rows, each broken at the returns in its cells. -/
theorem markdownLines_rows {columns : List Text} (hcolumns : ∀ column ∈ columns, column.IsSingleLine)
    (rows : List (List Text)) :
    (header columns ++ (rows.map fun texts => row (texts.map escape)).flatten).markdownLines =
      line columns :: ruler columns ::
        rows.flatMap fun texts => Text.splitOn (CodePoint.char '\r') (line (texts.map escape)) := by
  have hline : (line columns).IsSingleLine := by
    simpa [line, isSingleLine_join] using hcolumns
  have hruler : (ruler columns).IsSingleLine := fun c hc => by
    rcases mem_ruler hc with rfl | rfl <;> decide
  have hrow : ∀ texts : List Text, CodePoint.char '\n' ∉ line (texts.map escape) := fun texts =>
    lineFeed_not_mem_line fun cell hcell => by
      obtain ⟨t, -, rfl⟩ := List.mem_map.mp hcell
      exact lineFeed_not_mem_escape
  let lines := line columns :: ruler columns :: rows.map fun texts => line (texts.map escape)
  have hlines : header columns ++ (rows.map fun texts => row (texts.map escape)).flatten =
      lines.flatMap (· ++ [CodePoint.char '\n']) := by
    simp only [lines, header_eq, row_eq_line, List.flatMap_cons, List.flatMap_map, List.append_assoc]
    rfl
  have hends : ∀ l ∈ lines, CodePoint.char '\n' ∉ l ∧ l.getLast? ≠ some (CodePoint.char '\r') := by
    simp only [lines, List.forall_mem_cons, List.forall_mem_map, getLast?_line, getLast?_ruler]
    refine ⟨⟨?_, by decide⟩, ⟨?_, by decide⟩, fun texts _ => ⟨hrow texts, by decide⟩⟩
    · exact fun h => hline _ h (.inl rfl)
    · exact fun h => hruler _ h (.inl rfl)
  rw [hlines, Text.markdownLines, Text.linePieces_flatMap hends, beforeLast?_append, Option.getD_some]
  simp only [lines, List.flatMap_cons, List.flatMap_map]
  rw [Text.splitOn_of_not_mem fun h => hline _ h (.inr rfl), Text.splitOn_of_not_mem fun h => hruler _ h (.inr rfl)]
  rfl

theorem length_brokenRows (rows : List (List Text)) :
    (rows.flatMap fun texts => Text.splitOn (CodePoint.char '\r') (line (texts.map escape))).length =
      rows.length + rows.flatten.flatten.count (CodePoint.char '\r') := by
  induction rows with
  | nil => rfl
  | cons texts rows ih =>
    rw [List.flatMap_cons, List.length_append, ih, Text.length_splitOn, count_return_line, List.length_cons,
      List.flatten_cons, List.flatten_append, List.count_append, List.count_flatten (l := texts)]
    omega

end Table

variable {defs : Definitions} {config : Config} {copy : Nat} {properties : List (Value × Value)}

section Page

variable {d : Descriptor} (h : WellTyped defs (.node d)) (hbody : d.body = .object properties)
  (hescape : config.escapeTablePipes = true)
include h hbody hescape

/-- Wherever a well-typed object is met, its page is its description and its table. -/
theorem WellTyped.object_page {visit : Visit} (hf : visit.finding defs config = .opened (.node d) copy) :
    ∃ page : Page, visit.block defs config = .ok page ∧
      page.text = objectLead (Value.node d).descriptionOrNull ++ tableText defs config copy properties := by
  obtain ⟨page, hpage, htext⟩ := Visit.block_of_opened hf (h.layout_object hbody hescape copy) nofun
  exact ⟨page, hpage, htext.trans (List.append_nil _)⟩

theorem WellTyped.render_object {depth : Int} (hdepth : depth ≤ config.maxDepth) :
    ∃ page : Page, render defs config depth (.node d) = page.whole ∧
      page.text = objectLead (Value.node d).descriptionOrNull ++ tableText defs config 1 properties := by
  have hplain : (Value.node d).isModifier = false := by
    obtain ⟨i, description, body⟩ := d
    obtain rfl : body = .object properties := hbody
    rfl
  have hfinding : Visit.finding defs config ⟨depth, [], 1, .node d⟩ = .opened (.node d) 1 :=
    Visit.finding_plain hplain hdepth
  obtain ⟨page, hblock, htext⟩ := h.object_page hbody hescape hfinding
  refine ⟨page, ?_, htext⟩
  change (Visit.block defs config ⟨depth, [], 1, .node d⟩).bind Page.whole = page.whole
  rw [hblock]
  rfl

end Page

/-- In the text `t` the properties stand line by line below a header and a ruler. The row of a property is broken at
each carriage return in its cells, so that there is one line for each property unless a cell has such a return. -/
structure StandsInLines (defs : Definitions) (config : Config) (copy : Nat) (properties : List (Value × Value))
    (t : Text) : Prop where
  lines : t.markdownLines = Table.line config.tableColumns :: Table.ruler config.tableColumns ::
    (properties.map (rowTexts defs config copy)).flatMap fun texts =>
      Text.splitOn (CodePoint.char '\r') (Table.line (texts.map Table.escape))
  length : t.markdownLines.length =
    properties.length + 2 + (properties.map (rowTexts defs config copy)).flatten.flatten.count (CodePoint.char '\r')
  length_eq_iff : t.markdownLines.length = properties.length + 2 ↔
    ∀ entry ∈ properties, ∀ cell ∈ rowTexts defs config copy entry, CodePoint.char '\r' ∉ cell

theorem count_rowTexts_eq_zero_iff :
    (properties.map (rowTexts defs config copy)).flatten.flatten.count (CodePoint.char '\r') = 0 ↔
      ∀ entry ∈ properties, ∀ cell ∈ rowTexts defs config copy entry, CodePoint.char '\r' ∉ cell := by
  simp only [List.count_eq_zero, List.mem_flatten, List.mem_map]
  constructor
  · exact fun hnone entry hentry cell hcell hmem => hnone ⟨cell, ⟨_, ⟨entry, hentry, rfl⟩, hcell⟩, hmem⟩
  · rintro hnone ⟨cell, ⟨_, ⟨entry, hentry, rfl⟩, hcell⟩, hmem⟩
    exact hnone entry hentry cell hcell hmem

theorem standsInLines_tableText (hcolumns : ∀ column ∈ config.tableColumns, column.IsSingleLine) :
    StandsInLines defs config copy properties (tableText defs config copy properties) := by
  have hlines := Table.markdownLines_rows hcolumns (properties.map (rowTexts defs config copy))
  have hlength : (tableText defs config copy properties).markdownLines.length = properties.length + 2 +
      (properties.map (rowTexts defs config copy)).flatten.flatten.count (CodePoint.char '\r') := by
    rw [tableText, hlines, List.length_cons, List.length_cons, Table.length_brokenRows, List.length_map]
    omega
  refine ⟨hlines, hlength, ?_⟩
  rw [hlength, ← count_rowTexts_eq_zero_iff]
  omega

/-- A well-typed object is rendered as its description, if it has one, and a table that stands in lines, whatever texts
are in it. This holds wherever the object is met, and when it is rendered by itself. -/
theorem WellTyped.object_standsInLines {d : Descriptor} (h : WellTyped defs (.node d))
    (hbody : d.body = .object properties) (hescape : config.escapeTablePipes = true)
    (hcolumns : ∀ column ∈ config.tableColumns, column.IsSingleLine) :
    (∀ (visit : Visit) copy, visit.finding defs config = .opened (.node d) copy →
      ∃ (page : Page) (rest : Text), visit.block defs config = .ok page ∧
        page.text = objectLead (Value.node d).descriptionOrNull ++ rest ∧
        StandsInLines defs config copy properties rest) ∧
    ∀ depth ≤ config.maxDepth, ∃ (page : Page) (rest : Text), render defs config depth (.node d) = page.whole ∧
      page.text = objectLead (Value.node d).descriptionOrNull ++ rest ∧
      StandsInLines defs config 1 properties rest := by
  refine ⟨fun visit copy hf => ?_, fun depth hdepth => ?_⟩
  · obtain ⟨page, hblock, htext⟩ := h.object_page hbody hescape hf
    exact ⟨page, _, hblock, htext, standsInLines_tableText hcolumns⟩
  · obtain ⟨page, hrender, htext⟩ := h.render_object hbody hescape hdepth
    exact ⟨page, _, hrender, htext, standsInLines_tableText hcolumns⟩

/-- Bars, backslashes and line feeds do not break a row: two properties stand in four lines. -/
theorem length_markdownLines_fenced : ∃ (page : Page) (rest : Text),
    render [] escaping 0 (.node fenced) = page.whole ∧ page.text = "Bars.\n\n" ++ rest ∧
      rest.markdownLines.length = 2 + 2 := by
  have hcolumns : ∀ column ∈ escaping.tableColumns, column.IsSingleLine := by decide
  obtain ⟨page, rest, hrender, htext, hlines⟩ :=
    (wellTyped_fenced.object_standsInLines rfl rfl hcolumns).2 0 (by decide)
  refine ⟨page, rest, hrender, htext, hlines.length_eq_iff.mpr fun entry hentry => ?_⟩
  rcases List.mem_pair.mp hentry with rfl | rfl <;> decide

def returningText : Descriptor := .mk ⟨0, [0], 0⟩ (.text "x\ry") (.string [])

/-- An object with a carriage return in the description of its property. -/
def returning : Descriptor := .mk ⟨0, [], 0⟩ .null (.object [(.text "a", .node returningText)])

theorem wellTyped_returning : WellTyped [] (.node returning) := by
  refine wellTyped_node ⟨.inl rfl, fun entry hentry => ?_⟩ fun w hw => ?_
  · obtain rfl := List.mem_singleton.mp hentry
    exact ⟨⟨_, rfl⟩, _, rfl⟩
  · cases hw with
    | field child =>
      obtain rfl := List.mem_singleton.mp child
      exact wellTyped_node ⟨.inr ⟨_, rfl⟩, trivial⟩ fun w hw => by
        cases hw with
        | field child => cases child

/-- The carriage return breaks the row, so one property stands in four lines. -/
theorem length_markdownLines_returning_ne : WellTyped [] (.node returning) ∧
    (∀ column ∈ escaping.tableColumns, column.IsSingleLine) ∧
    ∃ page : Page, render [] escaping 0 (.node returning) = page.whole ∧
      page.text = Table.header escaping.tableColumns ++ "| a | string | Yes | x\ry |  |\n" ∧
      page.text.markdownLines.length = 4 ∧ page.text.markdownLines.length ≠ 1 + 2 := by
  have hcolumns : ∀ column ∈ escaping.tableColumns, column.IsSingleLine := by decide
  obtain ⟨page, hrender, htext⟩ := wellTyped_returning.render_object rfl rfl (show (0 : Int) ≤ escaping.maxDepth by decide)
  have hlength : page.text.markdownLines.length = 4 := by
    rw [htext]
    exact (standsInLines_tableText hcolumns).length.trans (by decide)
  refine ⟨wellTyped_returning, hcolumns, page, hrender, ?_, hlength, ?_⟩
  · rw [htext]
    exact congrArg (Table.header escaping.tableColumns ++ ·) (by decide)
  · rw [hlength]
    decide

end Schematic
