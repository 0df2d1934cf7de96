import Schematic.Proofs.Cutting
import Schematic.Proofs.Visit

namespace Schematic

namespace Text

/-- Every gap of a text has the property `P`. -/
def GapsIn (P : Obstacle → Prop) (t : Text) : Prop := ∀ why, CodePoint.gap why ∈ t → P why

variable {P : Obstacle → Prop}

theorem mem_of_obstacle? {t : Text} {why : Obstacle} (h : t.obstacle? = some why) : CodePoint.gap why ∈ t := by
  obtain ⟨c, hc, hwhy⟩ := List.exists_of_findSome?_eq_some h
  cases c with
  | gap => exact Option.some.inj hwhy ▸ hc
  | _ => cases hwhy

theorem GapsIn.of_hasGap {t : Text} (h : t.hasGap = false) : t.GapsIn P := by
  intro why hwhy
  rw [hasGap, Option.isSome_eq_false_iff, Option.isNone_iff_eq_none, obstacle?, List.findSome?_eq_none_iff] at h
  cases h _ hwhy

@[simp] theorem gapsIn_nil : GapsIn P [] := fun _ h => absurd h List.not_mem_nil

@[simp] theorem gapsIn_append {t u : Text} : (t ++ u).GapsIn P ↔ t.GapsIn P ∧ u.GapsIn P := by
  simp only [GapsIn, List.mem_append, or_imp, forall_and]

@[simp] theorem gapsIn_ofString (s : String) : (ofString s).GapsIn P := .of_hasGap (hasGap_ofString s)

@[simp] theorem gapsIn_ofNat (n : Nat) : (ofNat n).GapsIn P := .of_hasGap (by simp [hasGap])

theorem gapsIn_join {separator : Text} {parts : List Text} (hseparator : separator.GapsIn P)
    (h : ∀ part ∈ parts, part.GapsIn P) : (join separator parts).GapsIn P := by
  fun_induction join separator parts with
  | case1 => exact gapsIn_nil
  | case2 part => exact h part List.mem_cons_self
  | case3 part next rest ih =>
    obtain ⟨hpart, hrest⟩ := List.forall_mem_cons.mp h
    simp [hseparator, hpart, ih hrest]

theorem gapsIn_flatten {parts : List Text} (h : ∀ part ∈ parts, part.GapsIn P) : GapsIn P parts.flatten := by
  intro why hwhy
  obtain ⟨part, hpart, hmem⟩ := List.mem_flatten.mp hwhy
  exact h part hpart why hmem

end Text

namespace Table

variable {P : Obstacle → Prop}

theorem gapsIn_escape {t : Text} (h : t.GapsIn P) : (escape t).GapsIn P := by
  intro why hwhy
  obtain ⟨c, hc, hmem⟩ := List.mem_flatMap.mp hwhy
  split_ifs at hmem <;> simp only [List.mem_cons, List.not_mem_nil, or_false, reduceCtorEq, false_or] at hmem
  · exact h why (hmem ▸ hc)
  · exact h why (hmem ▸ hc)

theorem gapsIn_row {cells : List Text} (h : ∀ cell ∈ cells, cell.GapsIn P) : (row cells).GapsIn P := by
  simp [row, Text.gapsIn_join (Text.gapsIn_ofString " | ") h]

theorem gapsIn_header {columns : List Text} (h : ∀ column ∈ columns, column.GapsIn P) : (header columns).GapsIn P := by
  have hdashes : ∀ part ∈ columns.map fun c => List.replicate (c.length + 2) (CodePoint.char '-'),
      Text.GapsIn P part := by
    intro part hpart why hwhy
    obtain ⟨c, -, rfl⟩ := List.mem_map.mp hpart
    cases List.eq_of_mem_replicate hwhy
  simp [header, delimiter, gapsIn_row h, Text.gapsIn_join (Text.gapsIn_ofString "|") hdashes]

end Table

/-- The texts that a node puts into documents as they are, beside its description. -/
def Body.ownTexts : Body → List Text
  | .string checks => checks.map TextCheck.line
  | .number checks => checks.map NumberCheck.line
  | .array _ low high exact => arrayLines low high exact
  | .object properties => properties.map fun entry => entry.1.shown
  | .enum options => options
  | .literal v => [v.token]
  | _ => []

/-- The texts that a value puts into documents as they are. -/
def Value.ownTexts (defs : Definitions) (v : Value) : List Text :=
  v.descriptionOrNull.shown :: (v.summary defs).default.token ::
    match v with
    | .node d => d.body.ownTexts
    | v => [v.fallbackName]

/-- What keeps a value from being shown: a gap in a text of its graph or in what an exception of a getter says,
unless the exception counts as recursion. -/
inductive Obstructs (defs : Definitions) (v : Value) : Obstacle → Prop
  | own {w : Value} {t : Text} {why : Obstacle} (below : Reaches defs v w) (text : t ∈ w.ownTexts defs)
      (gap : .gap why ∈ t) : Obstructs defs v why
  | raised {i j : Identity} {description : Value} {g : Action} {copy : Nat} {e : Raised} {why : Obstacle}
      (below : Reaches defs v (.node (.mk i description (.lazy j g)))) (call : g.call defs copy = .error e)
      (other : e.className ≠ ("RecursionError" : Text)) (gap : .gap why ∈ e.written) : Obstructs defs v why

/-- Whatever keeps a value from being shown has the property `P`. -/
abbrev ObstructedBy (P : Obstacle → Prop) (defs : Definitions) (v : Value) : Prop := ∀ why, Obstructs defs v why → P why

/-- Every gap in the texts of a configuration has the property `P`. -/
structure Config.GapsIn (P : Obstacle → Prop) (config : Config) : Prop where
  subsectionHeading : config.subsectionHeading.GapsIn P
  tableColumns : ∀ column ∈ config.tableColumns, column.GapsIn P
  requiredYes : config.requiredYes.GapsIn P
  requiredNo : config.requiredNo.GapsIn P
  validationsLabel : config.validationsLabel.GapsIn P
  itemSchemaLabel : config.itemSchemaLabel.GapsIn P
  valueSchemaLabel : config.valueSchemaLabel.GapsIn P
  recursionMarker : config.recursionMarker.GapsIn P
  depthMarker : config.depthMarker.GapsIn P
  unresolvedMarker : config.unresolvedMarker.GapsIn P

/-- The texts of a configuration have no gaps. -/
abbrev Config.Writable (config : Config) : Prop := config.GapsIn fun _ => False

variable {P : Obstacle → Prop} {defs : Definitions} {config : Config} {v : Value}

theorem Config.Writable.gapsIn (h : config.Writable) : config.GapsIn P := by
  obtain ⟨h₁, h₂, h₃, h₄, h₅, h₆, h₇, h₈, h₉, h₁₀⟩ := h
  have hmono : ∀ {t : Text}, t.GapsIn (fun _ => False) → t.GapsIn P := fun ht why hwhy => (ht why hwhy).elim
  exact ⟨hmono h₁, fun column hcolumn => hmono (h₂ column hcolumn), hmono h₃, hmono h₄, hmono h₅, hmono h₆, hmono h₇,
    hmono h₈, hmono h₉, hmono h₁₀⟩

theorem Obstructs.above {v w : Value} {why : Obstacle} (h : Obstructs defs w why) (hw : Reaches defs v w) :
    Obstructs defs v why := by
  cases h with
  | own below text gap => exact .own (hw.trans below) text gap
  | raised below call other gap => exact .raised (hw.trans below) call other gap

theorem ObstructedBy.below (h : ObstructedBy P defs v) {w : Value} (hw : Reaches defs v w) : ObstructedBy P defs w :=
  fun why hwhy => h why (hwhy.above hw)

theorem ObstructedBy.text (h : ObstructedBy P defs v) {t : Text} (ht : t ∈ v.ownTexts defs) : t.GapsIn P :=
  fun why hwhy => h why (.own .refl ht hwhy)

theorem ObstructedBy.description (h : ObstructedBy P defs v) : v.descriptionOrNull.shown.GapsIn P :=
  h.text List.mem_cons_self

theorem ObstructedBy.default (h : ObstructedBy P defs v) : (v.summary defs).default.token.GapsIn P :=
  h.text (List.mem_cons_of_mem _ List.mem_cons_self)

theorem ObstructedBy.own {d : Descriptor} (h : ObstructedBy P defs (.node d)) : ∀ t ∈ d.body.ownTexts, t.GapsIn P :=
  fun _ ht => h.text (List.mem_cons_of_mem _ (List.mem_cons_of_mem _ ht))

theorem gapsIn_withConstraints {name : Text} {lines : List Text} (hname : name.GapsIn P)
    (hlines : ∀ line ∈ lines, line.GapsIn P) : (withConstraints name lines).GapsIn P := by
  cases lines with
  | nil => exact hname
  | cons line lines => simp [withConstraints, hname, Text.gapsIn_join (Text.gapsIn_ofString ", ") hlines]

theorem gapsIn_tuplePositions {items : List Text} {rest : Option Text} (hitems : ∀ item ∈ items, item.GapsIn P)
    (hrest : ∀ r ∈ rest, r.GapsIn P) : (tuplePositions items rest).GapsIn P := by
  have hlisted := Text.gapsIn_join (Text.gapsIn_ofString ", ") hitems
  cases rest with
  | none => exact hlisted
  | some r =>
    have hr := hrest r rfl
    unfold tuplePositions
    simp only []
    split_ifs <;> simp [hlisted, hr]

theorem gapsIn_signatureWith {child : Value → Text} {d : Descriptor} (hown : ∀ t ∈ d.body.ownTexts, t.GapsIn P)
    (hchild : ∀ w ∈ d.body.children, (child w).GapsIn P) : (d.signatureWith child).GapsIn P := by
  obtain ⟨i, description, body⟩ := d
  unfold Descriptor.signatureWith
  cases body with
  | string checks => exact gapsIn_withConstraints (Text.gapsIn_ofString "string") hown
  | number checks => exact gapsIn_withConstraints (Text.gapsIn_ofString "number") hown
  | enum options =>
    have hlisted : (Text.join " , " options).GapsIn P := Text.gapsIn_join (Text.gapsIn_ofString " , ") hown
    simp [Descriptor.body, hlisted]
  | union options =>
    refine Text.gapsIn_join (Text.gapsIn_ofString " | ") fun part hpart => ?_
    obtain ⟨o, ho, rfl⟩ := List.mem_map.mp hpart
    exact hchild _ (List.mem_map_of_mem ho)
  | tuple items rest =>
    have hitems : ∀ part ∈ items.map fun i => child (.node i), part.GapsIn P := by
      intro part hpart
      obtain ⟨o, ho, rfl⟩ := List.mem_map.mp hpart
      exact hchild _ (Body.mem_children_tuple.mpr (.inl ⟨o, ho, rfl⟩))
    have hrest : rest ≠ .null → (child rest).GapsIn P := fun hrest =>
      hchild _ (Body.mem_children_tuple.mpr (.inr ⟨rfl, hrest⟩))
    simp only [Descriptor.body, Text.gapsIn_append, Text.gapsIn_ofString, true_and, and_true]
    refine gapsIn_tuplePositions hitems fun r hr => ?_
    cases rest with
    | null => cases hr
    | _ =>
      obtain rfl := Option.some.inj hr
      exact hrest Value.noConfusion
  | literal v => simp [Descriptor.body, hown v.token (List.mem_singleton_self _)]
  | primitive p => cases p <;> exact Text.gapsIn_ofString _
  | modified m inner =>
    have hinner := hchild (.node inner) (List.mem_singleton_self _)
    cases m <;> simp [Descriptor.body, hinner, Modifier.toKind, Kind.tag]
  | _ => simp_all [Descriptor.body, Body.children, Kind.tag]

theorem ObstructedBy.signatureIn {marker : Text} (hmarker : marker.GapsIn P) (levels : Nat) (h : ObstructedBy P defs v) :
    (v.signatureIn marker levels).GapsIn P := by
  induction levels generalizing v with
  | zero =>
    cases v with
    | null => exact Text.gapsIn_ofString "unknown"
    | _ => exact hmarker
  | succ levels ih =>
    cases v with
    | node d => exact gapsIn_signatureWith h.own fun w hw => ih (h.below (.single (.field hw)))
    | null => exact Text.gapsIn_ofString "unknown"
    | _ => exact h.text (List.mem_cons_of_mem _ (List.mem_cons_of_mem _ List.mem_cons_self))

theorem ObstructedBy.signature (hc : config.GapsIn P) (h : ObstructedBy P defs v) : (config.signature v).GapsIn P :=
  h.signatureIn hc.depthMarker _

theorem gapsIn_marker_mark (hc : config.GapsIn P) {e : Raised}
    (h : e.className ≠ ("RecursionError" : Text) → e.written.GapsIn P) : (config.marker e.mark).GapsIn P := by
  unfold Raised.mark ResolutionFailure.ofRaised
  split_ifs with hclass
  · exact hc.recursionMarker
  · rw [ResolutionFailure.said_getterFailed]
    cases hobstacle : e.written.obstacle? with
    | none => exact hc.unresolvedMarker
    | some why =>
      rintro _ (_ | ⟨_, ⟨⟩⟩)
      exact h hclass why (Text.mem_of_obstacle? hobstacle)

/-- What fails below a graph that can be written has a marker of the configuration. -/
theorem ObstructedBy.marker (hc : config.GapsIn P) (hlimit : 0 ≤ config.maxDepth) {resolutions copy : Nat}
    {failure : ResolutionFailure} (hu : UnwrapsWithin defs config.maxDepth resolutions copy v (.error failure))
    (h : ObstructedBy P defs v) : (config.marker failure.mark).GapsIn P := by
  generalize hr : Except.error failure = r at hu
  induction hu with
  | done => cases hr
  | wrapper _ ih => exact ih (h.below (.single (.inner _ _ _ _))) hr
  | exhausted =>
    obtain rfl := Except.error.inj hr
    rw [ResolutionFailure.said_unresolved hlimit]
    exact hc.recursionMarker
  | raised _ call =>
    obtain rfl := Except.error.inj hr
    rw [mark_said_ofRaised]
    exact gapsIn_marker_mark hc fun hclass why hwhy => h why (.raised .refl call hclass hwhy)
  | resolved _ call _ ih => exact ih (h.below (.single (.getter call))) hr

theorem ObstructedBy.marker_of_unwrap (hc : config.GapsIn P) (hlimit : 0 ≤ config.maxDepth) (h : ObstructedBy P defs v)
    {copy : Nat} {failure : ResolutionFailure} (hu : v.unwrap defs config.maxDepth copy = .error failure) :
    (config.marker failure.mark).GapsIn P :=
  ObstructedBy.marker hc hlimit (hu ▸ unwrapsWithin_unwrap defs config.maxDepth copy v) h

theorem ObstructedBy.rowType (hc : config.GapsIn P) (hlimit : 0 ≤ config.maxDepth) (h : ObstructedBy P defs v) (copy : Nat) :
    (rowType defs config copy v).GapsIn P := by
  unfold Schematic.rowType
  cases hu : v.unwrap defs config.maxDepth copy with
  | ok c => exact (h.below (reaches_of_unwrap hu)).signature hc
  | error failure => exact h.marker_of_unwrap hc hlimit hu

section Block

variable {canonical : Value} {copy : Nat}

theorem gapsIn_withDescription {lead : Text} {description : Value} (hlead : lead.GapsIn P)
    (hdescription : description.shown.GapsIn P) : (withDescription lead description).GapsIn P := by
  cases description with
  | null => exact hlead
  | _ => simp [withDescription, hlead, hdescription]

theorem gapsIn_objectLead {description : Value} (h : description.shown.GapsIn P) : (objectLead description).GapsIn P := by
  cases description with
  | null => exact Text.gapsIn_nil
  | _ => simp [objectLead, h]

theorem Value.descriptionOrNull_of_obstacleAt? {why : Obstacle} (h : v.obstacleAt? "description" = some why) :
    v.descriptionOrNull = .text [.gap why] := by
  cases v with
  | foreign => simp [descriptionOrNull, h, truthy]
  | _ => cases h

theorem ObstructedBy.oneLine (h : ObstructedBy P defs v) {signature : Text} (hsignature : signature.GapsIn P) :
    (v.oneLine signature).GapsIn P := by
  have hdescription := h.description
  unfold Value.oneLine
  split
  · rename_i hunreadable
    rwa [Value.descriptionOrNull_of_obstacleAt? hunreadable] at hdescription
  · exact hsignature
  · simp [hsignature, hdescription]

theorem gapsIn_subsection (hc : config.GapsIn P) {title : Text} (h : title.GapsIn P) :
    (config.subsection title).GapsIn P := by
  simp [Config.subsection, hc.subsectionHeading, h]

theorem gapsIn_constraintList (hc : config.GapsIn P) {lines : List Text} (h : ∀ line ∈ lines, line.GapsIn P) :
    (constraintList config lines).GapsIn P := by
  cases lines with
  | nil => exact Text.gapsIn_nil
  | cons line lines =>
    have hbullets : Text.GapsIn P ((line :: lines).flatMap bullet) := by
      refine Text.gapsIn_flatten fun part hpart => ?_
      obtain ⟨t, ht, rfl⟩ := List.mem_map.mp hpart
      simp [bullet, h t ht]
    simp only [constraintList, Text.gapsIn_append, Text.gapsIn_ofString, hc.validationsLabel, hbullets, and_true]

theorem gapsIn_enumLines {options : List Text} (h : ∀ option ∈ options, option.GapsIn P) :
    Text.GapsIn P (options.flatMap codeBullet) := by
  refine Text.gapsIn_flatten fun part hpart => ?_
  obtain ⟨t, ht, rfl⟩ := List.mem_map.mp hpart
  simp [codeBullet, h t ht]

/-- Every gap in the texts of a layout has the property `P`. -/
def PartsGapsIn (P : Obstacle → Prop) (parts : List Part) : Prop := ∀ t, Part.text t ∈ parts → t.GapsIn P

theorem partsGapsIn_nil : PartsGapsIn P [] := fun _ ht => absurd ht List.not_mem_nil

theorem PartsGapsIn.text {t : Text} {parts : List Part} (ht : t.GapsIn P) (h : PartsGapsIn P parts) :
    PartsGapsIn P (.text t :: parts) := by
  intro u hu
  rcases List.mem_cons.mp hu with heq | hu
  · exact Part.text.inj heq ▸ ht
  · exact h u hu

theorem PartsGapsIn.block {parts : List Part} (w : Value) (h : PartsGapsIn P parts) :
    PartsGapsIn P (.block w :: parts) := by
  intro u hu
  rcases List.mem_cons.mp hu with heq | hu
  · cases heq
  · exact h u hu

theorem PartsGapsIn.append {parts parts' : List Part} (h : PartsGapsIn P parts) (h' : PartsGapsIn P parts') :
    PartsGapsIn P (parts ++ parts') := fun u hu => (List.mem_append.mp hu).elim (h u) (h' u)

theorem partsGapsIn_section {label : Text} (hlabel : label.GapsIn P) (d : Descriptor) :
    PartsGapsIn P (sectionParts label d) := by
  unfold sectionParts
  split_ifs
  · exact .text (by simp [hlabel]) (.block _ partsGapsIn_nil)
  · exact partsGapsIn_nil

theorem partsGapsIn_numbered (hc : config.GapsIn P) (copy : Nat) (label : String) (number : Nat) {ds : List Descriptor}
    (h : ∀ d ∈ ds, ObstructedBy P defs (.node d)) :
    PartsGapsIn P (numberedParts config (config.look defs copy) label number ds) := by
  induction ds generalizing number with
  | nil => exact partsGapsIn_nil
  | cons d ds ih =>
    obtain ⟨hd, hds⟩ := List.forall_mem_cons.mp h
    have htitle : (config.subsection (label ++ " " ++ Text.ofNat number ++ ": " ++ config.signature (.node d))).GapsIn P :=
      gapsIn_subsection hc (by simp [hd.signature hc])
    exact .text htitle (.block _ (.text (Text.gapsIn_ofString "\n\n") (ih (number + 1) hds)))

theorem partsGapsIn_rest (hc : config.GapsIn P) (copy : Nat) {rest : Value} (h : rest ≠ .null → ObstructedBy P defs rest) :
    PartsGapsIn P (restParts config (config.look defs copy) rest) := by
  unfold restParts
  split
  · exact partsGapsIn_nil
  · rename_i hrest
    have htitle : (config.subsection ("Rest: " ++ config.signature rest)).GapsIn P :=
      gapsIn_subsection hc (by simp [(h hrest).signature hc])
    exact .text htitle (.block _ partsGapsIn_nil)

theorem ObstructedBy.cells (hc : config.GapsIn P) (hlimit : 0 ≤ config.maxDepth) (h : ObstructedBy P defs v) (copy : Nat) :
    ∀ t, .text t ∈ cellsOf defs config (Schematic.rowType defs config copy v) v → t.GapsIn P := by
  intro t ht
  simp only [cellsOf, List.mem_cons, List.not_mem_nil, or_false, Value.text.injEq] at ht
  rcases ht with rfl | rfl | ht | rfl
  · exact h.rowType hc hlimit copy
  · split_ifs
    · exact hc.requiredNo
    · exact hc.requiredYes
  · have hdescription := h.description
    split at ht
    · obtain rfl := Value.text.inj ht
      exact Text.gapsIn_nil
    · rw [← ht] at hdescription
      exact hdescription
  · exact h.default

theorem gapsIn_cellText {index : Nat} {cell : Value} {t : Text} (hcell : ∀ u, cell = .text u → u.GapsIn P)
    (h : cellText config index cell = .ok t) : t.GapsIn P := by
  cases cell with
  | text u =>
    obtain rfl := Except.ok.inj h
    split_ifs
    · exact Table.gapsIn_escape (hcell u rfl)
    · exact hcell u rfl
  | _ => cases h

theorem gapsIn_tableRow (hc : config.GapsIn P) (hlimit : 0 ≤ config.maxDepth) (copy : Nat) {entry : Value × Value}
    (hkey : entry.1.shown.GapsIn P) (h : ObstructedBy P defs entry.2) {line : Text}
    (hline : tableRow config (config.look defs copy) entry = .ok line) : line.GapsIn P := by
  obtain ⟨texts, htexts, rfl⟩ := Except.map_eq_ok.mp hline
  refine Table.gapsIn_row (forall_of_mapM (fun p hp cell hcell => gapsIn_cellText (fun u hu => ?_) hcell) htexts)
  rcases List.mem_cons.mp (List.fst_mem_of_mem_zipIdx hp) with heq | hmem
  · rw [← heq, hu] at hkey
    exact hkey
  · exact h.cells hc hlimit copy u (hu ▸ hmem)

theorem partsGapsIn_array (hc : config.GapsIn P) (copy : Nat) {description : Value} {element : Descriptor}
    {low high exact : Value} (hdescription : description.shown.GapsIn P)
    (hlines : ∀ line ∈ arrayLines low high exact, line.GapsIn P) (helement : ObstructedBy P defs (.node element)) :
    PartsGapsIn P (.text (withDescription ("Array of " ++ (config.look defs copy).signature (.node element)) description ++
      constraintList config (arrayLines low high exact)) :: sectionParts config.itemSchemaLabel element) := by
  have hlead : (withDescription ("Array of " ++ config.signature (.node element)) description).GapsIn P :=
    gapsIn_withDescription (by simp [helement.signature hc]) hdescription
  exact .text (Text.gapsIn_append.mpr ⟨hlead, gapsIn_constraintList hc hlines⟩)
    (partsGapsIn_section hc.itemSchemaLabel _)

theorem partsGapsIn_record (hc : config.GapsIn P) (copy : Nat) {description : Value} {key value : Descriptor}
    (hdescription : description.shown.GapsIn P) (hkey : ObstructedBy P defs (.node key))
    (hvalue : ObstructedBy P defs (.node value)) :
    PartsGapsIn P (.text (withDescription ("Record with keys of type " ++ (config.look defs copy).signature (.node key) ++
      " and values of type " ++ (config.look defs copy).signature (.node value)) description) ::
        sectionParts config.valueSchemaLabel value) := by
  have hlead : ("Record with keys of type " ++ config.signature (.node key) ++ " and values of type " ++
      config.signature (.node value) : Text).GapsIn P := by
    simp [hkey.signature hc, hvalue.signature hc]
  exact .text (gapsIn_withDescription hlead hdescription) (partsGapsIn_section hc.valueSchemaLabel _)

theorem partsGapsIn_table (hc : config.GapsIn P) (hlimit : 0 ≤ config.maxDepth) (copy : Nat) {description : Value}
    {properties : List (Value × Value)} {rows : List Text} (hdescription : description.shown.GapsIn P)
    (hkeys : ∀ entry ∈ properties, entry.1.shown.GapsIn P) (h : ∀ entry ∈ properties, ObstructedBy P defs entry.2)
    (hrows : properties.mapM (tableRow config (config.look defs copy)) = .ok rows) :
    PartsGapsIn P [.text (objectLead description ++ Table.header config.tableColumns ++ rows.flatten)] := by
  have hlines : Text.GapsIn P rows.flatten := Text.gapsIn_flatten (forall_of_mapM (fun entry hentry line hline =>
    gapsIn_tableRow hc hlimit copy (hkeys entry hentry) (h entry hentry) hline) hrows)
  refine .text ?_ partsGapsIn_nil
  simp only [Text.gapsIn_append, gapsIn_objectLead hdescription, Table.gapsIn_header hc.tableColumns, hlines, and_true]

theorem partsGapsIn_enum {description : Value} {options : List Text} (hdescription : description.shown.GapsIn P)
    (hoptions : Text.GapsIn P (options.flatMap codeBullet)) :
    PartsGapsIn P [.text (withDescription "Enum with values:" description ++ "\n\n" ++ options.flatMap codeBullet)] := by
  have hlead := gapsIn_withDescription (Text.gapsIn_ofString "Enum with values:") hdescription
  refine .text ?_ partsGapsIn_nil
  simp only [Text.gapsIn_append, hlead, Text.gapsIn_ofString, hoptions, and_true]

theorem partsGapsIn_union (hc : config.GapsIn P) (copy : Nat) {description : Value} {options : List Descriptor}
    (hdescription : description.shown.GapsIn P) (hoptions : ∀ d ∈ options, ObstructedBy P defs (.node d)) :
    PartsGapsIn P (.text (withDescription "Union of:" description ++ "\n\n") ::
      numberedParts config (config.look defs copy) "Option" 1 options) := by
  have hlead := gapsIn_withDescription (Text.gapsIn_ofString "Union of:") hdescription
  refine .text ?_ (partsGapsIn_numbered hc copy "Option" 1 hoptions)
  simp only [Text.gapsIn_append, hlead, Text.gapsIn_ofString, and_true]

theorem partsGapsIn_intersection (hc : config.GapsIn P) {description : Value} (left right : Value)
    (hdescription : description.shown.GapsIn P) :
    PartsGapsIn P [.text (withDescription "Intersection of:" description ++ "\n\n" ++ config.subsection "First part:"),
      .block left, .text ("\n\n" ++ config.subsection "Second part:"), .block right] := by
  have hlead := gapsIn_withDescription (Text.gapsIn_ofString "Intersection of:") hdescription
  refine .text ?_ (.block _ (.text ?_ (.block _ partsGapsIn_nil)))
  · simp only [Text.gapsIn_append, hlead, Text.gapsIn_ofString, gapsIn_subsection hc, and_true]
  · simp only [Text.gapsIn_append, Text.gapsIn_ofString, gapsIn_subsection hc, and_true]

theorem partsGapsIn_tuple (hc : config.GapsIn P) (copy : Nat) {description : Value} {items : List Descriptor}
    {rest : Value} (hdescription : description.shown.GapsIn P) (hitems : ∀ d ∈ items, ObstructedBy P defs (.node d))
    (hrest : rest ≠ .null → ObstructedBy P defs rest) :
    PartsGapsIn P (.text (withDescription "Tuple with elements:" description ++ "\n\n") ::
      (numberedParts config (config.look defs copy) "Element" 1 items ++ restParts config (config.look defs copy) rest)) := by
  have hlead := gapsIn_withDescription (Text.gapsIn_ofString "Tuple with elements:") hdescription
  refine .text ?_ ((partsGapsIn_numbered hc copy "Element" 1 hitems).append (partsGapsIn_rest hc copy hrest))
  simp only [Text.gapsIn_append, hlead, Text.gapsIn_ofString, and_true]

/-- The texts of a block of what can be written have no gaps. -/
theorem ObstructedBy.partsGapsIn (hc : config.GapsIn P) (hlimit : 0 ≤ config.maxDepth) (h : ObstructedBy P defs canonical)
    {parts : List Part} (hl : layout defs config copy canonical = .ok parts) : PartsGapsIn P parts := by
  have hdescription := h.description
  have hline : PartsGapsIn P [.text (canonical.oneLine (config.signature canonical))] :=
    .text (h.oneLine (h.signature hc)) partsGapsIn_nil
  cases canonical with
  | node d =>
    have hown := h.own
    have hchild : ∀ w ∈ d.body.children, ObstructedBy P defs w := fun w hw => h.below (.single (.field hw))
    obtain ⟨i, description, body⟩ := d
    cases body with
    | object properties =>
      obtain ⟨rows, hrows, rfl⟩ := Except.map_eq_ok.mp hl
      exact partsGapsIn_table hc hlimit copy hdescription (fun entry hentry => hown _ (List.mem_map_of_mem hentry))
        (fun entry hentry => hchild _ (List.mem_map_of_mem hentry)) hrows
    | array element low high exact =>
      obtain rfl := Except.ok.inj hl
      exact partsGapsIn_array hc copy hdescription hown (hchild _ (List.mem_singleton_self _))
    | enum options =>
      obtain rfl := Except.ok.inj hl
      exact partsGapsIn_enum hdescription (gapsIn_enumLines hown)
    | union options =>
      obtain rfl := Except.ok.inj hl
      exact partsGapsIn_union hc copy hdescription fun d hd => hchild _ (List.mem_map_of_mem hd)
    | intersection left right =>
      obtain rfl := Except.ok.inj hl
      exact partsGapsIn_intersection hc _ _ hdescription
    | record key value =>
      obtain rfl := Except.ok.inj hl
      exact partsGapsIn_record hc copy hdescription (hchild _ List.mem_cons_self)
        (hchild _ (List.mem_cons_of_mem _ List.mem_cons_self))
    | tuple items rest =>
      obtain rfl := Except.ok.inj hl
      exact partsGapsIn_tuple hc copy hdescription
        (fun d hd => hchild _ (Body.mem_children_tuple.mpr (.inl ⟨d, hd, rfl⟩)))
        (fun hrest => hchild _ (Body.mem_children_tuple.mpr (.inr ⟨rfl, hrest⟩)))
    | literal value =>
      obtain rfl := Except.ok.inj hl
      have htoken : ("Literal: " ++ value.token : Text).GapsIn P := by
        simp [hown value.token (List.mem_singleton_self _)]
      exact .text (gapsIn_withDescription htoken hdescription) partsGapsIn_nil
    | _ =>
      obtain rfl := Except.ok.inj hl
      exact hline
  | _ =>
    obtain rfl := Except.ok.inj hl
    exact hline

theorem gapsIn_renderParts {child : Value → Rendering} {parts : List Part} {page : Page}
    (h : renderParts child parts = .ok page) (htexts : PartsGapsIn P parts)
    (hchild : ∀ w ∈ blocks parts, ∀ block : Page, child w = .ok block → block.text.GapsIn P) :
    page.text.GapsIn P := by
  induction parts generalizing page with
  | nil =>
    obtain rfl := Except.ok.inj h
    exact Text.gapsIn_nil
  | cons part rest ih =>
    have hrest : PartsGapsIn P rest := fun t ht => htexts t (List.mem_cons_of_mem _ ht)
    cases part with
    | text t =>
      obtain ⟨more, hmore, rfl⟩ := Except.map_eq_ok.mp h
      simp [htexts t List.mem_cons_self, ih hmore hrest hchild]
    | block w =>
      simp only [renderParts, Except.bind_eq_ok] at h
      obtain ⟨block, hblock, more, hmore, hpage⟩ := h
      obtain rfl := Except.ok.inj hpage
      obtain ⟨hw, hblocks⟩ := List.forall_mem_cons.mp hchild
      simp [hw block hblock, ih hmore hrest hblocks]

end Block

@[simp] theorem ResolutionFailure.text_report (f : ResolutionFailure) : f.report.text = [] := by
  unfold report
  split <;> rfl

namespace Visit

theorem finding_failed {visit : Visit} {failure : ResolutionFailure} (h : visit.finding defs config = .failed failure) :
    visit.depth ≤ config.maxDepth ∧ visit.value.unwrap defs config.maxDepth visit.copy = .error failure := by
  unfold finding at h
  split_ifs at h with hv hdeep
  cases hu : visit.value.unwrap defs config.maxDepth visit.copy with
  | error f =>
    rw [hu] at h
    exact ⟨not_lt.mp hdeep, congrArg Except.error (Finding.failed.inj h)⟩
  | ok c =>
    simp only [hu] at h
    split_ifs at h

/-- The block of a visit has no gap if the value can be written and the visits that it makes have no gap. -/
theorem gapsIn_blockWith (hc : config.GapsIn P) {visit : Visit} (hdepth : 0 ≤ visit.depth) (h : ObstructedBy P defs visit.value)
    {block : Visit → Rendering} {page : Page} (hpage : visit.blockWith defs config block = .ok page)
    (hnested : ∀ next ∈ visit.nested defs config, ∀ p : Page, block next = .ok p → p.text.GapsIn P) :
    page.text.GapsIn P := by
  unfold blockWith at hpage
  cases hf : visit.finding defs config with
  | cycle w =>
    rw [hf] at hpage
    obtain rfl := Except.ok.inj hpage
    exact hc.recursionMarker
  | tooDeep =>
    rw [hf] at hpage
    obtain rfl := Except.ok.inj hpage
    exact hc.depthMarker
  | failed failure =>
    obtain ⟨hlimit, hunwrap⟩ := finding_failed hf
    have hmarker := h.marker_of_unwrap hc (hdepth.trans hlimit) hunwrap
    rw [hf] at hpage
    obtain rfl := Except.ok.inj hpage
    simp [failureBlock, hmarker]
  | opened canonical copy =>
    obtain ⟨-, hlimit, hunwrap, -⟩ := finding_opened hf
    simp only [hf, blockWith_eq] at hpage
    obtain ⟨parts, hparts, rfl⟩ := Except.map_eq_ok.mp hpage
    obtain ⟨layout, hlayout, hrender⟩ := Except.bind_eq_ok.mp hparts
    have hcanonical := h.below (reaches_of_unwrap hunwrap)
    have hgap : parts.text.GapsIn P := by
      refine gapsIn_renderParts hrender (hcanonical.partsGapsIn hc (hdepth.trans hlimit) hlayout) fun w hw p hp => ?_
      refine hnested _ ?_ p hp
      simp only [nested, hf, hlayout]
      exact List.mem_map_of_mem hw
    simpa [Page.log] using hgap

/-- A gap in a page stands for something that keeps the value from being shown. -/
theorem Renders.gapsIn (hc : config.GapsIn P) {visit : Visit} {page : Page} (h : Renders defs config visit (.ok page))
    (hdepth : 0 ≤ visit.depth) (hv : ObstructedBy P defs visit.value) : page.text.GapsIn P := by
  generalize hr : Except.ok page = r at h
  induction h generalizing page with
  | visit visit block _ ih =>
    refine gapsIn_blockWith hc hdepth hv hr.symm fun next hnext p hp => ?_
    have hnextDepth := (depth_of_mem_nested hnext).2
    exact ih next hnext (by omega) (hv.below (reaches_of_mem_nested hnext)) hp.symm

/-- What a page comes to as a whole: itself, or the exception for something that keeps its value from being shown. -/
theorem Renders.whole (hc : config.Writable) {visit : Visit} {page : Page} (h : Renders defs config visit (.ok page))
    (hdepth : 0 ≤ visit.depth) :
    page.whole = .ok page ∨ ∃ why, Obstructs defs visit.value why ∧ page.whole = .error (.ofObstacle why) := by
  cases hobstacle : page.text.obstacle? with
  | none => exact .inl (by rw [Page.whole, hobstacle])
  | some why =>
    have hwhy : Obstructs defs visit.value why :=
      h.gapsIn hc.gapsIn hdepth (fun _ hwhy => hwhy) why (Text.mem_of_obstacle? hobstacle)
    exact .inr ⟨why, hwhy, by rw [Page.whole, hobstacle]⟩

end Visit

end Schematic
