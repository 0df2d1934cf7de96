import Schematic.Proofs.Making
import Schematic.Proofs.ReadingBack
import Schematic.Proofs.SingleLine

/-! A container is shown as compact JSON, from which it is read back, or by the placeholder, if something
stands in it that JSON cannot hold. A set at the top stands for the list of its items in the order of their
written forms; if one of these cannot be written, there is no such order, and nothing is said here. -/
namespace Schematic

/-- A value by which JSON can name a member: a text, a number, a truth value or null. -/
def Value.IsPlainKey : Value → Prop
  | .text _ | .int _ | .float _ | .bool _ | .null => True
  | _ => False

/-- What JSON cannot hold: a set, bytes, a callable, an absent value or any other object, a container that contains
itself, a number that is not finite, and a dictionary with a key that is not plain. -/
def Value.IsObstacle : Value → Prop
  | .set _ | .frozenset _ | .bytes _ | .callable _ _ | .absent => True
  | .pattern _ _ | .exotic _ | .unshown _ _ | .foreign _ _ _ _ | .node _ => True
  | .cyclicList _ | .cyclicDict _ => True
  | .float x => x.isFinite = false
  | .dict entries => ∃ e ∈ entries, ¬ e.1.IsPlainKey
  | _ => False

/-- An integer of so many digits that it is not written. -/
def Value.IsOverlong : Value → Prop
  | .int n => Text.integerBound ≤ n.natAbs
  | _ => False

theorem hasGap_ofInt (n : Int) : (Text.ofInt n).hasGap = true ↔ Text.integerBound ≤ n.natAbs := by
  by_cases hlong : Text.integerBound ≤ n.natAbs
  · simp [Text.ofInt, hlong, Text.hasGap]
  · by_cases hn : n < 0 <;> simp [Text.ofInt, hlong, hn, Text.hasGap]

namespace Json

theorem isSome_key?_iff (k : Value) : (key? k).isSome ↔ k.IsPlainKey ∧ (write? k).isSome := by
  cases k <;> simp [key?, write?, Value.IsPlainKey]

theorem isSome_writeItems?_iff (items : List Value) : (writeItems? items).isSome ↔ ∀ v ∈ items, (write? v).isSome := by
  induction items with
  | nil => simp [writeItems?]
  | cons v items ih =>
    rw [List.forall_mem_cons, ← ih, writeItems?]
    cases write? v <;> cases writeItems? items <;> simp

theorem isSome_writeEntries?_iff (entries : List (Value × Value)) :
    (writeEntries? entries).isSome ↔ ∀ e ∈ entries, (key? e.1).isSome ∧ (write? e.2).isSome := by
  induction entries with
  | nil => simp [writeEntries?]
  | cons entry entries ih =>
    obtain ⟨k, v⟩ := entry
    rw [List.forall_mem_cons, ← ih, writeEntries?]
    cases key? k <;> cases write? v <;> cases writeEntries? entries <;> simp

/-- One step: a value can be written if and only if it is in no way's way and its parts can be written. -/
theorem isSome_write?_iff_parts (v : Value) :
    (write? v).isSome ↔ ¬ (v.IsObstacle ∨ v.IsOverlong) ∧ ∀ w ∈ v.parts, (write? w).isSome := by
  cases v with
  | int n =>
    simp only [write?, writeInt?, Value.IsObstacle, Value.IsOverlong, Value.parts, ← hasGap_ofInt]
    cases (Text.ofInt n).hasGap <;> simp
  | float x =>
    simp only [write?, writeFloat?, Value.IsObstacle, Value.IsOverlong, Value.parts]
    cases x.isFinite <;> simp
  | list items | tuple items => simp [write?, Value.IsObstacle, Value.IsOverlong, Value.parts, isSome_writeItems?_iff]
  | dict entries =>
    simp only [write?, Value.IsObstacle, Value.IsOverlong, Value.parts, Option.isSome_map, isSome_writeEntries?_iff,
      isSome_key?_iff, List.forall_mem_append, List.forall_mem_map, or_false, not_exists, not_and, not_not]
    grind
  | _ => simp [write?, Value.IsObstacle, Value.IsOverlong, Value.parts]

theorem isSome_write?_of_holds {v w : Value} (h : (write? v).isSome) (hw : v.Holds w) : (write? w).isSome := by
  induction hw with
  | refl => exact h
  | tail _ hpart ih => exact ((isSome_write?_iff_parts _).mp ih).2 _ hpart

mutual

theorem isSome_write?_of_free : ∀ v : Value, (∀ w, v.Holds w → ¬ (w.IsObstacle ∨ w.IsOverlong)) → (write? v).isSome
  | .list items | .tuple items => fun h => (isSome_write?_iff_parts _).mpr
    ⟨h _ .refl, isSome_items_of_free items fun _ hv w hw => h w (.head hv hw)⟩
  | .dict entries => by
    intro h
    have hentries := isSome_entries_of_free entries fun e he =>
      ⟨fun w hw => h w (.head (List.mem_append_left _ (List.mem_map_of_mem he)) hw),
        fun w hw => h w (.head (List.mem_append_right _ (List.mem_map_of_mem he)) hw)⟩
    refine (isSome_write?_iff_parts _).mpr ⟨h _ .refl, List.forall_mem_append.mpr ⟨?_, ?_⟩⟩
    · exact List.forall_mem_map.mpr fun e he => (hentries e he).1
    · exact List.forall_mem_map.mpr fun e he => (hentries e he).2
  | .null | .bool _ | .int _ | .float _ | .text _ => fun h =>
    (isSome_write?_iff_parts _).mpr ⟨h _ .refl, fun _ hw => (List.not_mem_nil hw).elim⟩
  | .absent | .bytes _ | .set _ | .frozenset _ | .cyclicList _ | .cyclicDict _ | .pattern _ _ | .exotic _ | .unshown _ _
  | .callable _ _ | .foreign _ _ _ _ | .node _ => fun h => (h _ .refl (.inl trivial)).elim

theorem isSome_items_of_free : ∀ items : List Value,
    (∀ v ∈ items, ∀ w, v.Holds w → ¬ (w.IsObstacle ∨ w.IsOverlong)) → ∀ v ∈ items, (write? v).isSome
  | [] => fun _ => by simp
  | v :: items => fun h => List.forall_mem_cons.mpr
    ⟨isSome_write?_of_free v (List.forall_mem_cons.mp h).1, isSome_items_of_free items (List.forall_mem_cons.mp h).2⟩

theorem isSome_entries_of_free : ∀ entries : List (Value × Value),
    (∀ e ∈ entries, (∀ w, e.1.Holds w → ¬ (w.IsObstacle ∨ w.IsOverlong)) ∧
      ∀ w, e.2.Holds w → ¬ (w.IsObstacle ∨ w.IsOverlong)) →
    ∀ e ∈ entries, (write? e.1).isSome ∧ (write? e.2).isSome
  | [] => fun _ => by simp
  | (k, v) :: entries => fun h => List.forall_mem_cons.mpr
    ⟨⟨isSome_write?_of_free k (List.forall_mem_cons.mp h).1.1, isSome_write?_of_free v (List.forall_mem_cons.mp h).1.2⟩,
      isSome_entries_of_free entries (List.forall_mem_cons.mp h).2⟩

end

/-- A value can be written if and only if nothing stands in it, however deep, that JSON cannot hold. -/
theorem isSome_write?_iff (v : Value) : (write? v).isSome ↔ ∀ w, v.Holds w → ¬ (w.IsObstacle ∨ w.IsOverlong) :=
  ⟨fun h w hw => ((isSome_write?_iff_parts w).mp (isSome_write?_of_holds h hw)).1, isSome_write?_of_free v⟩

end Json

mutual

def Value.withLists : Value → Value
  | .list items | .tuple items => .list (itemsWithLists items)
  | .dict entries => .dict (entriesWithLists entries)
  | v => v

def itemsWithLists : List Value → List Value
  | [] => []
  | v :: vs => v.withLists :: itemsWithLists vs

def entriesWithLists : List (Value × Value) → List (Value × Value)
  | [] => []
  | (k, v) :: rest => (k, v.withLists) :: entriesWithLists rest

end

/-- The keys of every dictionary in a value are texts, no two of them the same. -/
def Value.HasTextKeys (v : Value) : Prop := ∀ entries, v.Holds (.dict entries) → Entries.Keyed entries

theorem Value.HasTextKeys.part {v w : Value} (h : v.HasTextKeys) (hw : w ∈ v.parts) : w.HasTextKeys :=
  fun entries hentries => h entries (.head hw hentries)

theorem Value.HasTextKeys.of_parts {v : Value} (hdict : ∀ entries, v = .dict entries → Entries.Keyed entries)
    (hparts : ∀ w ∈ v.parts, w.HasTextKeys) : v.HasTextKeys := by
  intro entries hentries
  rcases Relation.ReflTransGen.cases_head hentries with heq | ⟨w, hw, hentries⟩
  · exact hdict entries heq
  · exact hparts w hw entries hentries

theorem map_fst_entriesWithLists (entries : List (Value × Value)) :
    (entriesWithLists entries).map Prod.fst = entries.map Prod.fst := by
  induction entries with
  | nil => rfl
  | cons entry entries ih =>
    obtain ⟨k, v⟩ := entry
    rw [entriesWithLists, List.map_cons, List.map_cons, ih]

mutual

theorem image_eq_withLists : ∀ v : Value, v.HasTextKeys → v.image = v.withLists
  | .list items | .tuple items => fun h => by
    rw [Value.image, Value.withLists, images_eq_itemsWithLists items fun v hv => h.part hv]
  | .dict entries => fun h => by
    have hkeyed : Entries.Keyed entries := h entries .refl
    have himages := imageEntries_eq_entriesWithLists entries hkeyed.texts fun e he =>
      h.part (List.mem_append_right _ (List.mem_map_of_mem he))
    rw [Value.image, Value.withLists, himages,
      Entries.ofList_eq_self (hkeyed.of_keys (map_fst_entriesWithLists entries))]
  | .null | .bool _ | .int _ | .float _ | .text _ | .absent | .bytes _ | .set _ | .frozenset _ | .cyclicList _
  | .cyclicDict _ | .pattern _ _ | .exotic _ | .unshown _ _ | .callable _ _ | .foreign _ _ _ _ | .node _ => fun _ => by
    rw [Value.image, Value.withLists] <;> simp

theorem images_eq_itemsWithLists : ∀ items : List Value, (∀ v ∈ items, v.HasTextKeys) →
    images items = itemsWithLists items
  | [] => fun _ => rfl
  | v :: items => fun h => by
    rw [images, itemsWithLists, image_eq_withLists v (List.forall_mem_cons.mp h).1,
      images_eq_itemsWithLists items (List.forall_mem_cons.mp h).2]

theorem imageEntries_eq_entriesWithLists : ∀ entries : List (Value × Value), (∀ e ∈ entries, e.1.IsText) →
    (∀ e ∈ entries, e.2.HasTextKeys) → imageEntries entries = entriesWithLists entries
  | [] => fun _ _ => rfl
  | (k, v) :: entries => fun htexts h => by
    obtain ⟨⟨t, rfl⟩, hrest⟩ := List.forall_mem_cons.mp htexts
    rw [imageEntries, entriesWithLists, image_eq_withLists v (List.forall_mem_cons.mp h).1,
      imageEntries_eq_entriesWithLists entries hrest (List.forall_mem_cons.mp h).2]
    rfl

end

namespace Json

def outside : (inText isEscaped : Bool) → Text → Text
  | _, _, [] => []
  | false, _, c :: rest => if c = CodePoint.char '"' then outside true false rest else c :: outside false false rest
  | true, true, _ :: rest => outside true false rest
  | true, false, c :: rest => outside (c ≠ CodePoint.char '"') (c = CodePoint.char '\\') rest

/-- There is no blank but in the texts between quotes. -/
def IsCompact (t : Text) : Prop := ∀ c ∈ outside false false t, isBlank c = false

/-- A piece with no blank outside quotes, and with all its quotes closed. -/
def IsTight (t : Text) : Prop := ∀ rest, IsCompact rest → IsCompact (t ++ rest)

theorem IsTight.isCompact {t : Text} (h : IsTight t) : IsCompact t := by
  simpa using h [] (by simp [IsCompact, outside])

theorem isTight_nil : IsTight [] := fun _ h => h

theorem IsTight.append {t u : Text} (ht : IsTight t) (hu : IsTight u) : IsTight (t ++ u) := fun rest h => by
  rw [List.append_assoc]
  exact ht _ (hu _ h)

theorem isTight_of_forall {t : Text} (h : ∀ c ∈ t, c ≠ CodePoint.char '"' ∧ isBlank c = false) : IsTight t := by
  induction t with
  | nil => exact isTight_nil
  | cons c t ih =>
    obtain ⟨⟨hquote, hblank⟩, ht⟩ := List.forall_mem_cons.mp h
    intro rest hrest
    have hrest := ih ht rest hrest
    simpa [IsCompact, outside, hquote, hblank] using hrest

theorem outside_hex (width n : Nat) (rest : Text) :
    outside true false (Text.hex width n ++ rest) = outside true false rest := by
  induction width generalizing n rest with
  | zero => rfl
  | succ width ih =>
    have hdigit : ∀ d < 16, CodePoint.char (Nat.digitChar d) ≠ CodePoint.char '"' ∧
        CodePoint.char (Nat.digitChar d) ≠ CodePoint.char '\\' := by decide
    obtain ⟨hquote, hslash⟩ := hdigit (n % 16) (Nat.mod_lt n (by decide))
    rw [Text.hex, List.append_assoc, ih, List.singleton_append, outside]
    simp [hquote, hslash]

theorem outside_escapeChar (c : CodePoint) (rest : Text) :
    outside true false (escapeChar c ++ rest) = outside true false rest := by
  have hhex := outside_hex 4 c.toNat rest
  unfold escapeChar
  split_ifs <;> simp [Text.ofString, outside, *]

theorem isTight_writeText (t : Text) : IsTight (writeText t) := by
  have hbody : ∀ rest, outside true false (t.flatMap escapeChar ++ rest) = outside true false rest := by
    induction t with
    | nil => exact fun _ => rfl
    | cons c t ih =>
      intro rest
      rw [List.flatMap_cons, List.append_assoc, outside_escapeChar, ih]
  intro rest hrest
  simpa [IsCompact, writeText, outside, hbody] using hrest

theorem isTight_join {parts : List Text} (h : ∀ t ∈ parts, IsTight t) : IsTight (Text.join "," parts) := by
  have hcomma : IsTight "," := isTight_of_forall (by decide)
  induction parts with
  | nil => exact isTight_nil
  | cons part parts ih =>
    obtain ⟨hpart, hparts⟩ := List.forall_mem_cons.mp h
    cases parts with
    | nil => exact hpart
    | cons next more => exact (hpart.append hcomma).append (ih hparts)

theorem isTight_of_isNumeric {t : Text} (h : ∀ c ∈ t, IsNumeric c) : IsTight t := by
  refine isTight_of_forall fun c hc => ?_
  rcases h c hc with hdigit | hsign
  · exact ⟨(ne_of_isDigit hdigit (by decide)).symm, isBlank_of_isDigit hdigit⟩
  · have hsigns : ∀ c ∈ [CodePoint.char '.', CodePoint.char 'e', CodePoint.char '+', CodePoint.char '-'],
        c ≠ CodePoint.char '"' ∧ isBlank c = false := by decide
    exact hsigns c hsign

mutual

theorem isTight_write? : ∀ (v : Value) (t : Text), write? v = some t → IsTight t
  | .null => by
    intro t h
    obtain rfl := Option.some.inj h
    exact isTight_of_forall (by decide)
  | .bool b => by
    intro t h
    obtain rfl := Option.some.inj h
    exact isTight_of_forall (by cases b <;> decide)
  | .int n => by
    intro t h
    rw [write?, writeInt?] at h
    obtain ⟨hgap, heq⟩ := Option.ite_none_left_eq_some.mp h
    obtain rfl := Option.some.inj heq
    exact isTight_of_isNumeric (isNumeric_ofInt (Bool.eq_false_iff.mpr hgap))
  | .float x => by
    intro t h
    rw [write?, writeFloat?] at h
    obtain ⟨hfinite, heq⟩ := Option.ite_none_right_eq_some.mp h
    obtain rfl := Option.some.inj heq
    exact isTight_of_isNumeric (isNumeric_text hfinite)
  | .text u => by
    intro t h
    obtain rfl := Option.some.inj h
    exact isTight_writeText u
  | .list items | .tuple items => by
    intro t h
    obtain ⟨parts, hparts, rfl⟩ := Option.map_eq_some_iff.mp h
    have hjoin := isTight_join (isTight_writeItems? items parts hparts)
    exact ((isTight_of_forall (by decide)).append hjoin).append (isTight_of_forall (by decide))
  | .dict entries => by
    intro t h
    obtain ⟨parts, hparts, rfl⟩ := Option.map_eq_some_iff.mp h
    have hjoin := isTight_join (isTight_writeEntries? entries parts hparts)
    exact ((isTight_of_forall (by decide)).append hjoin).append (isTight_of_forall (by decide))
  | .absent | .bytes _ | .set _ | .frozenset _ | .cyclicList _ | .cyclicDict _ | .pattern _ _ | .exotic _ | .unshown _ _
  | .callable _ _ | .foreign _ _ _ _ | .node _ => nofun

theorem isTight_writeItems? : ∀ (vs : List Value) (parts : List Text), writeItems? vs = some parts →
    ∀ t ∈ parts, IsTight t
  | [] => by
    intro parts h
    obtain rfl := Option.some.inj h
    nofun
  | v :: vs => by
    intro parts h
    rw [writeItems?] at h
    split at h
    · rename_i part rest hpart hrest
      obtain rfl := Option.some.inj h
      exact List.forall_mem_cons.mpr ⟨isTight_write? v _ hpart, isTight_writeItems? vs _ hrest⟩
    · cases h

theorem isTight_writeEntries? : ∀ (entries : List (Value × Value)) (parts : List Text),
    writeEntries? entries = some parts → ∀ t ∈ parts, IsTight t
  | [] => by
    intro parts h
    obtain rfl := Option.some.inj h
    nofun
  | (k, v) :: entries => by
    intro parts h
    rw [writeEntries?] at h
    split at h
    · rename_i key part rest _ hpart hrest
      obtain rfl := Option.some.inj h
      have hcolon : IsTight ":" := isTight_of_forall (by decide)
      have hmember := ((isTight_writeText key).append hcolon).append (isTight_write? v _ hpart)
      exact List.forall_mem_cons.mpr ⟨hmember, isTight_writeEntries? entries _ hrest⟩
    · cases h

end

end Json

def Value.opened : Value → Value
  | .set items | .frozenset items => .list items
  | v => v

theorem inWrittenOrder_perm (items : List Value) : (inWrittenOrder items).Perm items := List.mergeSort_perm _ _

theorem isSome_write?_setAsList (v : Value) : (Json.write? v.setAsList).isSome = (Json.write? v.opened).isSome := by
  have hlist : ∀ items : List Value,
      (Json.write? (.list (inWrittenOrder items))).isSome = (Json.write? (.list items)).isSome := fun items => by
    rw [Bool.eq_iff_iff]
    simp only [Json.write?, Option.isSome_map, Json.isSome_writeItems?_iff, (inWrittenOrder_perm items).mem_iff]
  cases v with
  | set items | frozenset items => exact hlist items
  | _ => rfl

theorem hasTextKeys_setAsList {v : Value} (h : v.opened.HasTextKeys) : v.setAsList.HasTextKeys := by
  have hlist : ∀ items : List Value, (Value.list items).HasTextKeys →
      (Value.list (inWrittenOrder items)).HasTextKeys := fun items h =>
    .of_parts nofun fun w hw => h.part ((inWrittenOrder_perm items).mem_iff.mp hw)
  cases v with
  | set items | frozenset items => exact hlist items h
  | _ => exact h

theorem token_structured {v : Value} (h : v.valueClass = .structured) (hwritten : v.hasUnwrittenItem = false) :
    v.token = (Json.write? v.setAsList).getD placeholder := by
  have hnone : v.itemObstacle? = none := by simpa [Value.hasUnwrittenItem] using hwritten
  rw [token_of_structured h, hnone]

theorem read_placeholder : ∀ w, Json.read placeholder ≠ .ok w := by
  have hread : Json.read placeholder = .error (.malformed .expectingName 1 1 2) := rfl
  rw [hread]
  nofun

/-- A container is shown by the placeholder if and only if JSON cannot hold something that stands in it. Else it is
shown as compact JSON on a single line, which is read as the container with lists for tuples if all keys are texts. -/
theorem structured_token (v : Value) (hv : v.valueClass = .structured) (hwritten : v.hasUnwrittenItem = false) :
    (v.token = placeholder ↔ ∃ w, v.opened.Holds w ∧ (w.IsObstacle ∨ w.IsOverlong)) ∧
    (v.token ≠ placeholder →
      v.token.IsSingleLine ∧ Json.IsCompact v.token ∧ (∃ w, Json.read v.token = .ok w) ∧
      (v.opened.HasTextKeys → Json.read v.token = .ok v.setAsList.withLists)) := by
  have hsome : (Json.write? v.setAsList).isSome ↔ ∀ w, v.opened.Holds w → ¬ (w.IsObstacle ∨ w.IsOverlong) := by
    rw [isSome_write?_setAsList, Json.isSome_write?_iff]
  rw [token_structured hv hwritten]
  cases h : Json.write? v.setAsList with
  | none =>
    rw [h] at hsome
    simp only [Option.getD_none, true_iff, ne_eq, not_true, false_implies, and_true]
    by_contra hfree
    exact absurd (hsome.mpr fun w hw hbad => hfree ⟨w, hw, hbad⟩) (by simp)
  | some t =>
    rw [h] at hsome
    have hread := Json.read_write? h
    have hne : t ≠ placeholder := by
      rintro rfl
      exact read_placeholder _ hread
    refine ⟨⟨fun heq => (hne heq).elim, fun ⟨w, hw, hbad⟩ => (hsome.mp rfl w hw hbad).elim⟩, fun _ => ?_⟩
    refine ⟨Json.isSingleLine_write? _ t h, (Json.isTight_write? _ t h).isCompact, ⟨_, hread⟩, fun hkeys => ?_⟩
    rw [← image_eq_withLists _ (hasTextKeys_setAsList hkeys)]
    exact hread

def mixedSet : Value := .set [.text "b", .tuple [.null, .bool true], .text "a"]

theorem setAsList_mixedSet : mixedSet.setAsList = .list [.text "a", .text "b", .tuple [.null, .bool true]] := by
  have hpair : Text.le (Value.text "b").written (Value.tuple [.null, .bool true]).written = true := by decide
  have htexts : Text.le (Value.text "b").written (Value.text "a").written = false := by decide
  simp [mixedSet, Value.setAsList, inWrittenOrder, List.mergeSort, hpair, htexts]

/-- The items of a set are put in order and read back, a tuple among them as a list. -/
theorem mixedSet_token : mixedSet.valueClass = .structured ∧ mixedSet.hasUnwrittenItem = false ∧
    mixedSet.token = "[\"a\",\"b\",[null,true]]" ∧
    Json.read mixedSet.token = .ok (.list [.text "a", .text "b", .list [.null, .bool true]]) := by
  have hwritten : mixedSet.hasUnwrittenItem = false := by decide
  have htoken : mixedSet.token = "[\"a\",\"b\",[null,true]]" := by
    rw [token_structured rfl hwritten, setAsList_mixedSet]
    decide
  have hread := ((structured_token mixedSet rfl hwritten).2 (by rw [htoken]; decide)).2.2.2 ?_
  · rw [setAsList_mixedSet] at hread
    exact ⟨rfl, hwritten, htoken, hread⟩
  · have hleaf : ∀ v : Value, v.parts = [] → (∀ entries, v ≠ .dict entries) → v.HasTextKeys := fun v hparts hdict =>
      .of_parts (fun entries heq => (hdict entries heq).elim) (by simp [hparts])
    have hpair : (Value.tuple [.null, .bool true]).HasTextKeys := .of_parts (by simp) (by
      simp only [Value.parts, List.forall_mem_cons]
      exact ⟨hleaf _ rfl (by simp), hleaf _ rfl (by simp), by simp⟩)
    refine .of_parts (by simp [mixedSet, Value.opened]) ?_
    simp only [mixedSet, Value.opened, Value.parts, List.forall_mem_cons]
    exact ⟨hleaf _ rfl (by simp), hpair, hleaf _ rfl (by simp), by simp⟩

/-- A fraction with a numerator of so many digits that it is not written. -/
def longFraction : Value := .exotic (Exotic.ofRatio default ⟨false, Text.integerBound, 1⟩)

/-- In a set such a fraction keeps the items from being put in order, and no placeholder is shown. In a list it is. -/
theorem longFraction_token : (∃ w, (Value.set [longFraction]).opened.Holds w ∧ w.IsObstacle) ∧
    (Value.set [longFraction]).token ≠ placeholder ∧ (Value.list [longFraction]).token = placeholder := by
  refine ⟨⟨longFraction, .single (by simp [Value.opened, Value.parts]), trivial⟩, ?_, rfl⟩
  have hitem : (Value.set [longFraction]).itemObstacle? = some .tooManyDigits := by
    have hlong : longFraction.written.obstacle? = some .tooManyDigits := Exotic.obstacle?_written_ofRatio default le_rfl
    simp [Value.itemObstacle?, hlong, leastObstacle?]
  rw [token_of_structured rfl, hitem]
  decide

end Schematic
