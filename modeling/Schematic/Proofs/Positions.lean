import Schematic.Proofs.Cutting

/-! The signature of a tuple lists its items and then its rest. Whether a separator stands before the rest is
settled by the text of the items and not by their number, so a single item that shows nothing loses its
position. Which items these are is said by their structure. -/
namespace Schematic

@[simp] theorem Text.ofString_eq_nil_iff {s : String} : Text.ofString s = [] ↔ s = "" := by
  simp [Text.ofString]

theorem withConstraints_ne_nil {name : Text} (h : name ≠ []) (lines : List Text) : withConstraints name lines ≠ [] := by
  cases lines <;> simp [withConstraints, h]

theorem join_concat {separator : Text} {parts : List Text} (h : parts ≠ []) (last : Text) :
    Text.join separator (parts ++ [last]) = Text.join separator parts ++ separator ++ last := by
  induction parts using Text.join.induct with
  | case1 => exact (h rfl).elim
  | case2 part => rfl
  | case3 part next rest ih =>
    simp only [List.cons_append] at ih
    simp only [List.cons_append, Text.join, ih (List.cons_ne_nil _ _), List.append_assoc]

theorem join_eq_nil_iff {separator : Text} (hseparator : separator ≠ []) {parts : List Text} :
    Text.join separator parts = [] ↔ parts = [] ∨ parts = [[]] := by
  induction parts using Text.join.induct with
  | case1 => simp [Text.join]
  | case2 part => simp [Text.join]
  | case3 part next rest => simp [Text.join, hseparator]

def restEntry (child : Value → Text) : Value → List Text
  | .null => []
  | rest => ["..." ++ child rest ++ "[]"]

/-- The entries of the signature of a tuple, one for each position. -/
def tupleEntries (child : Value → Text) (items : List Descriptor) (rest : Value) : List Text :=
  items.map (fun item => child (.node item)) ++ restEntry child rest

theorem restEntry_of_ne_null (child : Value → Text) {rest : Value} (h : rest ≠ .null) :
    restEntry child rest = ["..." ++ child rest ++ "[]"] := by
  cases rest with
  | null => exact (h rfl).elim
  | _ => rfl

/-- A text before the rest is not empty unless there is no item, or one without a text. -/
theorem tuplePositions_some {items : List Text} (h : items ≠ [[]]) (rest : Text) :
    tuplePositions items (some rest) = Text.join ", " (items ++ ["..." ++ rest ++ "[]"]) := by
  by_cases hitems : items = []
  · rw [hitems]
    rfl
  · have hlisted : Text.join ", " items ≠ [] := by
      rw [Ne, join_eq_nil_iff (by decide)]
      exact not_or.mpr ⟨hitems, h⟩
    simp [tuplePositions, hlisted, join_concat hitems]

section Tuple

variable {child : Value → Text} {i : Identity} {description rest : Value} {items : List Descriptor}

theorem signatureWith_tuple_of_listed (h : rest = .null ∨ items.map (fun item => child (.node item)) ≠ [[]]) :
    (Descriptor.mk i description (.tuple items rest)).signatureWith child =
      "[" ++ Text.join ", " (tupleEntries child items rest) ++ "]" := by
  by_cases hrest : rest = .null
  · simp only [hrest, Descriptor.signatureWith, Descriptor.body, tuplePositions, tupleEntries, restEntry, List.append_nil]
  · have hitems := h.resolve_left hrest
    simp only [Descriptor.signatureWith, Descriptor.body, tuplePositions_some hitems, tupleEntries,
      restEntry_of_ne_null child hrest]

/-- A single item without a text leaves the rest alone in the list. -/
theorem signatureWith_tuple_of_lost (hrest : rest ≠ .null) (h : items.map (fun item => child (.node item)) = [[]]) :
    (Descriptor.mk i description (.tuple items rest)).signatureWith child =
      "[" ++ Text.join ", " (restEntry child rest) ++ "]" := by
  simp only [Descriptor.signatureWith, Descriptor.body, h, restEntry_of_ne_null child hrest]
  rfl

end Tuple

/-- A descriptor whose signature of this many levels is empty. -/
inductive Descriptor.ShowsNothing (marker : Text) : (levels : Nat) → Descriptor → Prop
  | cut (d : Descriptor) (empty : marker = []) : ShowsNothing marker 0 d
  | noOption {levels : Nat} {i : Identity} {description : Value} :
      ShowsNothing marker (levels + 1) (.mk i description (.union []))
  | oneOption {levels : Nat} {i : Identity} {description : Value} {option : Descriptor}
      (below : ShowsNothing marker levels option) : ShowsNothing marker (levels + 1) (.mk i description (.union [option]))
  | withDefault {levels : Nat} {i : Identity} {description value factory : Value} {inner : Descriptor}
      (below : ShowsNothing marker levels inner) :
      ShowsNothing marker (levels + 1) (.mk i description (.modified (.default value factory) inner))

theorem signatureIn_eq_nil_iff {marker : Text} {levels : Nat} {d : Descriptor} :
    (Value.node d).signatureIn marker levels = [] ↔ d.ShowsNothing marker levels := by
  constructor
  · intro h
    induction levels generalizing d with
    | zero => exact .cut d h
    | succ levels ih =>
      obtain ⟨i, description, body⟩ := d
      rw [signatureIn_node] at h
      cases body with
      | union options =>
        rcases (join_eq_nil_iff (by decide)).mp h with hnone | hone
        · rw [List.map_eq_nil_iff.mp hnone]
          exact .noOption
        · obtain ⟨option, rfl, hoption⟩ := List.map_eq_singleton_iff.mp hone
          exact .oneOption (ih hoption)
      | modified m inner =>
        cases m with
        | default value factory => exact .withDefault (ih h)
        | _ => simp [Descriptor.signatureWith, Descriptor.body, Modifier.toKind, Kind.tag] at h
      | primitive p => cases p <;> cases h
      | string | number =>
        simp only [Descriptor.signatureWith, Descriptor.body] at h
        exact (withConstraints_ne_nil (by decide) _ h).elim
      | _ => simp [Descriptor.signatureWith, Descriptor.body, Kind.tag] at h
  · intro h
    induction h with
    | cut d empty => exact empty
    | noOption => rfl
    | oneOption _ ih => exact ih
    | withDefault _ ih => exact ih

/-- The signature of a tuple has an entry for each position, unless a rest follows a single item that shows nothing. The
position of that item is lost: the signature is that of a tuple without items. Below depth zero the tuple itself is
cut. -/
theorem signature_tuple_eq_iff (i : Identity) (description rest : Value) (items : List Descriptor) (m : Nat)
    (marker : Text) :
    ((Value.node (.mk i description (.tuple items rest))).signature m marker =
        "[" ++ Text.join ", " (tupleEntries (Value.signatureIn marker m) items rest) ++ "]" ↔
      ¬ (rest ≠ .null ∧ ∃ item, items = [item] ∧ item.ShowsNothing marker m)) ∧
    (rest ≠ .null → (tupleEntries (Value.signatureIn marker m) items rest).length = items.length + 1 ∧
      ∀ item, item.ShowsNothing marker m →
        (Value.node (.mk i description (.tuple [item] rest))).signature m marker =
          (Value.node (.mk i description (.tuple [] rest))).signature m marker) ∧
    ∀ maxDepth : Int, maxDepth < 0 →
      (Value.node (.mk i description (.tuple items rest))).signature maxDepth marker = marker := by
  have hsignature : ∀ items, (Value.node (.mk i description (.tuple items rest))).signature m marker =
      (Descriptor.mk i description (.tuple items rest)).signatureWith (Value.signatureIn marker m) :=
    fun _ => signatureIn_node _ _ _
  have hlost : ∀ items : List Descriptor, (∃ item, items = [item] ∧ item.ShowsNothing marker m) ↔
      items.map (fun item => (Value.node item).signatureIn marker m) = [[]] := by
    simp only [List.map_eq_singleton_iff, signatureIn_eq_nil_iff, implies_true]
  refine ⟨?_, fun hrest => ⟨by simp [tupleEntries, restEntry_of_ne_null _ hrest], fun item hitem => ?_⟩,
    fun maxDepth hnegative => ?_⟩
  · rw [hsignature, hlost]
    constructor
    · rintro hlisted ⟨hrest, hitems⟩
      rw [signatureWith_tuple_of_lost hrest hitems, tupleEntries, hitems, restEntry_of_ne_null _ hrest] at hlisted
      have hlength := congrArg List.length hlisted
      simp [Text.join] at hlength
    · intro h
      exact signatureWith_tuple_of_listed (or_iff_not_imp_left.mpr fun hrest hitems => h ⟨hrest, hitems⟩)
  · have hnone : ([] : List Descriptor).map (fun item => (Value.node item).signatureIn marker m) ≠ [[]] := by simp
    rw [hsignature, hsignature, signatureWith_tuple_of_lost hrest ((hlost _).mp ⟨item, rfl, hitem⟩),
      signatureWith_tuple_of_listed (.inr hnone)]
    rfl
  · have hlevels : Value.levels maxDepth 0 = 0 := Int.toNat_of_nonpos (by omega)
    rw [Value.signature, hlevels]
    rfl

def choiceless : Descriptor := .mk ⟨0, [0], 0⟩ .null (.union [])

def restOfTexts : Descriptor := .mk ⟨0, [1], 0⟩ .null (.string [])

/-- A union without options, followed by any number of texts. -/
def choicelessTuple : Descriptor := .mk ⟨0, [], 0⟩ .null (.tuple [choiceless] (.node restOfTexts))

theorem wellTyped_choicelessTuple : WellTyped [] (.node choicelessTuple) := by
  refine wellTyped_node ⟨.inl rfl, .inr ⟨_, rfl⟩⟩ fun w hw => ?_
  cases hw with
  | field child =>
    rcases List.mem_pair.mp child with rfl | rfl <;>
      exact wellTyped_node ⟨.inl rfl, trivial⟩ fun w hw => by
        cases hw with
        | field child => cases child

/-- The union has a position of its own, and its signature is empty; no entry stands for it. -/
theorem signature_choicelessTuple_ne : WellTyped [] (.node choicelessTuple) ∧
    "[" ++ Text.join ", " (tupleEntries (Value.signatureIn "<truncated>" 64) [choiceless] (.node restOfTexts)) ++ "]" =
      Text.ofString "[, ...string[]]" ∧
    (Value.node choicelessTuple).signature 64 "<truncated>" = "[...string[]]" ∧
    (Value.node choicelessTuple).signature 64 "<truncated>" ≠
      "[" ++ Text.join ", " (tupleEntries (Value.signatureIn "<truncated>" 64) [choiceless] (.node restOfTexts)) ++ "]" :=
  ⟨wellTyped_choicelessTuple, by decide, by decide, by decide⟩

end Schematic
