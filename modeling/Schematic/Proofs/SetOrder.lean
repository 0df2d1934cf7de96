import Schematic.Proofs.StackFlags
import Schematic.Proofs.WrittenForms

/-! The items of a set come in another order in each run, and what JSON cannot hold may be written
differently. A set is shown the same way all the same: the items that JSON can hold have one order, as their
written forms differ, and a single item that it cannot hold makes the placeholder in each run. -/
namespace Schematic

namespace Text

theorem le_iff (t u : Text) : le t u = true ↔ t.map CodePoint.toNat ≤ u.map CodePoint.toNat := by
  rw [← not_lt]
  induction t generalizing u with
  | nil => simp [le]
  | cons c t ih =>
    cases u with
    | nil => simp [le]
    | cons d u =>
      simp only [le, Bool.or_eq_true, Bool.and_eq_true, decide_eq_true_eq, beq_iff_eq, ih, List.map_cons,
        List.cons_lt_cons_iff]
      grind

theorem le_total (t u : Text) : (le t u || le u t) = true := by
  simpa [le_iff] using LinearOrder.le_total (t.map CodePoint.toNat) (u.map CodePoint.toNat)

theorem le_trans {t u v : Text} (htu : le t u = true) (huv : le u v = true) : le t v = true :=
  (le_iff t v).mpr (((le_iff t u).mp htu).trans ((le_iff u v).mp huv))

theorem map_toNat_inj {t u : Text} (ht : t.hasGap = false) (hu : u.hasGap = false)
    (h : t.map CodePoint.toNat = u.map CodePoint.toNat) : t = u := by
  induction t generalizing u with
  | nil => exact (List.map_eq_nil_iff.mp h.symm).symm
  | cons c t ih =>
    cases u with
    | nil => cases h
    | cons d u =>
      obtain ⟨hcode, hrest⟩ := List.cons.inj h
      simp only [hasGap, obstacle?_cons, Option.isSome_or, Bool.or_eq_false_iff, Option.isSome_eq_false_iff,
        Option.isNone_iff_eq_none] at ht hu
      rw [CodePoint.toNat_inj ht.1 hu.1 hcode, ih (by simp [hasGap, ht.2]) (by simp [hasGap, hu.2]) hrest]

theorem le_antisymm {t u : Text} (ht : t.hasGap = false) (hu : u.hasGap = false) (htu : le t u = true)
    (hut : le u t = true) : t = u :=
  map_toNat_inj ht hu (((le_iff t u).mp htu).antisymm ((le_iff u t).mp hut))

end Text

namespace Obstacle

def rank (why : Obstacle) : List Nat ×ₗ List Nat :=
  toLex ((Text.ofString why.className).map CodePoint.toNat, (Text.ofString why.message).map CodePoint.toNat)

theorem toNats_injective : Function.Injective fun s : String => (Text.ofString s).map CodePoint.toNat := by
  intro s t h
  have htexts := Text.map_toNat_inj (Text.hasGap_ofString s) (Text.hasGap_ofString t) h
  exact String.toList_inj.mp (List.map_injective_iff.mpr (fun _ _ => CodePoint.char.inj) htexts)

theorem rank_injective : Function.Injective rank := by
  rintro ⟨className, message⟩ ⟨className', message'⟩ h
  obtain ⟨hclass, hmessage⟩ := Prod.mk.inj (toLex_inj.mp h)
  rw [mk.injEq]
  exact ⟨toNats_injective hclass, toNats_injective hmessage⟩

theorem le_iff (a b : Obstacle) : a.le b = true ↔ a.rank ≤ b.rank := by
  rw [rank, rank, Prod.Lex.toLex_le_toLex]
  unfold le
  split_ifs with hclass
  · simp [hclass, Text.le_iff]
  · have hne := toNats_injective.ne hclass
    simp only [Text.le_iff, le_iff_lt_or_eq, hne, or_false, false_and]

theorem rank_least (a b : Obstacle) : (a.least b).rank = min a.rank b.rank := by
  unfold least
  split_ifs with h
  · exact (min_eq_left ((le_iff a b).mp h)).symm
  · exact (min_eq_right (not_le.mp (mt (le_iff a b).mpr h)).le).symm

theorem least_comm (a b : Obstacle) : a.least b = b.least a :=
  rank_injective (by rw [rank_least, rank_least, min_comm])

theorem least_left_comm (a b c : Obstacle) : a.least (b.least c) = b.least (a.least c) :=
  rank_injective (by simp only [rank_least, min_left_comm])

end Obstacle

theorem leastObstacle?_perm {obstacles others : List Obstacle} (h : obstacles.Perm others) :
    leastObstacle? obstacles = leastObstacle? others := by
  induction h with
  | nil => rfl
  | cons why _ ih => rw [leastObstacle?, leastObstacle?, ih]
  | swap a b more =>
    simp only [leastObstacle?]
    cases leastObstacle? more with
    | none => exact congrArg some (Obstacle.least_comm b a)
    | some c => exact congrArg some (Obstacle.least_left_comm b a c)
  | trans _ _ ih ih' => exact ih.trans ih'

theorem inWrittenOrder_pairwise (items : List Value) :
    (inWrittenOrder items).Pairwise fun a b => Text.le a.written b.written = true := by
  have htrans : ∀ a b c : Value, Text.le a.written b.written = true → Text.le b.written c.written = true →
      Text.le a.written c.written = true := fun _ _ _ => Text.le_trans
  exact List.pairwise_mergeSort htrans (fun a b => Text.le_total a.written b.written) items

/-- Items that JSON can hold have one order, whichever way they come, if all of them can be written. -/
theorem inWrittenOrder_eq_of_perm {items others : List Value} (h : items.Perm others) (hheld : ∀ v ∈ items, v.IsHeld)
    (hwritten : ∀ v ∈ items, v.written.hasGap = false) : inWrittenOrder items = inWrittenOrder others := by
  have hperm : (inWrittenOrder items).Perm (inWrittenOrder others) :=
    (inWrittenOrder_perm items).trans (h.trans (inWrittenOrder_perm others).symm)
  refine List.Perm.eq_of_pairwise ?_ (inWrittenOrder_pairwise items) (inWrittenOrder_pairwise others) hperm
  intro v w hv hw hvw hwv
  have hv := (inWrittenOrder_perm items).mem_iff.mp hv
  have hw := h.mem_iff.mpr ((inWrittenOrder_perm others).mem_iff.mp hw)
  exact (hheld v hv).written_inj (hheld w hw) (Text.le_antisymm (hwritten v hv) (hwritten w hw) hvw hwv)

/-- The values of two runs in one place: the same value, or two that JSON cannot hold. These may be written in different
ways, but if one of them cannot be written, neither can the other, for the same reason. -/
inductive Value.Corresponds : Value → Value → Prop
  | same (v : Value) : Corresponds v v
  | unheld {v w : Value} (hv : ¬ v.IsHeld) (hw : ¬ w.IsHeld) (gap : v.written.obstacle? = w.written.obstacle?) :
      Corresponds v w

/-- The items of a set in two runs, in any order. -/
def SameItems (items others : List Value) : Prop :=
  ∃ listed, items.Perm listed ∧ List.Forall₂ Value.Corresponds listed others

inductive Value.SameSet : Value → Value → Prop
  | set {items others : List Value} (h : SameItems items others) : SameSet (.set items) (.set others)
  | frozenset {items others : List Value} (h : SameItems items others) : SameSet (.frozenset items) (.frozenset others)

namespace Value.Corresponds

theorem isHeld_iff {v w : Value} (h : v.Corresponds w) : v.IsHeld ↔ w.IsHeld := by
  cases h with
  | same => rfl
  | unheld hv hw => exact iff_of_false hv hw

theorem obstacle?_eq {v w : Value} (h : v.Corresponds w) : v.written.obstacle? = w.written.obstacle? := by
  cases h with
  | same => rfl
  | unheld _ _ gap => exact gap

theorem eq_of_isHeld {v w : Value} (h : v.Corresponds w) (hv : v.IsHeld) : v = w := by
  cases h with
  | same => rfl
  | unheld hunheld => exact (hunheld hv).elim

end Value.Corresponds

namespace SameItems

variable {items others : List Value}

theorem forall_isHeld_iff (h : SameItems items others) : (∀ v ∈ items, v.IsHeld) ↔ ∀ v ∈ others, v.IsHeld := by
  obtain ⟨listed, hperm, hcorresponds⟩ := h
  simp only [hperm.mem_iff]
  clear hperm
  induction hcorresponds with
  | nil => rfl
  | cons hvw _ ih => rw [List.forall_mem_cons, List.forall_mem_cons, hvw.isHeld_iff, ih]

theorem leastObstacle?_eq (h : SameItems items others) :
    leastObstacle? (items.filterMap fun v => v.written.obstacle?) =
      leastObstacle? (others.filterMap fun v => v.written.obstacle?) := by
  obtain ⟨listed, hperm, hcorresponds⟩ := h
  rw [leastObstacle?_perm (hperm.filterMap _)]
  clear hperm
  refine congrArg leastObstacle? ?_
  induction hcorresponds with
  | nil => rfl
  | cons hvw _ ih => rw [List.filterMap_cons, List.filterMap_cons, hvw.obstacle?_eq, ih]

theorem perm (h : SameItems items others) (hheld : ∀ v ∈ items, v.IsHeld) : items.Perm others := by
  obtain ⟨listed, hperm, hcorresponds⟩ := h
  have hlisted : ∀ v ∈ listed, v.IsHeld := fun v hv => hheld v (hperm.mem_iff.mpr hv)
  have heq : listed = others := by
    clear hperm
    induction hcorresponds with
    | nil => rfl
    | cons hvw _ ih =>
      obtain ⟨hv, hmore⟩ := List.forall_mem_cons.mp hlisted
      rw [hvw.eq_of_isHeld hv, ih hmore]
  rw [← heq]
  exact hperm

/-- JSON of the list of the items in their order is the same in both runs, if there is any. -/
theorem write?_eq (h : SameItems items others) (hwritten : ∀ v ∈ items, v.written.hasGap = false) :
    Json.write? (.list (inWrittenOrder items)) = Json.write? (.list (inWrittenOrder others)) := by
  by_cases hheld : ∀ v ∈ items, v.IsHeld
  · rw [inWrittenOrder_eq_of_perm (h.perm hheld) hheld hwritten]
  · have hnone : ∀ vs : List Value, ¬ (∀ v ∈ vs, v.IsHeld) → Json.write? (.list (inWrittenOrder vs)) = none := by
      intro vs hvs
      rw [← Option.not_isSome_iff_eq_none]
      intro hsome
      exact hvs fun v hv => isHeld_list.mp hsome v ((inWrittenOrder_perm vs).mem_iff.mpr hv)
    rw [hnone items hheld, hnone others fun hothers => hheld (h.forall_isHeld_iff.mpr hothers)]

end SameItems

namespace Value.SameSet

variable {v w : Value}

theorem itemObstacle?_eq (h : v.SameSet w) : v.itemObstacle? = w.itemObstacle? := by
  cases h with
  | set h | frozenset h => exact h.leastObstacle?_eq

theorem hasUnwrittenItem_eq (h : v.SameSet w) : v.hasUnwrittenItem = w.hasUnwrittenItem := by
  rw [Value.hasUnwrittenItem, Value.hasUnwrittenItem, h.itemObstacle?_eq]

theorem hasGap_of_itemObstacle? {items : List Value}
    (h : leastObstacle? (items.filterMap fun v => v.written.obstacle?) = none) : ∀ v ∈ items, v.written.hasGap = false := by
  have hempty := isSome_leastObstacle? (items.filterMap fun v => v.written.obstacle?)
  simpa [h, List.filterMap_eq_nil_iff, Text.hasGap] using hempty

theorem token_eq (h : v.SameSet w) : v.token = w.token := by
  have hitem := h.itemObstacle?_eq
  cases h with
  | set h | frozenset h =>
    rw [token_of_structured rfl, token_of_structured rfl, hitem]
    cases hnone : Value.itemObstacle? _ with
    | some why => rfl
    | none => exact congrArg (Option.getD · placeholder) (h.write?_eq (hasGap_of_itemObstacle? (hitem.trans hnone)))

end Value.SameSet

theorem signature_literal {v w : Value} (h : v.token = w.token) (i : Identity) (description : Value) (maxDepth : Int)
    (marker : Text) :
    (Value.node (.mk i description (.literal v))).signature maxDepth marker =
      (Value.node (.mk i description (.literal w))).signature maxDepth marker := by
  unfold Value.signature
  cases Value.levels maxDepth 0 with
  | zero => rfl
  | succ levels => simp only [Value.signatureIn, Descriptor.signatureWith, Descriptor.body, h]

section Row

variable {defs : Definitions} {config : Config} {copy : Nat} {key : Value} {i : Identity} {description : Value}
  {inner : Descriptor}

/-- A row with a default depends on it through its token only. -/
theorem propertyRow_default {value factory value' factory' v w : Value}
    (hv : (Value.node (.mk i description (.modified (.default value factory) inner))).madeDefault defs 0 = .ok v)
    (hw : (Value.node (.mk i description (.modified (.default value' factory') inner))).madeDefault defs 0 = .ok w)
    (h : v.token = w.token) :
    propertyRow defs config copy key (.node (.mk i description (.modified (.default value factory) inner))) =
      propertyRow defs config copy key (.node (.mk i description (.modified (.default value' factory') inner))) := by
  have hunwrap : ∀ m, (Value.node (.mk i description (.modified m inner))).unwrap defs config.maxDepth copy =
      (Value.node inner).unwrap defs config.maxDepth copy := fun _ => unwrap_wrapper ..
  have hleft : ∀ value factory, (Value.node (.mk i description (.modified (.default value factory) inner))).mayBeLeftOut
      defs = true := fun value factory => by
    rw [Value.mayBeLeftOut, can_wrapper]
    rfl
  simp only [propertyRow, propertyCells, rowType, Value.summary, hunwrap, hleft, hv, hw, h]
  rfl

end Row

/-- A set is shown the same way in every run: alone, in a literal, and as a default. -/
theorem sameSet_shown {v w : Value} (h : v.SameSet w) :
    v.hasUnwrittenItem = w.hasUnwrittenItem ∧ v.token = w.token ∧
    (∀ i description maxDepth marker, (Value.node (.mk i description (.literal v))).signature maxDepth marker =
      (Value.node (.mk i description (.literal w))).signature maxDepth marker) ∧
    ∀ defs config copy key i description inner value factory value' factory',
      (Value.node (.mk i description (.modified (.default value factory) inner))).madeDefault defs 0 = .ok v →
      (Value.node (.mk i description (.modified (.default value' factory') inner))).madeDefault defs 0 = .ok w →
      propertyRow defs config copy key (.node (.mk i description (.modified (.default value factory) inner))) =
        propertyRow defs config copy key (.node (.mk i description (.modified (.default value' factory') inner))) :=
  ⟨h.hasUnwrittenItem_eq, h.token_eq, signature_literal h.token_eq, fun _ _ _ _ _ _ _ _ _ _ _ hv hw =>
    propertyRow_default hv hw h.token_eq⟩

/-- Two texts in both orders, also as a default in a row, and a set within a set, which is written in two ways. -/
theorem twoOrders_shown :
    (Value.set [.text "b", .text "a"]).token = (Value.set [.text "a", .text "b"]).token ∧
    propertyRow [] .standard 0 (.text "k")
        (.node (.mk default .null (.modified (.default (.set [.text "b", .text "a"]) .null) default))) =
      propertyRow [] .standard 0 (.text "k")
        (.node (.mk default .null (.modified (.default (.set [.text "a", .text "b"]) .null) default))) ∧
    (Value.set [.frozenset [.text "b", .text "a"], .null]).token =
      (Value.set [.null, .frozenset [.text "a", .text "b"]]).token := by
  have hsame : ∀ v : Value, v.Corresponds v := .same
  have htexts : (Value.set [.text "b", .text "a"]).SameSet (.set [.text "a", .text "b"]) :=
    .set ⟨_, .swap .., .cons (hsame _) (.cons (hsame _) .nil)⟩
  have hinner : (Value.frozenset [.text "b", .text "a"]).Corresponds (.frozenset [.text "a", .text "b"]) :=
    .unheld (by simp [Value.IsHeld, Json.write?]) (by simp [Value.IsHeld, Json.write?]) (by decide)
  have hsets : (Value.set [.frozenset [.text "b", .text "a"], .null]).SameSet
      (.set [.null, .frozenset [.text "a", .text "b"]]) := .set ⟨_, .swap .., .cons (hsame _) (.cons hinner .nil)⟩
  exact ⟨(sameSet_shown htexts).2.1, (sameSet_shown htexts).2.2.2 _ _ _ _ _ _ _ _ _ _ _ rfl rfl,
    (sameSet_shown hsets).2.1⟩

end Schematic
