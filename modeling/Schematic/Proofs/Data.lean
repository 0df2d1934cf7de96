import Mathlib.Data.List.Nodup
import Schematic.Json.Reader
import Schematic.Proofs.Graph
import Schematic.Proofs.Outcomes
import Schematic.Proofs.Unshared

namespace Schematic

theorem Text.ofString_inj {s t : String} : Text.ofString s = Text.ofString t ↔ s = t := by
  have hchar : Function.Injective CodePoint.char := fun _ _ h => CodePoint.char.inj h
  rw [Text.ofString, Text.ofString, List.map_inj_right hchar, String.toList_inj]

@[simp] theorem Comparison.isEqual_ofBool (b : Bool) : (Comparison.ofBool b).isEqual = b := by
  cases b <;> rfl

theorem Value.compare_text (s t : Text) : (Value.text s).compare (.text t) = .ofBool (s = t) := by
  rw [Value.compare] <;> simp [Value.compareAtomOrSame, Value.isSameObject, Value.compareAtom, Value.quantity?]

theorem Value.same_text (s t : Text) : (Value.text s).same (.text t) = decide (s = t) := by
  rw [Value.same, Value.compare_text, Comparison.isEqual_ofBool]

namespace Entries

/-- The keys are texts, no two of them the same. -/
structure Keyed (entries : List (Value × Value)) : Prop where
  texts : ∀ e ∈ entries, e.1.IsText
  distinct : (entries.map Prod.fst).Nodup

theorem Keyed.nil : Keyed [] := ⟨by simp, List.nodup_nil⟩

theorem keyed_cons {t : Text} {v : Value} {rest : List (Value × Value)} :
    Keyed ((.text t, v) :: rest) ↔ (∀ w, (Value.text t, w) ∉ rest) ∧ Keyed rest := by
  constructor
  · rintro ⟨htexts, hdistinct⟩
    rw [List.map_cons, List.nodup_cons] at hdistinct
    refine ⟨fun w hw => hdistinct.1 (List.mem_map.mpr ⟨_, hw, rfl⟩), ?_, hdistinct.2⟩
    exact fun e he => htexts e (List.mem_cons_of_mem _ he)
  · rintro ⟨hnew, htexts, hdistinct⟩
    refine ⟨List.forall_mem_cons.mpr ⟨⟨t, rfl⟩, htexts⟩, List.nodup_cons.mpr ⟨fun hmem => ?_, hdistinct⟩⟩
    obtain ⟨⟨k, w⟩, hw, rfl⟩ := List.mem_map.mp hmem
    exact hnew w hw

theorem Keyed.of_keys {entries entries' : List (Value × Value)} (h : Keyed entries)
    (hkeys : entries'.map Prod.fst = entries.map Prod.fst) : Keyed entries' := by
  refine ⟨fun e he => ?_, hkeys ▸ h.distinct⟩
  have hmem : e.1 ∈ entries'.map Prod.fst := List.mem_map_of_mem he
  rw [hkeys] at hmem
  obtain ⟨e', he', heq⟩ := List.mem_map.mp hmem
  exact heq ▸ h.texts e' he'

theorem get?_cons_text (s t : Text) (v : Value) (rest : List (Value × Value)) :
    get? (.text t) ((.text s, v) :: rest) = if s = t then some v else get? (.text t) rest := by
  by_cases h : s = t <;> simp [get?, Value.same_text, h]

theorem mem_of_get? {key v : Value} {entries : List (Value × Value)} (h : get? key entries = some v) :
    ∃ k, (k, v) ∈ entries := by
  obtain ⟨⟨k, w⟩, he, rfl⟩ := Option.map_eq_some_iff.mp h
  exact ⟨k, List.mem_of_find?_eq_some he⟩

theorem forall_get? {Q : Value → Prop} {entries : List (Value × Value)} (h : ∀ e ∈ entries, Q e.2) {key v : Value}
    (hv : get? key entries = some v) : Q v := by
  obtain ⟨k, hk⟩ := mem_of_get? hv
  exact h _ hk

theorem mem_put {entries : List (Value × Value)} (htexts : ∀ e ∈ entries, e.1.IsText) {t : Text} {value : Value}
    {e : Value × Value} (h : e ∈ put entries (.text t) value) : e = (.text t, value) ∨ e ∈ entries := by
  induction entries with
  | nil => exact .inl (List.mem_singleton.mp h)
  | cons first rest ih =>
    obtain ⟨k, v⟩ := first
    obtain ⟨⟨s, rfl⟩, hrest⟩ := List.forall_mem_cons.mp htexts
    rw [put, Value.same_text] at h
    by_cases hst : s = t
    · simp only [hst, decide_true, if_true, List.mem_cons] at h
      exact h.imp_right (List.mem_cons_of_mem _)
    · simp only [hst, decide_false, Bool.false_eq_true, if_false, List.mem_cons] at h
      rcases h with rfl | h
      · exact .inr List.mem_cons_self
      · exact (ih hrest h).imp_right (List.mem_cons_of_mem _)

theorem Keyed.put {entries : List (Value × Value)} (h : Keyed entries) (t : Text) (value : Value) :
    Keyed (put entries (.text t) value) := by
  induction entries with
  | nil => exact keyed_cons.mpr ⟨by simp, .nil⟩
  | cons first rest ih =>
    obtain ⟨k, v⟩ := first
    obtain ⟨s, rfl⟩ : k.IsText := h.texts _ List.mem_cons_self
    obtain ⟨hnew, hrest⟩ := keyed_cons.mp h
    rw [Entries.put, Value.same_text]
    by_cases hst : s = t
    · simp only [hst, decide_true, if_true]
      exact keyed_cons.mpr ⟨hst ▸ hnew, hrest⟩
    · simp only [hst, decide_false, Bool.false_eq_true, if_false]
      refine keyed_cons.mpr ⟨fun w hw => ?_, ih hrest⟩
      rcases mem_put hrest.texts hw with heq | hw
      · exact hst (Value.text.inj (Prod.mk.inj heq).1)
      · exact hnew w hw

/-- Putting in entries one by one leaves distinct keys, and only entries that were given. -/
theorem putAll_spec {more entries : List (Value × Value)} (hmore : ∀ e ∈ more, e.1.IsText) (h : Keyed entries) :
    Keyed (putAll entries more) ∧ ∀ e ∈ putAll entries more, e ∈ entries ∨ e ∈ more := by
  induction more generalizing entries with
  | nil => exact ⟨h, fun e he => .inl he⟩
  | cons first more ih =>
    obtain ⟨k, v⟩ := first
    obtain ⟨⟨t, rfl⟩, htexts⟩ := List.forall_mem_cons.mp hmore
    obtain ⟨hkeyed, hentries⟩ := ih htexts (h.put t v)
    refine ⟨hkeyed, fun e he => ?_⟩
    rcases hentries e he with he | he
    · rcases mem_put h.texts he with rfl | he
      · exact .inr List.mem_cons_self
      · exact .inl he
    · exact .inr (List.mem_cons_of_mem _ he)

theorem keyed_ofList {more : List (Value × Value)} (h : ∀ e ∈ more, e.1.IsText) : Keyed (ofList more) :=
  (putAll_spec h .nil).1

theorem mem_ofList {more : List (Value × Value)} (h : ∀ e ∈ more, e.1.IsText) {e : Value × Value}
    (he : e ∈ ofList more) : e ∈ more := by
  rcases (putAll_spec h .nil).2 e he with hnil | hmore
  · cases hnil
  · exact hmore

theorem put_eq_append {entries : List (Value × Value)} (htexts : ∀ e ∈ entries, e.1.IsText) {t : Text} {value : Value}
    (hnew : ∀ w, (Value.text t, w) ∉ entries) : put entries (.text t) value = entries ++ [(.text t, value)] := by
  induction entries with
  | nil => rfl
  | cons first rest ih =>
    obtain ⟨k, v⟩ := first
    obtain ⟨⟨s, rfl⟩, hrest⟩ := List.forall_mem_cons.mp htexts
    have hst : s ≠ t := by
      rintro rfl
      exact hnew v List.mem_cons_self
    have htail := ih hrest fun w hw => hnew w (List.mem_cons_of_mem _ hw)
    simp [put, Value.same_text, hst, htail]

theorem putAll_eq_append {more entries : List (Value × Value)} (h : Keyed (entries ++ more)) :
    putAll entries more = entries ++ more := by
  induction more generalizing entries with
  | nil => simp [putAll]
  | cons first more ih =>
    obtain ⟨k, v⟩ := first
    obtain ⟨t, rfl⟩ : k.IsText := h.texts (k, v) (by simp)
    have hnew : ∀ w, (Value.text t, w) ∉ entries := by
      intro w hw
      have hdistinct := h.distinct
      rw [List.map_append, List.nodup_append] at hdistinct
      exact hdistinct.2.2 _ (List.mem_map_of_mem hw) _ List.mem_cons_self rfl
    have hput : put entries (.text t) v = entries ++ [(.text t, v)] :=
      put_eq_append (fun e he => h.texts e (List.mem_append_left _ he)) hnew
    have hrest : putAll (entries ++ [(.text t, v)]) more = entries ++ [(.text t, v)] ++ more := ih (by simpa using h)
    rw [putAll, List.foldl_cons, hput, ← putAll, hrest, List.append_assoc, List.singleton_append]

theorem ofList_eq_self {entries : List (Value × Value)} (h : Keyed entries) : ofList entries = entries := by
  have hempty : Keyed ([] ++ entries) := h
  exact putAll_eq_append hempty

end Entries

/-- Null, truth values, numbers, texts, and lists and dictionaries of them. -/
inductive Value.IsData : Value → Prop
  | null : IsData .null
  | bool (b : Bool) : IsData (.bool b)
  | int (n : Int) : IsData (.int n)
  | float (x : Binary64) : IsData (.float x)
  | text (t : Text) : IsData (.text t)
  | list {items : List Value} (values : ∀ v ∈ items, IsData v) : IsData (.list items)
  | dict {entries : List (Value × Value)} (keyed : Entries.Keyed entries) (values : ∀ e ∈ entries, IsData e.2) :
      IsData (.dict entries)

namespace Value.IsData

theorem unshared_eq {v : Value} (h : v.IsData) : v.unshared = v := by
  induction h with
  | @list items _ ih =>
    rw [Value.unshared, unsharedItems_eq, List.map_congr_left ih, List.map_id']
  | @dict entries keyed _ ih =>
    have hentries : ∀ e ∈ entries, (e.1.unshared, e.2.unshared) = e := by
      intro e he
      obtain ⟨t, ht⟩ := keyed.texts e he
      rw [ih e he, ht, Value.unshared, ← ht]
      all_goals simp
    rw [Value.unshared, unsharedEntries_eq, List.map_congr_left hentries, List.map_id']
  | _ => rfl

end Value.IsData

theorem Amount.same_self (a : Amount) : a.same a = true := by
  by_cases h : a.ratio.numerator * a.ratio.denominator = 0 <;> simp [Amount.same, h]

theorem compareAtomOrSame_float (x : Binary64) : (Value.float x).compareAtomOrSame (.float x) = .equal := by
  cases hnan : x.isNaN with
  | true => simp [Value.compareAtomOrSame, Value.isSameObject, hnan]
  | false =>
    have hself : (Quantity.ofFloat x).compare (Quantity.ofFloat x) = .equal := by
      simp only [Quantity.ofFloat, hnan, Bool.false_eq_true, if_false]
      split_ifs with hfinite <;>
        simp [Quantity.compare, Quantity.signals, Quantity.same, Quantity.sameReal, Amount.same_self, Comparison.ofBool]
    simp [Value.compareAtomOrSame, Value.isSameObject, hnan, Value.compareAtom, Value.quantity?, hself]

theorem compareAtomOrSame_int (n : Int) : (Value.int n).compareAtomOrSame (.int n) = .equal := by
  simp [Value.compareAtomOrSame, Value.isSameObject, Value.compareAtom, Value.quantity?, Quantity.compare,
    Quantity.signals, Quantity.same, Quantity.sameReal, Amount.same_self, Comparison.ofBool]

theorem compareItems_self {items : List Value} (h : ∀ v ∈ items, v.compare v = .equal) :
    compareItems items items = .equal := by
  induction items with
  | nil => rw [compareItems]
  | cons v items ih =>
    obtain ⟨hv, hitems⟩ := List.forall_mem_cons.mp h
    rw [compareItems, hv, ih hitems, Comparison.and]

/-- Under a text there is the value that was stored with it. -/
theorem find?_text {entries : List (Value × Value)} (h : Entries.Keyed entries) {t : Text} {v : Value}
    (he : (.text t, v) ∈ entries) :
    (entries.find? fun e => ((Value.text t).compare e.1).isEqual) = some (.text t, v) := by
  induction entries with
  | nil => cases he
  | cons first rest ih =>
    obtain ⟨k, w⟩ := first
    obtain ⟨s, rfl⟩ : k.IsText := h.texts _ List.mem_cons_self
    obtain ⟨hnew, hrest⟩ := Entries.keyed_cons.mp h
    rcases List.mem_cons.mp he with heq | hmem
    · obtain ⟨hkey, rfl⟩ := Prod.mk.inj heq
      obtain rfl := Value.text.inj hkey
      simp [Value.compare_text]
    · have hts : t ≠ s := by
        rintro rfl
        exact hnew v hmem
      rw [List.find?_cons_of_neg, ih hrest hmem]
      simpa [Value.compare_text] using hts

/-- Dictionaries with the same keys are equal if the values are. -/
theorem compareEntries_of_get {entries others : List (Value × Value)} (hothers : Entries.Keyed others)
    (h : ∀ e ∈ entries, e.1.IsText ∧ ∃ w, (e.1, w) ∈ others ∧ e.2.compare w = .equal) :
    compareEntries entries others = .equal := by
  induction entries with
  | nil => rw [compareEntries]
  | cons first rest ih =>
    obtain ⟨k, v⟩ := first
    obtain ⟨⟨⟨t, rfl⟩, w, hw, hvw⟩, hrest⟩ := List.forall_mem_cons.mp h
    simp only at hw hvw
    simp only [compareEntries, find?_text hothers hw, hvw, ih hrest, Comparison.and]

theorem Value.IsData.compare_self {v : Value} (h : v.IsData) : v.compare v = .equal := by
  induction h with
  | null => rw [Value.compare] <;> simp [Value.compareAtomOrSame, Value.isSameObject, Value.compareAtom, Value.quantity?,
      Comparison.ofBool]
  | bool b => rw [Value.compare] <;> simp [Value.compareAtomOrSame, Value.isSameObject, Value.compareAtom,
      Value.quantity?, Quantity.compare, Quantity.signals, Quantity.same, Quantity.sameReal, Amount.same_self,
      Comparison.ofBool]
  | int n => rw [Value.compare, compareAtomOrSame_int] <;> simp
  | float x => rw [Value.compare, compareAtomOrSame_float] <;> simp
  | text t => simp [Value.compare_text, Comparison.ofBool]
  | list _ ih =>
    rw [Value.compare, if_pos rfl, compareItems_self ih]
  | dict keyed _ ih =>
    rw [Value.compare, if_pos rfl]
    exact compareEntries_of_get keyed fun e he => ⟨keyed.texts e he, e.2, he, ih e he⟩

namespace Json

theorem isData_numberFrom {negative : Bool} {t body rest : Text} {v : Value}
    (h : numberFrom negative t body = .ok (v, rest)) : v.IsData := by
  have hfloat : ∀ {x rest'}, (.ok (.float x, rest') : Reading Value) = .ok (v, rest) → v.IsData := by
    intro x rest' heq
    obtain ⟨rfl, -⟩ := Prod.mk.inj (Except.ok.inj heq)
    exact .float x
  unfold numberFrom at h
  repeat' split at h
  · cases h
  · exact hfloat h
  · cases h
  · obtain ⟨rfl, -⟩ := Prod.mk.inj (Except.ok.inj h)
    exact .int _
  · exact hfloat h

theorem isData_number {t rest : Text} {v : Value} (h : number t = .ok (v, rest)) : v.IsData := by
  unfold number at h
  split at h <;> exact isData_numberFrom h

theorem isData_named {t rest : Text} {v : Value} (h : named? t = some (v, rest)) : v.IsData := by
  obtain ⟨⟨name, w⟩, hname, hrest⟩ := List.exists_of_findSome?_eq_some h
  obtain ⟨rest', _, heq⟩ := Option.map_eq_some_iff.mp hrest
  obtain ⟨rfl, -⟩ := Prod.mk.inj heq
  simp only [names, List.mem_cons, Prod.mk.injEq, List.not_mem_nil, or_false] at hname
  rcases hname with ⟨-, rfl⟩ | ⟨-, rfl⟩ | ⟨-, rfl⟩ | ⟨-, rfl⟩ | ⟨-, rfl⟩ | ⟨-, rfl⟩ <;> constructor

/-- What is read with some fuel is data, whatever room there is. -/
structure ReadsData (fuel : Nat) : Prop where
  value : ∀ {room t rest v}, Json.value room fuel t = .ok (v, rest) → v.IsData
  items : ∀ {room t rest vs}, Json.items room fuel t = .ok (vs, rest) → ∀ v ∈ vs, v.IsData
  members : ∀ {room t rest entries}, Json.members room fuel t = .ok (entries, rest) →
    ∀ e ∈ entries, e.1.IsText ∧ e.2.IsData

namespace ReadsData

variable {room : Option Nat} {fuel : Nat}

theorem value_succ (h : ReadsData fuel) {t rest : Text} {v : Value} (hv : Json.value room (fuel + 1) t = .ok (v, rest)) :
    v.IsData := by
  unfold Json.value at hv
  split at hv
  · obtain ⟨a, _, heq⟩ := Except.map_eq_ok.mp hv
    obtain ⟨rfl, -⟩ := Prod.mk.inj heq
    exact .text _
  · repeat' split at hv
    · cases hv
    · obtain ⟨rfl, -⟩ := Prod.mk.inj (Except.ok.inj hv)
      exact .dict .nil (by simp)
    · obtain ⟨⟨entries, rest'⟩, hentries, heq⟩ := Except.map_eq_ok.mp hv
      obtain ⟨rfl, -⟩ := Prod.mk.inj heq
      have htexts : ∀ e ∈ entries, e.1.IsText := fun e he => (h.members hentries e he).1
      exact .dict (Entries.keyed_ofList htexts) fun e he => (h.members hentries e (Entries.mem_ofList htexts he)).2
  · repeat' split at hv
    · cases hv
    · obtain ⟨rfl, -⟩ := Prod.mk.inj (Except.ok.inj hv)
      exact .list (by simp)
    · obtain ⟨⟨vs, rest'⟩, hvs, heq⟩ := Except.map_eq_ok.mp hv
      obtain ⟨rfl, -⟩ := Prod.mk.inj heq
      exact .list (h.items hvs)
  · split at hv
    · rename_i r hr
      obtain rfl := Except.ok.inj hv
      exact isData_named hr
    · exact isData_number hv

theorem items_succ (h : ReadsData fuel) {t rest : Text} {vs : List Value}
    (hvs : Json.items room (fuel + 1) t = .ok (vs, rest)) : ∀ v ∈ vs, v.IsData := by
  unfold Json.items at hvs
  split at hvs
  · cases hvs
  · rename_i first rest' hfirst
    split at hvs
    · obtain ⟨rfl, -⟩ := Prod.mk.inj (Except.ok.inj hvs)
      simpa using h.value hfirst
    · obtain ⟨⟨more, rest''⟩, hmore, heq⟩ := Except.map_eq_ok.mp hvs
      obtain ⟨rfl, -⟩ := Prod.mk.inj heq
      exact List.forall_mem_cons.mpr ⟨h.value hfirst, h.items hmore⟩
    · cases hvs

theorem members_succ (h : ReadsData fuel) {t rest : Text} {entries : List (Value × Value)}
    (hentries : Json.members room (fuel + 1) t = .ok (entries, rest)) : ∀ e ∈ entries, e.1.IsText ∧ e.2.IsData := by
  unfold Json.members at hentries
  split at hentries
  · split at hentries
    · cases hentries
    · split at hentries
      · split at hentries
        · cases hentries
        · rename_i key _ _ _ _ _ _ v rest' hfirst
          split at hentries
          · obtain ⟨rfl, -⟩ := Prod.mk.inj (Except.ok.inj hentries)
            simpa using ⟨⟨key, rfl⟩, h.value hfirst⟩
          · obtain ⟨⟨more, rest''⟩, hmore, heq⟩ := Except.map_eq_ok.mp hentries
            obtain ⟨rfl, -⟩ := Prod.mk.inj heq
            exact List.forall_mem_cons.mpr ⟨⟨⟨key, rfl⟩, h.value hfirst⟩, h.members hmore⟩
          · cases hentries
      · cases hentries
  · cases hentries

end ReadsData

theorem readsData (fuel : Nat) : ReadsData fuel := by
  induction fuel with
  | zero => constructor <;> intro room t rest v h <;> simp [value, items, members, fail] at h
  | succ fuel ih => exact ⟨ih.value_succ, ih.items_succ, ih.members_succ⟩

theorem isData_document {room : Option Nat} {t : Text} {v : Value} (h : document room t = .ok v) : v.IsData := by
  unfold document at h
  split at h
  · cases h
  · split at h
    · cases h
    · rename_i hvalue
      split at h
      · obtain rfl := Except.ok.inj h
        exact (readsData _).value hvalue
      · cases h

theorem isData_readWithin {room : Option Nat} {t : Text} {v : Value} (h : readWithin room t = .ok v) : v.IsData := by
  unfold readWithin at h
  cases hd : document room t with
  | error e => simp [hd, Except.mapError] at h
  | ok w =>
    obtain rfl : w = v := by simpa [hd, Except.mapError] using h
    exact isData_document hd

theorem isData_read {t : Text} {v : Value} (h : read t = .ok v) : v.IsData := isData_readWithin h

end Json

end Schematic
