import Schematic.Proofs.LeftOut
import Schematic.Proofs.Registers
import Schematic.Proofs.RoundTrip

namespace Schematic

theorem Value.same_text_iff {t : Text} {v : Value} : (Value.text t).same v = true ↔ v = .text t := by
  cases v with
  | text s => simp [Value.same_text, eq_comm]
  | exotic e =>
    have hquantity : (Value.exotic e).quantity? = e.quantity := rfl
    have htext : (Value.text t).quantity? = none := rfl
    cases he : e.quantity <;>
      simp [Value.same, Value.compare, Value.compareAtomOrSame, Value.isSameObject, Value.compareAtom, hquantity, htext, he,
        Comparison.ofBool, Comparison.isEqual]
  | _ =>
    simp [Value.same, Value.compare, Value.compareAtomOrSame, Value.isSameObject, Value.compareAtom, Value.quantity?,
      Comparison.ofBool, Comparison.isEqual]

theorem Value.any_same_text {t : Text} {keys : List Value} : keys.any (Value.text t).same = true ↔ .text t ∈ keys := by
  simp [List.any_eq_true, Value.same_text_iff]

namespace Entries

variable {entries more : List (Value × Value)} {t u : Text} {v : Value}

theorem Keyed.tail {e : Value × Value} (h : Keyed (e :: entries)) : Keyed entries :=
  ⟨fun e he => h.texts e (List.mem_cons_of_mem _ he), (List.nodup_cons.mp h.distinct).2⟩

theorem Keyed.sublist (h : Keyed entries) (hmore : more.Sublist entries) : Keyed more :=
  ⟨fun e he => h.texts e (hmore.subset he), h.distinct.sublist (hmore.map _)⟩

theorem Keyed.perm (h : Keyed entries) (hmore : more.Perm entries) : Keyed more :=
  ⟨fun e he => h.texts e (hmore.subset he), (hmore.map _).nodup_iff.mpr h.distinct⟩

theorem get?_append (key : Value) : get? key (entries ++ more) = (get? key entries).or (get? key more) := by
  simp [get?, List.find?_append, Option.map_or]

theorem Keyed.get?_eq_some_iff (h : Keyed entries) {key : Value} : get? key entries = some v ↔ (key, v) ∈ entries := by
  induction entries with
  | nil => simp [get?]
  | cons e entries ih =>
    obtain ⟨k, w⟩ := e
    obtain ⟨s, rfl⟩ : k.IsText := h.texts _ List.mem_cons_self
    obtain ⟨hnew, hrest⟩ := keyed_cons.mp h
    by_cases hkey : key = .text s
    · subst hkey
      have hsame : (Value.text s).same (.text s) = true := Value.same_text_iff.mpr rfl
      simp [get?, hsame, hnew v, eq_comm]
    · have hsame : (Value.text s).same key = false := by
        simpa using mt Value.same_text_iff.mp hkey
      simpa [get?, hsame, hkey] using ih hrest

theorem get?_eq_none_iff (h : ∀ e ∈ entries, e.1.IsText) {key : Value} :
    get? key entries = none ↔ key ∉ entries.map Prod.fst := by
  simp only [get?, Option.map_eq_none_iff, List.find?_eq_none, List.mem_map, not_exists, not_and]
  constructor
  · rintro hnone e he rfl
    obtain ⟨s, hs⟩ := h e he
    exact hnone e he (by rw [hs]; exact Value.same_text_iff.mpr rfl)
  · intro hnone e he hsame
    obtain ⟨s, hs⟩ := h e he
    rw [hs] at hsame
    exact hnone e he (hs.trans (Value.same_text_iff.mp hsame).symm)

theorem get?_eq_none_of_new (h : ∀ e ∈ entries, e.1.IsText) {key : Value} (hnew : ∀ w, (key, w) ∉ entries) :
    get? key entries = none := by
  rw [get?_eq_none_iff h]
  intro hmem
  obtain ⟨⟨k, w⟩, hw, rfl⟩ := List.mem_map.mp hmem
  exact hnew w hw

theorem get?_put (h : ∀ e ∈ entries, e.1.IsText) (t u : Text) (v : Value) :
    get? (.text u) (put entries (.text t) v) = if t = u then some v else get? (.text u) entries := by
  induction entries with
  | nil => rw [put, get?_cons_text]
  | cons e entries ih =>
    obtain ⟨k, w⟩ := e
    obtain ⟨⟨s, rfl⟩, hrest⟩ := List.forall_mem_cons.mp h
    rw [put, Value.same_text]
    by_cases hst : s = t
    · subst hst
      simp only [decide_true, if_true, get?_cons_text]
      split_ifs <;> rfl
    · simp only [hst, decide_false, Bool.false_eq_true, if_false, get?_cons_text, ih hrest]
      split_ifs with hsu htu
      · exact absurd (hsu.trans htu.symm) hst
      · rfl
      · rfl
      · rfl

theorem get?_putAll (h : Keyed entries) (hmore : Keyed more) (u : Text) :
    get? (.text u) (putAll entries more) = (get? (.text u) more).or (get? (.text u) entries) := by
  induction more generalizing entries with
  | nil => rfl
  | cons e more ih =>
    obtain ⟨k, v⟩ := e
    obtain ⟨t, rfl⟩ : k.IsText := hmore.texts _ List.mem_cons_self
    obtain ⟨hnew, hrest⟩ := keyed_cons.mp hmore
    rw [putAll, List.foldl_cons, ← putAll, ih (h.put t v) hrest, get?_put h.texts, get?_cons_text]
    split_ifs with htu
    · subst htu
      rw [get?_eq_none_of_new hrest.texts hnew]
      rfl
    · rfl

/-- The entries of `more` whose keys are new. -/
def fresh (entries more : List (Value × Value)) : List (Value × Value) := more.filter fun e => (get? e.1 entries).isNone

theorem keys_put (h : ∀ e ∈ entries, e.1.IsText) (t : Text) (v : Value) :
    (put entries (.text t) v).map Prod.fst =
      entries.map Prod.fst ++ if (get? (.text t) entries).isNone then [.text t] else [] := by
  induction entries with
  | nil => rfl
  | cons e entries ih =>
    obtain ⟨k, w⟩ := e
    obtain ⟨⟨s, rfl⟩, hrest⟩ := List.forall_mem_cons.mp h
    rw [put, Value.same_text, get?_cons_text]
    by_cases hst : s = t
    · simp [hst]
    · simp [hst, ih hrest]

theorem keys_fresh (entries more : List (Value × Value)) :
    (fresh entries more).map Prod.fst = (more.map Prod.fst).filter fun key => (get? key entries).isNone := by
  rw [List.filter_map]
  rfl

/-- Keys that are there keep their places, new ones come at the end in order. -/
theorem keys_putAll (h : Keyed entries) (hmore : Keyed more) :
    (putAll entries more).map Prod.fst = entries.map Prod.fst ++ (fresh entries more).map Prod.fst := by
  induction more generalizing entries with
  | nil => simp [putAll, fresh]
  | cons e more ih =>
    obtain ⟨k, v⟩ := e
    obtain ⟨t, rfl⟩ : k.IsText := hmore.texts _ List.mem_cons_self
    obtain ⟨hnew, hrest⟩ := keyed_cons.mp hmore
    have hfresh : fresh (put entries (.text t) v) more = fresh entries more := by
      refine List.filter_congr fun e he => ?_
      obtain ⟨k, w⟩ := e
      obtain ⟨u, rfl⟩ : k.IsText := hrest.texts _ he
      have htu : t ≠ u := by
        rintro rfl
        exact hnew w he
      rw [get?_put h.texts, if_neg htu]
    rw [putAll, List.foldl_cons, ← putAll, ih (h.put t v) hrest, keys_put h.texts, hfresh]
    simp only [fresh, List.filter_cons]
    split_ifs <;> simp

/-- Dictionaries with the same keys in the same order and the same values under them are the same. -/
theorem Keyed.ext (h : Keyed entries) (hmore : Keyed more) (hkeys : entries.map Prod.fst = more.map Prod.fst)
    (hget : ∀ u, get? (.text u) entries = get? (.text u) more) : entries = more := by
  induction entries generalizing more with
  | nil => simpa using hkeys.symm
  | cons e entries ih =>
    obtain ⟨k, v⟩ := e
    obtain ⟨t, rfl⟩ : k.IsText := h.texts _ List.mem_cons_self
    cases more with
    | nil => cases hkeys
    | cons e' more =>
      obtain ⟨k', v'⟩ := e'
      obtain ⟨rfl, hrest⟩ := List.cons.inj hkeys
      obtain rfl : v = v' := by simpa [get?_cons_text] using hget t
      refine congrArg _ (ih h.tail hmore.tail hrest fun u => ?_)
      by_cases htu : t = u
      · subst htu
        rw [get?_eq_none_of_new h.tail.texts (keyed_cons.mp h).1,
          get?_eq_none_of_new hmore.tail.texts (keyed_cons.mp hmore).1]
      · simpa [get?_cons_text, htu] using hget u

/-- Under every key there is the same, whatever the order of the entries. -/
theorem Keyed.get?_perm (h : Keyed entries) (hmore : more.Perm entries) (key : Value) :
    get? key more = get? key entries := by
  refine Option.ext fun v => ?_
  rw [(h.perm hmore).get?_eq_some_iff, h.get?_eq_some_iff, hmore.mem_iff]

theorem get?_overlay (h : Keyed entries) (more : List (Value × Value)) (u : Text) :
    get? (.text u) (overlay entries more) =
      (get? (.text u) entries).map fun v => (get? (.text u) more).getD v := by
  induction entries with
  | nil => rfl
  | cons e entries ih =>
    obtain ⟨k, v⟩ := e
    obtain ⟨t, rfl⟩ : k.IsText := h.texts _ List.mem_cons_self
    rw [overlay, List.map_cons, ← overlay, get?_cons_text, get?_cons_text, ih h.tail]
    split_ifs with htu
    · rw [htu]
      rfl
    · rfl

theorem get?_fresh (hmore : Keyed more) (entries : List (Value × Value)) (u : Text) :
    get? (.text u) (fresh entries more) = if (get? (.text u) entries).isNone then get? (.text u) more else none := by
  have hfresh : Keyed (fresh entries more) := hmore.sublist List.filter_sublist
  refine Option.ext fun v => ?_
  rw [hfresh.get?_eq_some_iff, fresh, List.mem_filter, ← hmore.get?_eq_some_iff]
  split_ifs with hnone <;> simp [hnone]

/-- What is put over a dictionary replaces values in their places and adds new entries at the end in order. -/
theorem putAll_eq_overlay (h : Keyed entries) (hmore : Keyed more) :
    putAll entries more = overlay entries more ++ fresh entries more := by
  have hkeys : (overlay entries more).map Prod.fst = entries.map Prod.fst := by
    rw [overlay, List.map_map]
    rfl
  have hall : (putAll entries more).map Prod.fst = (overlay entries more ++ fresh entries more).map Prod.fst := by
    rw [List.map_append, hkeys, keys_putAll h hmore]
  have hkeyed : Keyed (putAll entries more) := (putAll_spec hmore.texts h).1
  refine hkeyed.ext (hkeyed.of_keys hall.symm) hall fun u => ?_
  rw [get?_putAll h hmore, get?_append, get?_overlay h, get?_fresh hmore]
  cases get? (.text u) entries <;> cases get? (.text u) more <;> rfl

/-- Putting two dictionaries over a third one after the other is putting the second over the first before. -/
theorem putAll_putAll {others : List (Value × Value)} (h : Keyed entries) (hmore : Keyed more) (hothers : Keyed others) :
    putAll (putAll entries more) others = putAll entries (putAll more others) := by
  have hfirst : Keyed (putAll entries more) := (putAll_spec hmore.texts h).1
  have hsecond : Keyed (putAll more others) := (putAll_spec hothers.texts hmore).1
  have hget : ∀ u, get? (.text u) (putAll (putAll entries more) others) =
      get? (.text u) (putAll entries (putAll more others)) := by
    intro u
    rw [get?_putAll hfirst hothers, get?_putAll h hmore, get?_putAll h hsecond, get?_putAll hmore hothers, Option.or_assoc]
  have hkeys : (putAll (putAll entries more) others).map Prod.fst = (putAll entries (putAll more others)).map Prod.fst := by
    rw [keys_putAll hfirst hothers, keys_putAll h hmore, keys_putAll h hsecond, List.append_assoc]
    simp only [keys_fresh, keys_putAll hmore hothers, List.filter_append, List.filter_filter]
    congr 2
    refine List.filter_congr fun key hkey => ?_
    obtain ⟨e, he, rfl⟩ := List.mem_map.mp hkey
    obtain ⟨u, hu⟩ := hothers.texts e he
    rw [hu, get?_putAll h hmore, Option.isNone_or, Bool.and_comm]
  exact (putAll_spec hothers.texts hfirst).1.ext (putAll_spec hsecond.texts h).1 hkeys hget

end Entries

/-- A dictionary of properties: its keys are texts, and its values nodes with a text or null for their description. -/
structure IsShape (shape : Fields) : Prop where
  keyed : Entries.Keyed shape
  nodes : ∀ e ∈ shape, ∃ d, e.2 = .node d ∧ d.Typed

/-- The properties of a well-typed object are a shape, for a dictionary has each key once. -/
theorem WellTyped.isShape {defs : Definitions} {d : Descriptor} {properties : Fields} (h : WellTyped defs (.node d))
    (hbody : d.body = .object properties) (hkeyed : Entries.Keyed properties) : IsShape properties := by
  obtain ⟨i, description, body⟩ := d
  obtain rfl : body = .object properties := hbody
  refine ⟨hkeyed, fun e he => ?_⟩
  obtain ⟨-, d, hd⟩ := (h _ .refl).2 e he
  exact ⟨d, hd, h d (.single (.field (List.mem_map.mpr ⟨e, he, hd⟩)))⟩

/-- One value twice, or two optional nodes that were put around one node. -/
inductive Value.SameWrapped : Value → Value → Prop
  | refl (v : Value) : SameWrapped v v
  | wrapped (i j : Identity) (d : Descriptor) :
      SameWrapped (.node (.mk i d.description (.modified .optional d))) (.node (.mk j d.description (.modified .optional d)))

/-- Two entries under one key with the same values, but for nodes that were put around them. -/
def EntrySame (entry entry' : Value × Value) : Prop := entry.1 = entry'.1 ∧ entry.2.SameWrapped entry'.2

section Relations

variable {shape shape' made made' : Fields}

theorem Value.LeavesOut.sameWrapped {v w w' : Value} (h : v.LeavesOut w) (h' : v.LeavesOut w') : w.SameWrapped w' := by
  cases h with
  | same optional =>
    cases h' with
    | same => exact .refl v
    | wrapped j required => cases optional.symm.trans required
  | wrapped i required =>
    cases h' with
    | same optional => cases optional.symm.trans required
    | wrapped j => exact .wrapped i j _

theorem forall₂_same_of_leavesOut (h : List.Forall₂ EntryLeavesOut shape made)
    (h' : List.Forall₂ EntryLeavesOut shape made') : List.Forall₂ EntrySame made made' := by
  induction h generalizing made' with
  | nil =>
    cases h'
    exact .nil
  | cons hentry _ ih =>
    cases h' with
    | cons hentry' hrest => exact .cons ⟨hentry.1.trans hentry'.1.symm, hentry.2.sameWrapped hentry'.2⟩ (ih hrest)

theorem leavesOut_filter (f : Value → Bool) (h : List.Forall₂ EntryLeavesOut shape made) :
    List.Forall₂ EntryLeavesOut (shape.filter fun e => f e.1) (made.filter fun e => f e.1) := by
  induction h with
  | nil => exact .nil
  | @cons e e' _ _ hentry _ ih =>
    rw [List.filter_cons, List.filter_cons, hentry.1]
    split_ifs
    · exact .cons hentry ih
    · exact ih

theorem leavesOut_put {key v w : Value} (h : List.Forall₂ EntryLeavesOut shape made) (hv : v.LeavesOut w) :
    List.Forall₂ EntryLeavesOut (Entries.put shape key v) (Entries.put made key w) := by
  induction h with
  | nil => exact .cons ⟨rfl, hv⟩ .nil
  | @cons e e' _ _ hentry hrest ih =>
    obtain ⟨k, v⟩ := e
    obtain ⟨k', v'⟩ := e'
    obtain rfl : k' = k := hentry.1
    rw [Entries.put, Entries.put]
    split_ifs
    · exact .cons ⟨rfl, hv⟩ hrest
    · exact .cons hentry ih

theorem leavesOut_putAll {more more' : Fields} (h : List.Forall₂ EntryLeavesOut shape made)
    (hmore : List.Forall₂ EntryLeavesOut more more') :
    List.Forall₂ EntryLeavesOut (Entries.putAll shape more) (Entries.putAll made more') := by
  induction hmore generalizing shape made with
  | nil => exact h
  | @cons e e' _ _ hentry _ ih =>
    rw [Entries.putAll, Entries.putAll, List.foldl_cons, List.foldl_cons, hentry.1]
    exact ih (leavesOut_put h hentry.2)

theorem IsShape.of_leavesOut (h : IsShape shape) (hmade : List.Forall₂ EntryLeavesOut shape made) : IsShape made := by
  have hkeys : made.map Prod.fst = shape.map Prod.fst := by
    rw [← List.forall₂_eq_eq_eq, List.forall₂_map_left_iff, List.forall₂_map_right_iff]
    exact hmade.flip.imp fun _ _ hentry => hentry.1
  refine ⟨h.keyed.of_keys hkeys, ?_⟩
  have hnodes := h.nodes
  clear hkeys h
  induction hmade with
  | nil => exact hnodes
  | @cons e e' _ _ hentry _ ih =>
    obtain ⟨⟨d, hd, htyped⟩, hrest⟩ := List.forall_mem_cons.mp hnodes
    refine List.forall_mem_cons.mpr ⟨?_, ih hrest⟩
    have hleft := hentry.2
    rw [hd] at hleft
    generalize e'.2 = w at hleft
    cases hleft with
    | same => exact ⟨d, rfl, htyped⟩
    | wrapped i => exact ⟨_, rfl, htyped.1, trivial⟩

theorem IsShape.sublist (h : IsShape shape) (hmade : made.Sublist shape) : IsShape made :=
  ⟨h.keyed.sublist hmade, fun e he => h.nodes e (hmade.subset he)⟩

theorem IsShape.putAll (h : IsShape shape) (hmade : IsShape made) : IsShape (Entries.putAll shape made) := by
  obtain ⟨hkeyed, hentries⟩ := Entries.putAll_spec hmade.keyed.texts h.keyed
  exact ⟨hkeyed, fun e he => (hentries e he).elim (h.nodes e) (hmade.nodes e)⟩

end Relations

theorem Descriptor.compare_self (d : Descriptor) : d.compare d = .equal := by
  obtain ⟨i, description, body⟩ := d
  rw [Descriptor.compare, if_pos rfl]

theorem Descriptor.Typed.compare_description {d : Descriptor} (h : d.Typed) :
    d.description.compare d.description = .equal := by
  rcases h.1 with hd | ⟨t, hd⟩ <;> rw [hd]
  · exact Value.IsData.null.compare_self
  · exact (Value.IsData.text t).compare_self

theorem Value.SameWrapped.compare_eq {v w : Value} (h : v.SameWrapped w) (hv : ∃ d, v = .node d ∧ d.Typed) :
    v.compare w = .equal := by
  obtain ⟨d, rfl, htyped⟩ := hv
  cases h with
  | refl => rw [Value.compare, Descriptor.compare_self]
  | wrapped i j inner =>
    have hdescription : inner.description.compare inner.description = .equal := htyped.compare_description
    have hmodifier : Modifier.compare .optional .optional = .equal := by
      rw [Modifier.compare]
      rfl
    have hbody : (Body.modified .optional inner).compare (.modified .optional inner) = .equal := by
      rw [Body.compare, Descriptor.compare_self, hmodifier, Comparison.and]
    rw [Value.compare, Descriptor.compare, hdescription, hbody]
    split_ifs with hsame hkind
    · rfl
    · exact (hkind rfl).elim
    · rfl

/-- Two objects with one description that are equal, and whose properties are the same in the same order, but for nodes
that were put around them. -/
structure Descriptor.SameObject (d e : Descriptor) : Prop where
  description : d.description = e.description
  properties : List.Forall₂ EntrySame d.properties e.properties
  equal : (Value.node d).equals (.node e) = .equal

theorem sameObject {i j : Identity} {d : Descriptor} (hd : d.Typed) {shape shape' : Fields} (h : IsShape shape)
    (h' : IsShape shape') (hsame : List.Forall₂ EntrySame shape shape') :
    (d.withProperties i shape).SameObject (d.withProperties j shape') := by
  refine ⟨rfl, hsame, ?_⟩
  have hentries : compareEntries shape shape' = .equal := by
    refine compareEntries_of_get h'.keyed fun e he => ?_
    obtain ⟨e', he', hkey, hval⟩ := exists_of_forall₂ hsame e he
    exact ⟨h.keyed.texts e he, e'.2, hkey ▸ he', hval.compare_eq (h.nodes e he)⟩
  have hbody : (Body.object shape).compare (.object shape') = .equal := by
    rw [Body.compare, if_pos hsame.length_eq, hentries]
  change (Value.node (.mk i d.description (.object shape))).compare (.node (.mk j d.description (.object shape'))) = _
  rw [Value.compare, Descriptor.compare, hd.compare_description, hbody]
  split_ifs with hsame hkind
  · rfl
  · exact (hkind rfl).elim
  · rfl

namespace Descriptor

variable {defs : Definitions} {copy : Nat} {i j k l : Identity} {d : Descriptor} {s t : Fields} {A B : List Value}

theorem mem_pick (h : ∀ e ∈ d.properties, e.1.IsText) {key v : Value} :
    (key, v) ∈ (d.pick A i).properties ↔ (key, v) ∈ d.properties ∧ key ∈ A := by
  rw [pick, withProperties]
  refine List.mem_filter.trans (and_congr_right fun hmem => ?_)
  obtain ⟨u, rfl⟩ : key.IsText := h _ hmem
  exact Value.any_same_text

theorem mem_omitting (h : ∀ e ∈ d.properties, e.1.IsText) {key v : Value} :
    (key, v) ∈ (d.omitting A i).properties ↔ (key, v) ∈ d.properties ∧ key ∉ A := by
  rw [omitting, withProperties]
  refine List.mem_filter.trans (and_congr_right fun hmem => ?_)
  obtain ⟨u, rfl⟩ : key.IsText := h _ hmem
  rw [Bool.not_eq_true', Bool.eq_false_iff, ne_eq, Value.any_same_text]

theorem pick_sublist : (d.pick A i).properties.Sublist d.properties := List.filter_sublist

theorem omitting_sublist : (d.omitting A i).properties.Sublist d.properties := List.filter_sublist

theorem pick_append_omitting_perm : ((d.pick A i).properties ++ (d.omitting A j).properties).Perm d.properties :=
  List.filter_append_perm _ _

theorem extend_pick_omitting (h : Entries.Keyed d.properties) :
    ((d.pick A i).extend (d.omitting A j).properties k).properties =
      (d.pick A i).properties ++ (d.omitting A j).properties :=
  Entries.putAll_eq_append (h.perm pick_append_omitting_perm)

theorem omitting_omitting : (d.omitting A i).omitting B k = d.omitting (A ++ B) k := by
  refine congrArg (d.withProperties k) ?_
  change List.filter _ (List.filter _ d.properties) = List.filter _ d.properties
  rw [List.filter_filter]
  refine List.filter_congr fun e _ => ?_
  rw [List.any_append, Bool.not_or, Bool.and_comm]

theorem omitting_comm : (d.omitting A i).omitting B k = (d.omitting B j).omitting A k := by
  rw [omitting_omitting, omitting_omitting]
  refine congrArg (d.withProperties k) (List.filter_congr fun e _ => ?_)
  rw [List.any_append, List.any_append, Bool.or_comm]

theorem pick_pick (h : ∀ e ∈ d.properties, e.1.IsText) :
    (d.pick A i).pick B k = d.pick (A.filter fun key => B.any key.same) k := by
  refine congrArg (d.withProperties k) ?_
  change List.filter _ (List.filter _ d.properties) = List.filter _ d.properties
  rw [List.filter_filter]
  refine List.filter_congr fun e he => ?_
  obtain ⟨u, hu⟩ := h e he
  rw [hu, Bool.eq_iff_iff, Bool.and_eq_true, Value.any_same_text, Value.any_same_text, Value.any_same_text, List.mem_filter,
    Value.any_same_text, and_comm]

theorem extend_extend (h : Entries.Keyed d.properties) (hs : Entries.Keyed s) (ht : Entries.Keyed t) :
    (d.extend s i).extend t k = d.extend (Entries.putAll s t) k :=
  congrArg (d.withProperties k) (Entries.putAll_putAll h hs ht)

/-- Leaving out what an object was extended by leaves what was there before under other keys. -/
theorem omitting_extend (h : Entries.Keyed d.properties) (hs : Entries.Keyed s) :
    (d.extend s i).omitting (s.map Prod.fst) k = d.omitting (s.map Prod.fst) k := by
  refine congrArg (d.withProperties k) ?_
  change List.filter _ (Entries.putAll d.properties s) = List.filter _ d.properties
  have hfresh : (Entries.fresh d.properties s).filter (fun e => !(s.map Prod.fst).any e.1.same) = [] := by
    refine List.filter_eq_nil_iff.mpr fun e he => ?_
    have hmem : e ∈ s := (List.mem_filter.mp he).1
    obtain ⟨u, hu⟩ := hs.texts e hmem
    rw [hu, Bool.not_eq_true', Bool.not_eq_false, Value.any_same_text, ← hu]
    exact List.mem_map_of_mem hmem
  have hkept : (Entries.overlay d.properties s).filter (fun e => !(s.map Prod.fst).any e.1.same) =
      d.properties.filter fun e => !(s.map Prod.fst).any e.1.same := by
    rw [Entries.overlay, List.filter_map]
    refine (List.map_congr_left fun e he => ?_).trans (List.map_id _)
    obtain ⟨hmem, hnot⟩ := List.mem_filter.mp he
    obtain ⟨u, hu⟩ := h.texts e hmem
    rw [Function.comp_apply, hu, Bool.not_eq_true', Bool.eq_false_iff, ne_eq, Value.any_same_text, ← hu,
      ← Entries.get?_eq_none_iff hs.texts] at hnot
    change (e.1, (Entries.get? e.1 s).getD e.2) = e
    rw [hnot]
    rfl
  rw [Entries.putAll_eq_overlay h hs, List.filter_append, hfresh, hkept, List.append_nil]

theorem exists_allOptional (h : IsShape d.properties) (defs : Definitions) (copy : Nat) (i : Identity) :
    ∃ made, d.allOptional defs copy i = .ok (d.withProperties i made) ∧
      List.Forall₂ EntryLeavesOut d.properties made := by
  obtain ⟨made, hmade, hleft⟩ := exists_optionalProperties h.nodes defs copy i 0
  exact ⟨made, by rw [allOptional, hmade]; rfl, hleft⟩

theorem optionalProperties_self {properties : Fields} (h : ∀ e ∈ properties, e.2.isOptionalNode = true) (n : Nat) :
    optionalProperties defs copy i n properties = .ok properties := by
  induction properties generalizing n with
  | nil => rfl
  | cons e properties ih =>
    obtain ⟨key, v⟩ := e
    obtain ⟨hv, hrest⟩ := List.forall_mem_cons.mp h
    have hsame : optionalProperty defs copy (i.child n) v = .ok v := by
      cases v with
      | node d => exact if_pos hv
      | _ => cases hv
    rw [optionalProperties, hsame, ih hrest]
    rfl

/-- An object whose properties are all optional is made anew as it is. -/
theorem allOptional_allOptional (h : IsShape d.properties) :
    ∃ p, d.allOptional defs copy i = .ok p ∧ p.allOptional defs copy k = .ok (p.withProperties k p.properties) := by
  obtain ⟨made, hmade, hleft⟩ := exists_allOptional h defs copy i
  have hoptional : ∀ e ∈ made, e.2.isOptionalNode = true := by
    intro e he
    obtain ⟨e', -, hentry⟩ := exists_of_forall₂ hleft.flip e he
    exact hentry.2.isOptionalNode
  refine ⟨_, hmade, ?_⟩
  change (optionalProperties defs copy k 0 made).map _ = _
  rw [optionalProperties_self hoptional]
  rfl

/-- Filtering by keys and making properties optional commute. -/
theorem allOptional_filter (hd : d.Typed) (h : IsShape d.properties) (f : Value → Bool) :
    ∃ p q, d.allOptional defs copy i = .ok p ∧
      (d.withProperties j (d.properties.filter fun e => f e.1)).allOptional defs copy k = .ok q ∧
      q.SameObject (p.withProperties l (p.properties.filter fun e => f e.1)) := by
  have hkept : IsShape (d.properties.filter fun e => f e.1) := h.sublist List.filter_sublist
  obtain ⟨made, hmade, hleft⟩ := exists_allOptional h defs copy i
  obtain ⟨made', hmade', hleft'⟩ :=
    exists_allOptional (d := d.withProperties j (d.properties.filter fun e => f e.1)) hkept defs copy k
  refine ⟨_, _, hmade, hmade', ?_⟩
  have hfiltered := leavesOut_filter f hleft
  exact sameObject hd (hkept.of_leavesOut hleft') (hkept.of_leavesOut hfiltered) (forall₂_same_of_leavesOut hleft' hfiltered)

/-- Extending by a shape and making properties optional commute, if those of the shape are made optional too. -/
theorem allOptional_extend (hd : d.Typed) (h : IsShape d.properties) {e : Descriptor} (hs : IsShape e.properties)
    (defs : Definitions) (copy : Nat) (i j k l : Identity) :
    ∃ p q r, d.allOptional defs copy i = .ok p ∧ (d.extend e.properties j).allOptional defs copy k = .ok q ∧
      e.allOptional defs copy l = .ok r ∧ ∀ m, q.SameObject (p.extend r.properties m) := by
  have hboth : IsShape (Entries.putAll d.properties e.properties) := h.putAll hs
  obtain ⟨made, hmade, hleft⟩ := exists_allOptional h defs copy i
  obtain ⟨made', hmade', hleft'⟩ := exists_allOptional (d := d.extend e.properties j) hboth defs copy k
  obtain ⟨more, hmore, hmoreLeft⟩ := exists_allOptional hs defs copy l
  refine ⟨_, _, _, hmade, hmade', hmore, fun m => ?_⟩
  have hput := leavesOut_putAll hleft hmoreLeft
  exact sameObject hd (hboth.of_leavesOut hleft') (hboth.of_leavesOut hput) (forall₂_same_of_leavesOut hleft' hput)

end Descriptor

/-- The laws of the operations on the properties of an object `d`, for shapes `s` and `t` and keys `A` and `B`. What an
operation makes has an identity of its own; two results are the same if they are made with one identity, or else
`SameObject`. -/
structure ShapeLaws (defs : Definitions) (d : Descriptor) (s t : Fields) (A B : List Value) : Prop where
  calls : ∀ copy i, (Value.node d).call defs copy i "pick" A = .ok (.node (d.pick A i)) ∧
    (Value.node d).call defs copy i "omit" A = .ok (.node (d.omitting A i)) ∧
    (Value.node d).call defs copy i "extend" [.dict s] = .ok (.node (d.extend s i)) ∧
    (Value.node d).call defs copy i "partial" [] = (d.allOptional defs copy i).map .node
  picked : ∀ i key v, (key, v) ∈ (d.pick A i).properties ↔ (key, v) ∈ d.properties ∧ key ∈ A
  left : ∀ i key v, (key, v) ∈ (d.omitting A i).properties ↔ (key, v) ∈ d.properties ∧ key ∉ A
  inOrder : ∀ i j, (d.pick A i).properties.Sublist d.properties ∧ (d.omitting A j).properties.Sublist d.properties
  split : ∀ i j, ((d.pick A i).properties ++ (d.omitting A j).properties).Perm d.properties
  rejoined : ∀ i j k key, Entries.get? key ((d.pick A i).extend (d.omitting A j).properties k).properties =
    Entries.get? key d.properties
  rejoined_perm : ∀ i j k, ((d.pick A i).extend (d.omitting A j).properties k).properties.Perm d.properties
  omitting_omitting : ∀ i k, (d.omitting A i).omitting B k = d.omitting (A ++ B) k
  omitting_comm : ∀ i j k, (d.omitting A i).omitting B k = (d.omitting B j).omitting A k
  pick_pick : ∀ i k, (d.pick A i).pick B k = d.pick (A.filter fun key => B.any key.same) k
  extended : ∀ i, (d.extend s i).properties =
    Entries.overlay d.properties s ++ s.filter fun e => (Entries.get? e.1 d.properties).isNone
  extend_extend : ∀ i k, (d.extend s i).extend t k = d.extend (Entries.putAll s t) k
  omitting_extend : ∀ i k, (d.extend s i).omitting (s.map Prod.fst) k = d.omitting (s.map Prod.fst) k
  partial_partial : ∀ copy i k, ∃ p, d.allOptional defs copy i = .ok p ∧
    p.allOptional defs copy k = .ok (p.withProperties k p.properties)
  partial_pick : ∀ copy i j k l, ∃ p q, d.allOptional defs copy i = .ok p ∧
    (d.pick A j).allOptional defs copy k = .ok q ∧ q.SameObject (p.pick A l)
  partial_omitting : ∀ copy i j k l, ∃ p q, d.allOptional defs copy i = .ok p ∧
    (d.omitting A j).allOptional defs copy k = .ok q ∧ q.SameObject (p.omitting A l)
  partial_extend : ∀ copy i j k l m (e : Descriptor), e.properties = s → ∃ p q r, d.allOptional defs copy i = .ok p ∧
    (d.extend s j).allOptional defs copy k = .ok q ∧ e.allOptional defs copy l = .ok r ∧
    q.SameObject (p.extend r.properties m)
  description : ∀ copy i, (d.pick A i).description = d.description ∧ (d.omitting A i).description = d.description ∧
    (d.extend s i).description = d.description ∧
    ∀ p, d.allOptional defs copy i = .ok p → p.description = d.description
  unchanged : ∀ (w w' : Workbench) copy i register method arguments v other, w.get? register = some (.node d) →
    w.run defs copy i (.call register method arguments) = .ok (v, w') → other ≠ register →
    (w'.put other v).get? register = some (.node d)

/-- The operations on the properties of a well-typed object are lawful. -/
theorem WellTyped.shapeLaws {defs : Definitions} {d : Descriptor} {properties s t : Fields} (h : WellTyped defs (.node d))
    (hbody : d.body = .object properties) (hkeyed : Entries.Keyed properties) (hs : IsShape s) (ht : IsShape t)
    (A B : List Value) : ShapeLaws defs d s t A B := by
  have hd : d.Typed := h d .refl
  have hproperties : d.properties = properties := by rw [Descriptor.properties, hbody]
  have hshape : IsShape d.properties := hproperties ▸ h.isShape hbody hkeyed
  have htexts := hshape.keyed.texts
  exact
    { calls := by
        intro copy i
        obtain ⟨j, description, body⟩ := d
        obtain rfl : body = .object properties := hbody
        exact ⟨rfl, rfl, rfl, rfl⟩
      picked := fun i key v => Descriptor.mem_pick htexts
      left := fun i key v => Descriptor.mem_omitting htexts
      inOrder := fun i j => ⟨Descriptor.pick_sublist, Descriptor.omitting_sublist⟩
      split := fun i j => Descriptor.pick_append_omitting_perm
      rejoined := fun i j k key => by
        rw [Descriptor.extend_pick_omitting hshape.keyed]
        exact hshape.keyed.get?_perm Descriptor.pick_append_omitting_perm key
      rejoined_perm := fun i j k => by
        rw [Descriptor.extend_pick_omitting hshape.keyed]
        exact Descriptor.pick_append_omitting_perm
      omitting_omitting := fun i k => Descriptor.omitting_omitting
      omitting_comm := fun i j k => Descriptor.omitting_comm
      pick_pick := fun i k => Descriptor.pick_pick htexts
      extended := fun i => Entries.putAll_eq_overlay hshape.keyed hs.keyed
      extend_extend := fun i k => Descriptor.extend_extend hshape.keyed hs.keyed ht.keyed
      omitting_extend := fun i k => Descriptor.omitting_extend hshape.keyed hs.keyed
      partial_partial := fun copy i k => Descriptor.allOptional_allOptional hshape
      partial_pick := fun copy i j k l => Descriptor.allOptional_filter hd hshape fun key => A.any key.same
      partial_omitting := fun copy i j k l => Descriptor.allOptional_filter hd hshape fun key => !A.any key.same
      partial_extend := fun copy i j k l m e he => by
        subst he
        obtain ⟨p, q, r, hp, hq, hr, hsame⟩ := Descriptor.allOptional_extend hd hshape hs defs copy i j k l
        exact ⟨p, q, r, hp, hq, hr, hsame m⟩
      description := fun copy i => ⟨rfl, rfl, rfl, fun p hp => by
        obtain ⟨made, -, rfl⟩ := Except.map_eq_ok.mp hp
        rfl⟩
      unchanged := fun w w' copy i register method arguments v other hget hrun hother => by
        rw [Workbench.get?_put_of_run hrun, if_neg hother, hget] }

def shapedText : Descriptor := .mk ⟨0, [0], 0⟩ (.text "A.") (.string [])

def shapedNumber : Descriptor := .mk ⟨0, [1], 0⟩ .null (.number [])

def shapedOptional : Descriptor := .mk ⟨0, [2], 0⟩ .null (.modified .optional shapedNumber)

def shapedObject : Descriptor :=
  .mk ⟨0, [3], 0⟩ (.text "O.") (.object [(.text "a", .node shapedText), (.text "b", .node shapedOptional)])

def firstShape : Fields := [(.text "b", .node shapedNumber), (.text "c", .node shapedText)]

def secondShape : Fields := [(.text "c", .node shapedOptional), (.text "a", .node shapedNumber)]

theorem wellTyped_shapedObject : WellTyped [] (.node shapedObject) := by
  have hleaf : ∀ d : Descriptor, d.Typed → (∀ w, ¬ Edge [] (.node d) w) → WellTyped [] (.node d) :=
    fun d hd hnone => wellTyped_node hd fun w hw => (hnone w hw).elim
  have htext : WellTyped [] (.node shapedText) := hleaf _ ⟨.inr ⟨_, rfl⟩, trivial⟩ fun w hw => by
    cases hw with
    | field child => cases child
  have hnumber : WellTyped [] (.node shapedNumber) := hleaf _ ⟨.inl rfl, trivial⟩ fun w hw => by
    cases hw with
    | field child => cases child
  have hoptional : WellTyped [] (.node shapedOptional) := wellTyped_node ⟨.inl rfl, trivial⟩ fun w hw => by
    cases hw with
    | field child =>
      obtain rfl := List.mem_singleton.mp child
      exact hnumber
  refine wellTyped_node ⟨.inr ⟨_, rfl⟩, fun entry hentry => ?_⟩ fun w hw => ?_
  · rcases List.mem_pair.mp hentry with rfl | rfl <;> exact ⟨⟨_, rfl⟩, _, rfl⟩
  · cases hw with
    | field child =>
      rcases List.mem_pair.mp child with rfl | rfl
      · exact htext
      · exact hoptional

theorem keyed_pair {t u : Text} (h : t ≠ u) (v w : Value) : Entries.Keyed [(.text t, v), (.text u, w)] :=
  Entries.keyed_cons.mpr ⟨fun x hx => h (Value.text.inj (Prod.mk.inj (List.mem_singleton.mp hx)).1),
    Entries.keyed_cons.mpr ⟨by simp, .nil⟩⟩

theorem isShape_pair {t u : Text} (h : t ≠ u) {d e : Descriptor} (hd : d.Typed) (he : e.Typed) :
    IsShape [(.text t, .node d), (.text u, .node e)] := by
  refine ⟨keyed_pair h _ _, fun entry hentry => ?_⟩
  rcases List.mem_pair.mp hentry with rfl | rfl
  · exact ⟨d, rfl, hd⟩
  · exact ⟨e, rfl, he⟩

theorem shapeLaws_shapedObject :
    ShapeLaws [] shapedObject firstShape secondShape [.text "b", .text "x"] [.text "a", .text "b", .int 1] ∧
      (shapedObject.extend firstShape ⟨0, [4], 0⟩).properties =
        [(.text "a", .node shapedText), (.text "b", .node shapedNumber), (.text "c", .node shapedText)] := by
  have hbc : ("b" : Text) ≠ "c" := by decide
  have hca : ("c" : Text) ≠ "a" := by decide
  have hlaws := wellTyped_shapedObject.shapeLaws rfl (keyed_pair (by decide) _ _)
    (isShape_pair hbc (d := shapedNumber) (e := shapedText) ⟨.inl rfl, trivial⟩ ⟨.inr ⟨_, rfl⟩, trivial⟩)
    (isShape_pair hca (d := shapedOptional) (e := shapedNumber) ⟨.inl rfl, trivial⟩ ⟨.inl rfl, trivial⟩)
    [.text "b", .text "x"] [.text "a", .text "b", .int 1]
  refine ⟨hlaws, (hlaws.extended _).trans ?_⟩
  simp [shapedObject, Descriptor.properties, Descriptor.body, Entries.overlay, Entries.get?, Value.same_text,
    Text.ofString_inj]

end Schematic
