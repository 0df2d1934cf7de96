import Schematic.Fluent.Builder
import Schematic.Fluent.Method
import Schematic.Proofs.Outcomes
import Schematic.Proofs.Reading

/-! Builders and most methods look at what they are given, and so make descriptors whose fields have their
declared types, through and through. The methods that copy a descriptor with another description, length, rest
or other properties do not look; given values of the declared types, they keep that too. -/
namespace Schematic

/-- The value that a body holds whatever its type, or null. -/
def Body.held : Body → Value
  | .literal value => value
  | .modified (.default value _) _ => value
  | .modified (.catching value) _ => value
  | _ => .null

/-- What stands in a value: its items, or its keys and what is under them. In a descriptor, that is what may stand in
its fields if they have their declared types. -/
def Value.parts : Value → List Value
  | .list items | .tuple items | .set items | .frozenset items => items
  | .dict entries => entries.map (·.1) ++ entries.map (·.2)
  | .node d => d.description :: d.body.held :: d.body.children
  | _ => []

/-- The second value stands in the first one, however deep. -/
abbrev Value.Holds : Value → Value → Prop := Relation.ReflTransGen fun v w => w ∈ v.parts

/-- The fields of every descriptor in a value have their declared types. -/
def Value.Sound (v : Value) : Prop := ∀ d, v.Holds (.node d) → d.Typed

/-- The fields have their declared types, and what is in them is sound. -/
structure Body.Sound (b : Body) : Prop where
  typed : b.Typed
  held : b.held.Sound
  children : ∀ w ∈ b.children, w.Sound

namespace Value.Sound

variable {v w : Value} {d : Descriptor}

theorem part (h : v.Sound) (hw : w ∈ v.parts) : w.Sound := fun d hd => h d (.head hw hd)

theorem of_parts (htyped : ∀ d, v = .node d → d.Typed) (hparts : ∀ w ∈ v.parts, w.Sound) : v.Sound := by
  intro d hd
  rcases Relation.ReflTransGen.cases_head hd with rfl | ⟨w, hw, hd⟩
  · exact htyped d rfl
  · exact hparts w hw d hd

/-- A value in which nothing stands is sound if it is no descriptor. -/
theorem leaf (hparts : v.parts = []) (hnode : ¬ v.IsNode) : v.Sound :=
  of_parts (fun d hd => (hnode ⟨d, hd⟩).elim) fun _ hw => (List.not_mem_nil (hparts ▸ hw)).elim

@[simp] theorem null : Value.null.Sound := leaf rfl (by rintro ⟨_, h⟩; cases h)

@[simp] theorem text (t : Text) : (Value.text t).Sound := leaf rfl (by rintro ⟨_, h⟩; cases h)

@[simp] theorem int (n : Int) : (Value.int n).Sound := leaf rfl (by rintro ⟨_, h⟩; cases h)

@[simp] theorem callable (i : Identity) (action : Action) : (Value.callable i action).Sound :=
  leaf rfl (by rintro ⟨_, h⟩; cases h)

@[simp] theorem cyclicList (i : Identity) : (Value.cyclicList i).Sound := leaf rfl (by rintro ⟨_, h⟩; cases h)

@[simp] theorem cyclicDict (i : Identity) : (Value.cyclicDict i).Sound := leaf rfl (by rintro ⟨_, h⟩; cases h)

@[simp] theorem tuple_iff {items : List Value} : (Value.tuple items).Sound ↔ ∀ w ∈ items, w.Sound :=
  ⟨fun h _ hw => h.part hw, fun h => of_parts (fun _ hd => by cases hd) h⟩

@[simp] theorem dict_iff {entries : Fields} : (Value.dict entries).Sound ↔ ∀ e ∈ entries, e.1.Sound ∧ e.2.Sound := by
  constructor
  · exact fun h e he => ⟨h.part (List.mem_append_left _ (List.mem_map_of_mem he)),
      h.part (List.mem_append_right _ (List.mem_map_of_mem he))⟩
  · refine fun h => of_parts (fun _ hd => by cases hd) fun w hw => ?_
    rcases List.mem_append.mp hw with hw | hw <;> obtain ⟨e, he, rfl⟩ := List.mem_map.mp hw
    · exact (h e he).1
    · exact (h e he).2

theorem isText (h : v.IsText) : v.Sound := by
  obtain ⟨t, rfl⟩ := h
  exact text t

theorem isLength (h : v.IsLength) : v.Sound := by
  rcases h with rfl | ⟨n, rfl⟩
  · exact null
  · exact int n

theorem isFunction (h : v.IsFunction) : v.Sound := by
  obtain ⟨i, action, rfl⟩ := h
  exact callable i action

theorem nullOr {P : Value → Prop} (hP : P v → v.Sound) (h : v = .null ∨ P v) : v.Sound := by
  rcases h with rfl | h
  · exact null
  · exact hP h

/-- A descriptor is sound if its description has its declared type and its other fields are sound. -/
theorem node_iff {i : Identity} {description : Value} {b : Body} :
    (Value.node (.mk i description b)).Sound ↔ (description = .null ∨ description.IsText) ∧ b.Sound := by
  constructor
  · intro h
    obtain ⟨hdescription, htyped⟩ := h _ .refl
    refine ⟨hdescription, htyped, h.part (List.mem_cons_of_mem _ List.mem_cons_self), fun w hw => ?_⟩
    exact h.part (List.mem_cons_of_mem _ (List.mem_cons_of_mem _ hw))
  · rintro ⟨hdescription, htyped, hheld, hchildren⟩
    refine of_parts (fun d hd => ?_) ?_
    · obtain rfl := Value.node.inj hd
      exact ⟨hdescription, htyped⟩
    · exact List.forall_mem_cons.mpr ⟨nullOr isText hdescription, List.forall_mem_cons.mpr ⟨hheld, hchildren⟩⟩

theorem description (h : (Value.node d).Sound) : d.description = .null ∨ d.description.IsText := (h d .refl).1

theorem body (h : (Value.node d).Sound) : d.body.Sound := by
  obtain ⟨i, description, body⟩ := d
  exact (node_iff.mp h).2

theorem field (h : (Value.node d).Sound) : ∀ field ∈ d.fieldValues, field.2.Sound := by
  have hdescription := nullOr isText h.description
  obtain ⟨htyped, hheld, hchildren⟩ := h.body
  obtain ⟨i, description, body⟩ := d
  simp only [Descriptor.body, Descriptor.description] at htyped hheld hchildren hdescription
  cases body with
  | array element low high exact =>
    obtain ⟨hlow, hhigh, hexact⟩ := htyped
    have helement := hchildren (.node element) List.mem_cons_self
    simp [Descriptor.fieldValues, Descriptor.description, Descriptor.body, hdescription, helement, isLength hlow,
      isLength hhigh, isLength hexact]
  | object properties =>
    have hproperties : ∀ e ∈ properties, e.1.Sound ∧ e.2.Sound := fun e he =>
      ⟨isText (htyped e he).1, hchildren e.2 (List.mem_map_of_mem he)⟩
    simpa [Descriptor.fieldValues, Descriptor.description, Descriptor.body, hdescription] using hproperties
  | tuple items rest =>
    have hitems : ∀ d ∈ items, (Value.node d).Sound := fun d hd =>
      hchildren _ (Body.mem_children_tuple.mpr (.inl ⟨d, hd, rfl⟩))
    have hrest : rest.Sound := by
      by_cases hnull : rest = .null
      · exact hnull ▸ null
      · exact hchildren _ (Body.mem_children_tuple.mpr (.inr ⟨rfl, hnull⟩))
    simpa [Descriptor.fieldValues, Descriptor.description, Descriptor.body, hdescription, hrest] using hitems
  | modified m inner =>
    have hinner := hchildren (.node inner) List.mem_cons_self
    cases m with
    | default value factory =>
      have hvalue : value.Sound := hheld
      have hfactory : factory.Sound := nullOr isFunction htyped
      simp [Descriptor.fieldValues, Descriptor.description, Descriptor.body, hdescription, hinner, hvalue, hfactory]
    | effect function kind =>
      have hfunction : function.Sound := nullOr isFunction htyped
      simp [Descriptor.fieldValues, Descriptor.description, Descriptor.body, hdescription, hinner, hfunction]
    | catching value =>
      have hvalue : value.Sound := hheld
      simp [Descriptor.fieldValues, Descriptor.description, Descriptor.body, hdescription, hinner, hvalue]
    | _ => simp [Descriptor.fieldValues, Descriptor.description, Descriptor.body, hdescription, hinner]
  | _ => simp_all [Descriptor.fieldValues, Descriptor.description, Descriptor.body, Body.children, Body.held]

theorem fieldItems (h : (Value.node d).Sound) : ∀ w ∈ d.fieldItems, w.Sound := by
  intro w hw
  obtain ⟨field, hfield, rfl⟩ := List.mem_map.mp hw
  simp [h.field field hfield]

theorem items (h : v.Sound) {items : List Value} (hitems : v.items? = some items) : ∀ w ∈ items, w.Sound := by
  cases v with
  | list | tuple | set | frozenset =>
    obtain rfl := Option.some.inj hitems
    exact fun w hw => h.part hw
  | cyclicList i =>
    obtain rfl := Option.some.inj hitems
    simp
  | node d =>
    obtain rfl := Option.some.inj hitems
    exact h.fieldItems
  | _ => cases hitems

theorem iterated (h : v.Sound) {items : List Value} (hitems : v.iterated? = some items) : ∀ w ∈ items, w.Sound := by
  cases v with
  | list | tuple | set | frozenset =>
    obtain rfl := Option.some.inj hitems
    exact fun w hw => h.part hw
  | dict entries =>
    obtain rfl := Option.some.inj hitems
    exact fun w hw => h.part (List.mem_append_left _ hw)
  | node d =>
    obtain rfl := Option.some.inj hitems
    exact h.fieldItems
  | text | bytes | cyclicList | cyclicDict =>
    obtain rfl := Option.some.inj hitems
    simp
  | _ => cases hitems

theorem entries (h : v.Sound) {entries : Fields} (hentries : v.entries? = some entries) :
    ∀ e ∈ entries, e.1.Sound ∧ e.2.Sound := by
  cases v with
  | dict =>
    obtain rfl := Option.some.inj hentries
    exact dict_iff.mp h
  | cyclicDict =>
    obtain rfl := Option.some.inj hentries
    simp
  | _ => cases hentries

end Value.Sound

namespace Body.Sound

theorem of_leaf {b : Body} (htyped : b.Typed) (hheld : b.held = .null) (hchildren : b.children = []) : b.Sound :=
  ⟨htyped, hheld ▸ .null, fun _ hw => (List.not_mem_nil (hchildren ▸ hw)).elim⟩

theorem array {element : Descriptor} {low high exact : Value} (helement : (Value.node element).Sound)
    (hlow : low.IsLength) (hhigh : high.IsLength) (hexact : exact.IsLength) : (Body.array element low high exact).Sound :=
  ⟨⟨hlow, hhigh, hexact⟩, .null, fun _ hw => List.mem_singleton.mp hw ▸ helement⟩

theorem object {properties : Fields} (h : ∀ e ∈ properties, e.1.IsText ∧ e.2.IsNode ∧ e.2.Sound) :
    (Body.object properties).Sound := by
  refine ⟨fun e he => ⟨(h e he).1, (h e he).2.1⟩, .null, fun w hw => ?_⟩
  obtain ⟨e, he, rfl⟩ := List.mem_map.mp hw
  exact (h e he).2.2

theorem property {properties : Fields} (h : (Body.object properties).Sound) :
    ∀ e ∈ properties, e.1.IsText ∧ e.2.IsNode ∧ e.2.Sound :=
  fun e he => ⟨(h.typed e he).1, (h.typed e he).2, h.children e.2 (List.mem_map_of_mem he)⟩

theorem union {options : List Descriptor} (h : ∀ d ∈ options, (Value.node d).Sound) : (Body.union options).Sound := by
  refine ⟨trivial, .null, fun w hw => ?_⟩
  obtain ⟨d, hd, rfl⟩ := List.mem_map.mp hw
  exact h d hd

theorem intersection {left right : Descriptor} (hleft : (Value.node left).Sound) (hright : (Value.node right).Sound) :
    (Body.intersection left right).Sound := by
  refine ⟨trivial, .null, fun w hw => ?_⟩
  rcases List.mem_pair.mp hw with rfl | rfl
  · exact hleft
  · exact hright

theorem record {key value : Descriptor} (hkey : (Value.node key).Sound) (hvalue : (Value.node value).Sound) :
    (Body.record key value).Sound := by
  refine ⟨trivial, .null, fun w hw => ?_⟩
  rcases List.mem_pair.mp hw with rfl | rfl
  · exact hkey
  · exact hvalue

theorem tuple {items : List Descriptor} {rest : Value} (hitems : ∀ d ∈ items, (Value.node d).Sound)
    (hrest : rest = .null ∨ rest.IsNode ∧ rest.Sound) : (Body.tuple items rest).Sound := by
  refine ⟨hrest.imp_right And.left, .null, fun w hw => ?_⟩
  rcases Body.mem_children_tuple.mp hw with ⟨d, hd, rfl⟩ | ⟨rfl, hnull⟩
  · exact hitems d hd
  · rcases hrest with rfl | ⟨_, hrest⟩
    · exact (hnull rfl).elim
    · exact hrest

theorem item {items : List Descriptor} {rest : Value} (h : (Body.tuple items rest).Sound) :
    ∀ d ∈ items, (Value.node d).Sound := fun d hd => h.children _ (Body.mem_children_tuple.mpr (.inl ⟨d, hd, rfl⟩))

theorem literal {value : Value} (h : value.Sound) : (Body.literal value).Sound := ⟨trivial, h, fun _ hw => by cases hw⟩

theorem promise {inner : Descriptor} (h : (Value.node inner).Sound) : (Body.promise inner).Sound :=
  ⟨trivial, .null, fun _ hw => List.mem_singleton.mp hw ▸ h⟩

theorem modified {m : Modifier} {inner : Descriptor} (hinner : (Value.node inner).Sound)
    (htyped : (Body.modified m inner).Typed) (hheld : (Body.modified m inner).held.Sound) :
    (Body.modified m inner).Sound := ⟨htyped, hheld, fun _ hw => List.mem_singleton.mp hw ▸ hinner⟩

end Body.Sound

section Validation

variable {fields : Fields} {i : Identity} {child : Nat → Value → Checked Descriptor}

theorem ReadAsFunction.isFunction {Q : Value → Prop} {w : Value} (h : ReadAsFunction Q w) : w = .null ∨ w.IsFunction := by
  rcases h with rfl | ⟨v, _, hw⟩
  · exact .inl rfl
  · exact callableOrNull_isFunction hw

theorem Body.sound_of_getter {v : Value} {b : Body} (h : Checked.getter v = .ok b) : b.Sound := by
  unfold Checked.getter at h
  split at h
  · obtain rfl := Checked.ok.inj h
    exact .of_leaf trivial rfl rfl
  · exact absurd h Checked.fault_ne_ok

theorem Body.MadeOf.sound {b : Body} (h : b.MadeOf Value.Sound fun d => (Value.node d).Sound) : b.Sound := by
  cases h with
  | string | number | primitive | enum => exact .of_leaf trivial rfl rfl
  | array helement hlow hhigh hexact => exact .array helement hlow hhigh hexact
  | object hkeyed hnodes =>
    refine .object fun e he => ?_
    obtain ⟨d, hd, hsound⟩ := hnodes e he
    exact ⟨hkeyed.texts e he, ⟨d, hd⟩, hd ▸ hsound⟩
  | union h => exact .union h
  | intersection hleft hright => exact .intersection hleft hright
  | record hkey hvalue => exact .record hkey hvalue
  | tuple hitems hrest =>
    refine .tuple hitems (hrest.imp_right ?_)
    rintro ⟨d, rfl, hd⟩
    exact ⟨⟨d, rfl⟩, hd⟩
  | literal h => exact .literal h
  | promise h => exact .promise h
  | optional h | nullable h | readonly h | branded _ h => exact .modified h trivial .null
  | catching hvalue h => exact .modified h trivial hvalue
  | default hvalue hfactory h => exact .modified h hfactory.isFunction hvalue
  | effect _ hfunction h => exact .modified h hfunction.isFunction .null
  | lazy _ hb => exact Body.sound_of_getter hb

/-- Reading the fields of a node makes a sound node of sound values. -/
theorem Body.sound_of_ofFields (hfields : ∀ e ∈ fields, e.2.Sound)
    (hread : ∀ n v d, v.Sound → child n v = .ok d → (Value.node d).Sound) {k : Kind} {b : Body}
    (h : Body.ofFields child k i fields = .ok b) : b.Sound := by
  have hplainText : (Value.node (.plainText (i.child 0))).Sound :=
    Value.Sound.node_iff.mpr ⟨.inl rfl, .of_leaf trivial rfl rfl⟩
  exact (ofFields_madeOf (P := fun d => (Value.node d).Sound) hfields hread .null (fun _ _ hv => hv.items)
    (fun _ _ hv hentries e he => (hv.entries hentries e he).2) (fun _ _ _ _ => hplainText) h).sound

theorem Descriptor.sound_of_ofFieldsWith {read : Identity → Value → Checked Descriptor}
    (hread : ∀ i v d, v.Sound → read i v = .ok d → (Value.node d).Sound) {k : Kind} (hfields : ∀ e ∈ fields, e.2.Sound)
    {d : Descriptor} (h : Descriptor.ofFieldsWith read k i fields = .ok d) : (Value.node d).Sound := by
  simp only [Descriptor.ofFieldsWith, Checked.seq_eq_ok, Checked.functor_map_eq_ok] at h
  obtain ⟨_, body, ⟨description, hdescription, rfl⟩, hbody, rfl⟩ := h
  have htext : description = .null ∨ description.IsText :=
    of_optional (P := fun w => w = Value.null ∨ w.IsText) hfields (fun _ _ _ => textOrNull_isText) (.inl rfl) hdescription
  exact Value.Sound.node_iff.mpr ⟨htext, Body.sound_of_ofFields hfields (fun n v d => hread (i.child n) v d) hbody⟩

theorem sound_of_descriptorAt {levels : Nat} {v : Value} {d : Descriptor} (hv : v.Sound)
    (h : descriptorAt levels i v = .ok d) : (Value.node d).Sound := by
  induction levels generalizing i v d with
  | zero =>
    unfold descriptorAt at h
    split at h
    · exact absurd h Checked.fault_ne_ok
    · exact absurd (Checked.within_eq_ok.mp h) Checked.fault_ne_ok
  | succ levels ih =>
    unfold descriptorAt at h
    split at h
    · exact absurd h Checked.fault_ne_ok
    · rw [Checked.within_eq_ok] at h
      simp only at h
      split at h
      · obtain rfl := Checked.ok.inj h
        exact hv
      · split at h
        · rename_i fields hentries
          exact Descriptor.sound_of_ofFieldsWith (fun i v d => ih) (fun e he => (hv.entries hentries e he).2) h
        · exact absurd h Checked.fault_ne_ok

theorem Descriptor.sound_of_ofFields (hfields : ∀ e ∈ fields, e.2.Sound) {k : Kind} {d : Descriptor}
    (h : Descriptor.ofFields k i fields = .ok d) : (Value.node d).Sound :=
  Descriptor.sound_of_ofFieldsWith (fun _ _ _ => sound_of_descriptorAt) hfields h

end Validation

theorem Checked.outcome_eq_ok {α : Type} {c : Checked α} {a : α} : c.outcome = .ok a ↔ c = .ok a := by
  cases c <;> simp [Checked.outcome]

theorem Entries.forall_put {P Q : Value → Prop} {entries : Fields} (h : ∀ e ∈ entries, P e.1 ∧ Q e.2) {key value : Value}
    (hkey : P key) (hvalue : Q value) : ∀ e ∈ Entries.put entries key value, P e.1 ∧ Q e.2 := by
  induction entries with
  | nil => simp [Entries.put, hkey, hvalue]
  | cons first rest ih =>
    obtain ⟨k, v⟩ := first
    obtain ⟨hfirst, hrest⟩ := List.forall_mem_cons.mp h
    rw [Entries.put]
    split_ifs
    · exact List.forall_mem_cons.mpr ⟨⟨hfirst.1, hvalue⟩, hrest⟩
    · exact List.forall_mem_cons.mpr ⟨hfirst, ih hrest⟩

theorem Entries.forall_putAll {P Q : Value → Prop} {entries more : Fields} (h : ∀ e ∈ entries, P e.1 ∧ Q e.2)
    (hmore : ∀ e ∈ more, P e.1 ∧ Q e.2) : ∀ e ∈ Entries.putAll entries more, P e.1 ∧ Q e.2 := by
  induction more generalizing entries with
  | nil => exact h
  | cons first more ih =>
    obtain ⟨hfirst, hmore⟩ := List.forall_mem_cons.mp hmore
    exact ih (Entries.forall_put h hfirst.1 hfirst.2) hmore

namespace Value

variable {defs : Definitions} {copy : Nat} {v : Value} {entries : Fields}

theorem iterate_eq_ok {items : List Value} : v.iterate = .ok items ↔ v.iterated? = some items := by
  unfold Value.iterate
  cases v.iterated? <;> simp

theorem eq_nil_of_keyedEntries (h : v.keyedEntries defs copy = .ok entries) : entries = [] := by
  unfold Value.keyedEntries at h
  obtain ⟨keys, -, h⟩ := Except.bind_eq_ok.mp h
  split at h
  · exact (Except.ok.inj h).symm
  · cases h
  · cases h

theorem mapping_eq_ok (h : v.mapping defs copy = .ok entries) : v.entries? = some entries ∨ entries = [] := by
  unfold Value.mapping at h
  simp only at h
  split at h
  · exact .inl (Except.ok.inj h ▸ ‹_›)
  · cases h
  · split at h
    · split_ifs at h
      cases h
    · exact .inr (eq_nil_of_keyedEntries h)

namespace Sound

theorem keyedPair (h : v.Sound) {n : Nat} {entry : Value × Value} (hentry : Value.keyedPair n v = .ok entry) :
    entry.1.Sound ∧ entry.2.Sound := by
  unfold Value.keyedPair at hentry
  split at hentry
  · cases hentry
  · rename_i key value hitems
    have hpair := h.iterated hitems
    split at hentry
    · obtain rfl := Except.ok.inj hentry
      exact ⟨hpair _ List.mem_cons_self, hpair _ (List.mem_cons_of_mem _ (List.mem_singleton_self _))⟩
    · cases hentry
  · cases hentry

theorem toDictionary (h : v.Sound) (hentries : v.toDictionary defs copy = .ok entries) :
    ∀ e ∈ entries, e.1.Sound ∧ e.2.Sound := by
  unfold Value.toDictionary at hentries
  split at hentries
  · obtain rfl := Except.ok.inj hentries
    exact h.entries ‹_›
  · obtain rfl := eq_nil_of_keyedEntries hentries
    simp
  · simp only [Except.bind_eq_ok] at hentries
    obtain ⟨items, hitems, pairs, hpairs, hentries⟩ := hentries
    obtain rfl := Except.ok.inj hentries
    have hsound : ∀ e ∈ pairs, e.1.Sound ∧ e.2.Sound := by
      refine forall_of_mapM (fun p hp entry hentry => ?_) hpairs
      exact (h.iterated (iterate_eq_ok.mp hitems) p.1 (List.fst_mem_of_mem_zipIdx hp)).keyedPair hentry
    exact Entries.forall_putAll (by simp) hsound

end Sound
end Value

section Builder

variable {defs : Definitions} {copy : Nat} {i : Identity}

/-- The outcome of a checked construction from sound fields. -/
theorem sound_of_outcome {k : Kind} {fields : Fields} {d : Descriptor} (hfields : ∀ e ∈ fields, e.2.Sound)
    (h : (Descriptor.ofFields k i fields).outcome = .ok d) : (Value.node d).Sound :=
  Descriptor.sound_of_ofFields hfields (Checked.outcome_eq_ok.mp h)

theorem Builder.sound_of_make {b : Builder} {first second : Value} (hfirst : first.Sound) (hsecond : second.Sound)
    {d : Descriptor} (h : b.make defs copy i first second = .ok d) : (Value.node d).Sound := by
  have hiterated : ∀ {items}, first.iterate = .ok items → (Value.tuple items).Sound := fun hitems =>
    Value.Sound.tuple_iff.mpr (hfirst.iterated (Value.iterate_eq_ok.mp hitems))
  cases b with
  | plain k => exact sound_of_outcome (by simp) h
  | array | literal | promise | lazy => exact sound_of_outcome (by simp [hfirst]) h
  | intersection | preprocess => exact sound_of_outcome (by simp [hfirst, hsecond]) h
  | object =>
    simp only [Builder.make] at h
    split_ifs at h
    · obtain ⟨shape, hshape, h⟩ := Except.bind_eq_ok.mp h
      have hdict : (Value.dict shape).Sound := Value.Sound.dict_iff.mpr (hfirst.toDictionary hshape)
      exact sound_of_outcome (List.forall_mem_singleton.mpr hdict) h
    · exact sound_of_outcome (by simp) h
  | enum | union =>
    obtain ⟨items, hitems, h⟩ := Except.bind_eq_ok.mp h
    exact sound_of_outcome (List.forall_mem_singleton.mpr (hiterated hitems)) h
  | record =>
    refine sound_of_outcome ?_ h
    split
    · simp [hfirst]
    · simp [hfirst, hsecond]
  | tuple =>
    obtain ⟨items, hitems, h⟩ := Except.bind_eq_ok.mp h
    exact sound_of_outcome (List.forall_mem_cons.mpr ⟨hiterated hitems, List.forall_mem_singleton.mpr hsecond⟩) h

theorem sound_getD_of_arguments {arguments : List Value} (h : ∀ v ∈ arguments, v.Sound) (n : Nat) :
    (arguments.getD n .null).Sound := by
  rw [List.getD_eq_getElem?_getD]
  cases hn : arguments[n]? with
  | none => exact .null
  | some v => exact h v (List.mem_of_getElem? hn)

theorem Builder.sound_of_call {name : Text} {arguments : List Value} (harguments : ∀ v ∈ arguments, v.Sound)
    {d : Descriptor} (h : Builder.call defs copy i name arguments = .ok d) : (Value.node d).Sound := by
  unfold Builder.call at h
  split at h
  · split at h
    · unfold Builder.instantiate at h
      split_ifs at h
      · exact sound_of_outcome (by simp) h
      · cases h
    · cases h
    · cases h
  · obtain ⟨_, -, h⟩ := Except.bind_eq_ok.mp h
    exact Builder.sound_of_make (sound_getD_of_arguments harguments 0) (sound_getD_of_arguments harguments 1) h

end Builder

def Method.makes : Method → Bool
  | asks _ | getDefault | resolve | dictionary | written | shown | equals => false
  | _ => true

/-- Whether an argument has the type that a method declares for it, where the method does not look. -/
def Method.Takes (argument : Value) : Method → Prop
  | describe => argument = .null ∨ argument.IsText
  | length _ => argument.IsLength
  | extend => ∀ entries, argument.entries? = some entries → ∀ e ∈ entries, e.1.IsText ∧ e.2.IsNode
  | withRest => argument = .null ∨ argument.IsNode
  | _ => True

section Methods

variable {defs : Definitions} {copy : Nat} {i : Identity} {d : Descriptor}

theorem Value.Sound.withBody (hd : (Value.node d).Sound) {b : Body} (hb : b.Sound) :
    (Value.node (d.withBody i b)).Sound := node_iff.mpr ⟨hd.description, hb⟩

theorem Value.Sound.wrapped (hd : (Value.node d).Sound) {k : Kind} {more : Fields} (hmore : ∀ e ∈ more, e.2.Sound)
    {e : Descriptor} (h : d.wrapped k more i = .ok e) : (Value.node e).Sound := by
  refine Descriptor.sound_of_ofFields (fun field hfield => ?_) h
  rcases List.mem_cons.mp hfield with rfl | hfield
  · exact hd
  rcases List.mem_cons.mp hfield with rfl | hfield
  · exact nullOr isText hd.description
  · exact hmore field hfield

theorem Value.Sound.withTextCheck (hd : (Value.node d).Sound) (c : TextCheck) :
    (Value.node (d.withTextCheck i c)).Sound := by
  unfold Descriptor.withTextCheck
  split
  · exact hd.withBody (.of_leaf trivial rfl rfl)
  · exact hd.withBody hd.body

theorem Value.Sound.withNumberCheck (hd : (Value.node d).Sound) (c : NumberCheck) :
    (Value.node (d.withNumberCheck i c)).Sound := by
  unfold Descriptor.withNumberCheck
  split
  · exact hd.withBody (.of_leaf trivial rfl rfl)
  · exact hd.withBody hd.body

theorem Value.Sound.withLength (hd : (Value.node d).Sound) (bound : LengthBound) {length : Value}
    (hlength : length.IsLength) : (Value.node (d.withLength bound length i)).Sound := by
  have hbody := hd.body
  obtain ⟨j, description, body⟩ := d
  cases body with
  | array element low high exact =>
    obtain ⟨hlow, hhigh, hexact⟩ := hbody.typed
    have helement := hbody.children (.node element) List.mem_cons_self
    cases bound with
    | min => exact hd.withBody (.array helement hlength hhigh hexact)
    | max => exact hd.withBody (.array helement hlow hlength hexact)
    | exact => exact hd.withBody (.array helement hlow hhigh hlength)
  | _ => exact hd.withBody hbody

theorem Value.Sound.properties (hd : (Value.node d).Sound) :
    ∀ e ∈ d.properties, e.1.IsText ∧ e.2.IsNode ∧ e.2.Sound := by
  have hbody := hd.body
  unfold Descriptor.properties
  split
  · rename_i hb
    exact (hb ▸ hbody).property
  · simp

theorem Value.Sound.withProperties (hd : (Value.node d).Sound) {properties : Fields}
    (h : ∀ e ∈ properties, e.1.IsText ∧ e.2.IsNode ∧ e.2.Sound) : (Value.node (d.withProperties i properties)).Sound :=
  hd.withBody (.object h)

theorem Value.Sound.withRest (hd : (Value.node d).Sound) {rest : Value} (hrest : rest = .null ∨ rest.IsNode ∧ rest.Sound) :
    (Value.node (d.withRest rest i)).Sound := by
  have hbody := hd.body
  unfold Descriptor.withRest
  split
  · rename_i items _ hb
    exact hd.withBody (.tuple (hb ▸ hbody).item hrest)
  · exact hd.withBody hbody

theorem Value.Sound.optionalProperties {properties made : Fields} {n : Nat}
    (h : ∀ e ∈ properties, e.1.IsText ∧ e.2.IsNode ∧ e.2.Sound)
    (hmade : Descriptor.optionalProperties defs copy i n properties = .ok made) :
    ∀ e ∈ made, e.1.IsText ∧ e.2.IsNode ∧ e.2.Sound := by
  induction properties generalizing n made with
  | nil =>
    obtain rfl := Except.ok.inj hmade
    simp
  | cons entry properties ih =>
    obtain ⟨key, v⟩ := entry
    obtain ⟨⟨hkey, ⟨d, hv⟩, hsound⟩, hrest⟩ := List.forall_mem_cons.mp h
    simp only [Descriptor.optionalProperties, Except.bind_eq_ok] at hmade
    obtain ⟨property, hproperty, more, hmore, hmade⟩ := hmade
    obtain rfl := Except.ok.inj hmade
    refine List.forall_mem_cons.mpr ⟨⟨hkey, ?_⟩, ih hrest hmore⟩
    subst hv
    unfold Descriptor.optionalProperty at hproperty
    split_ifs at hproperty
    · obtain rfl := Except.ok.inj hproperty
      exact ⟨⟨d, rfl⟩, hsound⟩
    · obtain ⟨e, he, rfl⟩ := Except.map_eq_ok.mp hproperty
      exact ⟨⟨e, rfl⟩, hsound.wrapped (by simp) (Checked.outcome_eq_ok.mp he)⟩

/-- What a checked operation makes, if it makes anything, is sound. -/
def Checked.MakesSound (c : Checked Descriptor) : Prop := ∀ e, c = .ok e → (Value.node e).Sound

theorem Checked.MakesSound.of_outcome {c : Checked Descriptor} (hc : c.MakesSound) {v : Value}
    (h : c.outcome.map Value.node = .ok v) : ∃ e, v = .node e ∧ (Value.node e).Sound := by
  obtain ⟨e, he, rfl⟩ := Except.map_eq_ok.mp h
  exact ⟨e, rfl, hc e (Checked.outcome_eq_ok.mp he)⟩

theorem Value.Sound.makesSound_wrapped (hd : (Value.node d).Sound) {k : Kind} {more : Fields}
    (hmore : ∀ e ∈ more, e.2.Sound) : (d.wrapped k more i).MakesSound := fun _ he => hd.wrapped hmore he

theorem Value.Sound.makesSound_nullish (hd : (Value.node d).Sound) : (d.nullish i).MakesSound := by
  intro e he
  unfold Descriptor.nullish at he
  split at he
  · rename_i inner hinner
    exact (hd.wrapped (by simp) hinner).wrapped (by simp) he
  · cases he

theorem Value.Sound.makesSound_default (hd : (Value.node d).Sound) {value : Value} (hvalue : value.Sound) :
    (d.default value i).MakesSound := by
  intro e he
  unfold Descriptor.default at he
  split at he
  · exact hd.wrapped (by simp) he
  · exact hd.wrapped (by simpa using hvalue) he

theorem Value.Sound.makesSound_or (hd : (Value.node d).Sound) {other : Value} (hother : other.Sound) :
    (d.or other i).MakesSound := by
  have hoptions : (Value.tuple [.node d, other]).Sound :=
    tuple_iff.mpr (List.forall_mem_cons.mpr ⟨hd, List.forall_mem_singleton.mpr hother⟩)
  exact fun e he => Descriptor.sound_of_ofFields (List.forall_mem_singleton.mpr hoptions) he

theorem Value.Sound.makesSound_and (hd : (Value.node d).Sound) {other : Value} (hother : other.Sound) :
    (d.and other i).MakesSound := fun _ he =>
  Descriptor.sound_of_ofFields (List.forall_mem_cons.mpr ⟨hd, List.forall_mem_singleton.mpr hother⟩) he

theorem Value.Sound.makesSound_withTextCheck (hd : (Value.node d).Sound) (check : Checked TextCheck) :
    (check.map fun c => d.withTextCheck i c).MakesSound := by
  intro e he
  obtain ⟨c, -, rfl⟩ := Checked.map_eq_ok.mp he
  exact hd.withTextCheck c

theorem Value.Sound.makesSound_withNumberCheck (hd : (Value.node d).Sound) (check : Checked NumberCheck) :
    (check.map fun c => d.withNumberCheck i c).MakesSound := by
  intro e he
  obtain ⟨c, -, rfl⟩ := Checked.map_eq_ok.mp he
  exact hd.withNumberCheck c

theorem Value.Sound.makesSound_checkText (hd : (Value.node d).Sound) (rule : TextRule) (operand : Value) :
    (d.checkText rule operand i).MakesSound := hd.makesSound_withTextCheck _

theorem Value.Sound.makesSound_checkNumber (hd : (Value.node d).Sound) (rule : NumberRule) (operand : Value)
    (inclusive : Bool) : (d.checkNumber rule operand inclusive i).MakesSound := hd.makesSound_withNumberCheck _

theorem Value.Sound.makesSound_matching (hd : (Value.node d).Sound) (pattern : Value) :
    (d.matching pattern i).MakesSound := by
  unfold Descriptor.matching
  split
  · exact hd.makesSound_withTextCheck _
  · exact hd.makesSound_checkText .regex pattern

theorem Value.Sound.makesSound_withCheck (hd : (Value.node d).Sound) (arguments : List Value) :
    (d.withCheck arguments i).MakesSound := by
  simp only [Descriptor.withCheck]
  split
  · exact hd.makesSound_withTextCheck _
  · exact hd.makesSound_withNumberCheck _

theorem Value.Sound.extend (hd : (Value.node d).Sound) {shape : Fields}
    (hshape : ∀ e ∈ shape, e.1.IsText ∧ e.2.IsNode ∧ e.2.Sound) : (Value.node (d.extend shape i)).Sound :=
  hd.withProperties (Entries.forall_putAll (P := Value.IsText) (Q := fun v => v.IsNode ∧ v.Sound) hd.properties hshape)

/-- The properties that are read from the argument of `extend`. -/
theorem Value.Sound.mapping {argument : Value} (hargument : argument.Sound) (htakes : Method.extend.Takes argument)
    {shape : Fields} (h : argument.mapping defs copy = .ok shape) :
    ∀ e ∈ shape, e.1.IsText ∧ e.2.IsNode ∧ e.2.Sound := by
  rcases Value.mapping_eq_ok h with hentries | rfl
  · intro e he
    obtain ⟨hkey, hnode⟩ := htakes shape hentries e he
    exact ⟨hkey, hnode, (hargument.entries hentries e he).2⟩
  · simp

/-- A method that makes a descriptor makes a sound one of sound arguments. -/
theorem Descriptor.sound_of_perform (hd : (Value.node d).Sound) {m : Method} (hm : m.makes = true)
    {arguments : List Value} (harguments : ∀ v ∈ arguments, v.Sound) (htakes : m.Takes (arguments.headD .null)) {v : Value}
    (h : d.perform defs copy i m arguments = .ok v) : ∃ e, v = .node e ∧ (Value.node e).Sound := by
  have hargument : (arguments.headD .null).Sound := by
    cases arguments with
    | nil => exact .null
    | cons first rest => exact harguments first List.mem_cons_self
  have hmade {e : Descriptor} (he : (Value.node e).Sound) (h : (.ok (.node e) : Outcome Value) = .ok v) :
      ∃ e, v = .node e ∧ (Value.node e).Sound := ⟨e, (Except.ok.inj h).symm, he⟩
  cases m with
  | describe => exact hmade (Value.Sound.node_iff.mpr ⟨htakes, hd.body⟩) h
  | optional | nullable | readonly => exact (hd.makesSound_wrapped (by simp)).of_outcome h
  | nullish => exact hd.makesSound_nullish.of_outcome h
  | default => exact (hd.makesSound_default hargument).of_outcome h
  | catching | transform | refine | brand => exact (hd.makesSound_wrapped (by simpa using hargument)).of_outcome h
  | array =>
    have harray : (d.array i).MakesSound := fun _ he => Descriptor.sound_of_ofFields (List.forall_mem_singleton.mpr hd) he
    exact harray.of_outcome h
  | or => exact (hd.makesSound_or hargument).of_outcome h
  | and => exact (hd.makesSound_and hargument).of_outcome h
  | textCheck rule => exact (hd.makesSound_checkText rule _).of_outcome h
  | bareTextCheck rule => exact (hd.makesSound_checkText rule .null).of_outcome h
  | matching => exact (hd.makesSound_matching _).of_outcome h
  | bound rule inclusive => exact (hd.makesSound_checkNumber rule _ inclusive).of_outcome h
  | boundAtZero rule inclusive => exact (hd.makesSound_checkNumber rule (.int 0) inclusive).of_outcome h
  | integer => exact (hd.makesSound_checkNumber .int .null true).of_outcome h
  | multipleOf => exact (hd.makesSound_checkNumber .multipleOf _ true).of_outcome h
  | withCheck => exact (hd.makesSound_withCheck arguments).of_outcome h
  | length bound => exact hmade (hd.withLength bound htakes) h
  | nonempty => exact hmade (hd.withLength .min (.inr ⟨1, rfl⟩)) h
  | extend =>
    obtain ⟨shape, hshape, rfl⟩ := Except.map_eq_ok.mp h
    exact ⟨_, rfl, hd.extend (hargument.mapping htakes hshape)⟩
  | pick | omitting => exact hmade (hd.withProperties fun e he => hd.properties e (List.mem_of_mem_filter he)) h
  | allOptional =>
    obtain ⟨e, he, rfl⟩ := Except.map_eq_ok.mp h
    obtain ⟨made, hoptional, rfl⟩ := Except.map_eq_ok.mp he
    exact ⟨_, rfl, hd.withProperties (Value.Sound.optionalProperties hd.properties hoptional)⟩
  | withRest => exact hmade (hd.withRest (htakes.imp_right fun hnode => ⟨hnode, hargument⟩)) h
  | duplicate => exact hmade (Value.Sound.node_iff.mpr ⟨hd.description, hd.body⟩) h
  | _ => cases hm

end Methods

/-- Every descriptor in a value stands in one of those that were made. -/
def Value.IsFrom (made : List Descriptor) (v : Value) : Prop :=
  ∀ d, v.Holds (.node d) → ∃ m ∈ made, (Value.node m).Holds (.node d)

theorem Value.IsFrom.of_mem {made : List Descriptor} {d : Descriptor} (h : d ∈ made) : (Value.node d).IsFrom made :=
  fun _ hd => ⟨d, h, hd⟩

theorem Value.IsFrom.of_parts {made : List Descriptor} {v : Value} (hv : ¬ v.IsNode) (h : ∀ w ∈ v.parts, w.IsFrom made) :
    v.IsFrom made := by
  intro d hd
  rcases Relation.ReflTransGen.cases_head hd with rfl | ⟨w, hw, hd⟩
  · exact (hv ⟨d, rfl⟩).elim
  · exact h w hw d hd

/-- A call of a builder, or of a method of a descriptor. -/
inductive Call where
  | build (builder : Text) (arguments : List Value)
  | method (receiver : Descriptor) (name : Text) (arguments : List Value)

namespace Call

/-- What a call comes to; a new node has identity `i`, what a function builds has number `copy`. -/
def run (defs : Definitions) (copy : Nat) (i : Identity) : Call → Outcome Value
  | build builder arguments => (Builder.call defs copy i builder arguments).map .node
  | method receiver name arguments => (Value.node receiver).call defs copy i name arguments

def given : Call → List Value
  | build _ arguments => arguments
  | method receiver _ arguments => .node receiver :: arguments

def Makes : Call → Prop
  | build _ _ => True
  | method receiver name _ => ∃ m, Method.named? receiver.toKind name = some m ∧ m.makes = true

def Uses (made : List Descriptor) (c : Call) : Prop := ∀ v ∈ c.given, v.IsFrom made

/-- A method that does not look at its argument is given one of the declared type. -/
def Fits : Call → Prop
  | build _ _ => True
  | method receiver name arguments =>
    ∀ m, Method.named? receiver.toKind name = some m → m.Takes (arguments.headD .null)

end Call

/-- What a sequence of calls has made, the last first. -/
inductive Made (defs : Definitions) : List Descriptor → Prop
  | start : Made defs []
  | call {made : List Descriptor} {c : Call} {copy : Nat} {i : Identity} {d : Descriptor} (before : Made defs made)
      (makes : c.Makes) (uses : c.Uses made) (fits : c.Fits) (result : c.run defs copy i = .ok (.node d)) :
      Made defs (d :: made)

variable {defs : Definitions}

theorem Call.sound_of_run {c : Call} (hmakes : c.Makes) (hgiven : ∀ v ∈ c.given, v.Sound) (hfits : c.Fits) {copy : Nat}
    {i : Identity} {v : Value} (h : c.run defs copy i = .ok v) : ∃ d, v = .node d ∧ (Value.node d).Sound := by
  cases c with
  | build builder arguments =>
    obtain ⟨d, hd, rfl⟩ := Except.map_eq_ok.mp h
    exact ⟨d, rfl, Builder.sound_of_call hgiven hd⟩
  | method receiver name arguments =>
    obtain ⟨m, hname, hm⟩ := hmakes
    obtain ⟨hreceiver, harguments⟩ := List.forall_mem_cons.mp hgiven
    simp only [Call.run, Value.call, hname, Except.bind_eq_ok] at h
    obtain ⟨_, -, h⟩ := h
    exact Descriptor.sound_of_perform hreceiver hm harguments (hfits m hname) h

theorem Call.Uses.sound {made : List Descriptor} {c : Call} (h : c.Uses made)
    (hmade : ∀ d ∈ made, (Value.node d).Sound) : ∀ v ∈ c.given, v.Sound := by
  intro v hv d hd
  obtain ⟨m, hm, hholds⟩ := h v hv d hd
  exact hmade m hm d hholds

theorem Made.sound {made : List Descriptor} (h : Made defs made) : ∀ d ∈ made, (Value.node d).Sound := by
  induction h with
  | start => simp
  | call _ makes uses fits result ih =>
    obtain ⟨d, hd, hsound⟩ := Call.sound_of_run makes (uses.sound ih) fits result
    obtain rfl := Value.node.inj hd
    exact List.forall_mem_cons.mpr ⟨hsound, ih⟩

/-- After any sequence of calls, a call fails or makes a descriptor whose fields, and those of all descriptors in it,
have their declared types. -/
theorem Made.run_sound {made : List Descriptor} (h : Made defs made) {c : Call} (makes : c.Makes) (uses : c.Uses made)
    (fits : c.Fits) (copy : Nat) (i : Identity) :
    (∃ failure, c.run defs copy i = .error failure) ∨ ∃ d, c.run defs copy i = .ok (.node d) ∧ (Value.node d).Sound := by
  cases hrun : c.run defs copy i with
  | error failure => exact .inl ⟨failure, rfl⟩
  | ok v =>
    obtain ⟨d, rfl, hsound⟩ := Call.sound_of_run makes (uses.sound h.sound) fits hrun
    exact .inr ⟨d, rfl, hsound⟩

def madeText : Descriptor := .plainText ⟨0, [0], 0⟩

def madeObject : Descriptor := .mk ⟨0, [1], 0⟩ .null (.object [(.text "a", .node madeText)])

theorem isFrom_shape {made : List Descriptor} {key : Text} {d : Descriptor} (h : d ∈ made) :
    (Value.dict [(.text key, .node d)]).IsFrom made := by
  refine .of_parts (by rintro ⟨_, h⟩; cases h) fun w hw => ?_
  rcases List.mem_pair.mp hw with rfl | rfl
  · exact .of_parts (by rintro ⟨_, h⟩; cases h) fun w hw => by cases hw
  · exact .of_mem h

theorem made_text : Made [] [madeText] := by
  have hrun : (Call.build "string" []).run [] 0 ⟨0, [0], 0⟩ = .ok (.node madeText) := rfl
  exact .call (c := .build "string" []) .start trivial (fun v hv => by cases hv) trivial hrun

theorem descriptorAt_node (levels : Nat) (i : Identity) (d : Descriptor) : descriptorAt (levels + 1) i (.node d) = .ok d := by
  simp [descriptorAt, Value.describedKind]

theorem run_object (defs : Definitions) (copy : Nat) (i : Identity) (key : Text) (d : Descriptor) :
    (Call.build "object_" [.dict [(.text key, .node d)]]).run defs copy i =
      .ok (.node (.mk i .null (.object [(.text key, .node d)]))) := by
  have hfields : Descriptor.ofFields .object i [(.text "shape", .dict [(.text key, .node d)])] =
      .ok (.mk i .null (.object [(.text key, .node d)])) := by
    simp [Descriptor.ofFields, Descriptor.ofFieldsWith, Body.ofFields, Fields.optional, Checked.shape, Value.entries?,
      Checked.properties, Checked.propertyKey, Checked.text, Value.rawText?, deepestLevel, descriptorAt_node,
      Entries.ofList, Entries.putAll, Entries.put]
  have hmake : Builder.object.make defs copy i (.dict [(.text key, .node d)]) .null =
      .ok (.mk i .null (.object [(.text key, .node d)])) := by
    change (Descriptor.ofFields .object i [(.text "shape", .dict [(.text key, .node d)])]).outcome = _
    rw [hfields, Checked.outcome]
  have hcall : Builder.call defs copy i "object_" [.dict [(.text key, .node d)]] =
      Builder.object.make defs copy i (.dict [(.text key, .node d)]) .null := rfl
  rw [Call.run, hcall, hmake]
  rfl

theorem made_object : Made [] [madeObject, madeText] := by
  have hrun : (Call.build "object_" [.dict [(.text "a", .node madeText)]]).run [] 0 ⟨0, [1], 0⟩ =
      .ok (.node madeObject) := run_object _ _ _ _ _
  exact .call (c := .build "object_" [.dict [(.text "a", .node madeText)]]) made_text trivial
    (List.forall_mem_singleton.mpr (isFrom_shape (List.mem_singleton_self _))) trivial hrun

/-- The object with one more property is made by the third call. -/
theorem run_extend_sound :
    Made [] [madeObject, madeText] ∧
      ∃ d, (Call.method madeObject "extend" [.dict [(.text "b", .node madeText)]]).run [] 0 ⟨0, [2], 0⟩ = .ok (.node d) ∧
        d.properties = [(.text "a", .node madeText), (.text "b", .node madeText)] ∧ (Value.node d).Sound := by
  have hmakes : (Call.method madeObject "extend" [.dict [(.text "b", .node madeText)]]).Makes := ⟨.extend, rfl, rfl⟩
  have huses : (Call.method madeObject "extend" [.dict [(.text "b", .node madeText)]]).Uses [madeObject, madeText] :=
    List.forall_mem_cons.mpr ⟨.of_mem List.mem_cons_self,
      List.forall_mem_singleton.mpr (isFrom_shape (List.mem_cons_of_mem _ (List.mem_singleton_self _)))⟩
  have hfits : (Call.method madeObject "extend" [.dict [(.text "b", .node madeText)]]).Fits := by
    intro m hm
    have hname : Method.named? madeObject.toKind "extend" = some .extend := rfl
    obtain rfl := Option.some.inj (hname.symm.trans hm)
    intro entries hentries e he
    obtain rfl := Option.some.inj hentries
    obtain rfl := List.mem_singleton.mp he
    exact ⟨⟨_, rfl⟩, _, rfl⟩
  have hrun : (Call.method madeObject "extend" [.dict [(.text "b", .node madeText)]]).run [] 0 ⟨0, [2], 0⟩ =
      .ok (.node (.mk ⟨0, [2], 0⟩ .null (.object [(.text "a", .node madeText), (.text "b", .node madeText)]))) := by
    have hput : Entries.putAll madeObject.properties [(.text "b", .node madeText)] =
        [(.text "a", .node madeText), (.text "b", .node madeText)] := by
      simp [madeObject, Descriptor.properties, Descriptor.body, Entries.putAll, Entries.put, Value.same_text,
        Text.ofString_inj]
    have hextend : madeObject.extend [(.text "b", .node madeText)] ⟨0, [2], 0⟩ =
        .mk ⟨0, [2], 0⟩ .null (.object [(.text "a", .node madeText), (.text "b", .node madeText)]) := by
      rw [Descriptor.extend, hput]
      rfl
    rw [← hextend]
    rfl
  refine ⟨made_object, _, hrun, rfl, ?_⟩
  obtain ⟨failure, hfailure⟩ | ⟨d, hd, hsound⟩ := made_object.run_sound hmakes huses hfits 0 ⟨0, [2], 0⟩
  · cases hrun.symm.trans hfailure
  · obtain rfl := Value.node.inj (Except.ok.inj (hrun.symm.trans hd))
    exact hsound

def misdescribed : Descriptor := .mk ⟨0, [1], 0⟩ (.int 5) (.string [])

def misdescribedObject : Descriptor := .mk ⟨0, [2], 0⟩ .null (.object [(.text "a", .node misdescribed)])

/-- A copy with another description does not look at it, and an object takes the copy as it is. Then its table cannot
be rendered. -/
theorem run_describe_not_sound :
    Made [] [madeText] ∧ (Call.method madeText "describe" [.int 5]).Makes ∧
      (Call.method madeText "describe" [.int 5]).Uses [madeText] ∧
      (Call.method madeText "describe" [.int 5]).run [] 0 ⟨0, [1], 0⟩ = .ok (.node misdescribed) ∧
      ¬ misdescribed.Typed ∧
      (Call.build "object_" [.dict [(.text "a", .node misdescribed)]]).run [] 0 ⟨0, [2], 0⟩ =
        .ok (.node misdescribedObject) ∧
      ∃ raised, render [] .standard 0 (.node misdescribedObject) = .error raised := by
  have huses : (Call.method madeText "describe" [.int 5]).Uses [madeText] :=
    List.forall_mem_cons.mpr ⟨.of_mem (List.mem_singleton_self _), List.forall_mem_singleton.mpr
      (.of_parts (by rintro ⟨_, h⟩; cases h) fun w hw => by cases hw)⟩
  refine ⟨made_text, ⟨.describe, rfl, rfl⟩, huses, rfl, ?_, run_object _ _ _ _ _, _, rfl⟩
  rintro ⟨h | ⟨t, h⟩, -⟩ <;> cases h

end Schematic
