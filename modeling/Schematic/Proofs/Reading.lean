import Schematic.Proofs.Inert
import Schematic.Validation.Data

namespace Schematic

namespace Checked

variable {α β : Type}

theorem map_eq_ok {f : α → β} {x : Checked α} {b : β} : x.map f = .ok b ↔ ∃ a, x = .ok a ∧ f a = b := by
  cases x <;> simp [map]

theorem functor_map_eq_ok {f : α → β} {x : Checked α} {b : β} : f <$> x = .ok b ↔ ∃ a, x = .ok a ∧ f a = b :=
  map_eq_ok

theorem seq_eq_ok {f : Checked (α → β)} {x : Checked α} {b : β} :
    f <*> x = .ok b ↔ ∃ g a, f = .ok g ∧ x = .ok a ∧ g a = b := by
  change f.apply x = .ok b ↔ _
  cases f <;> cases x <;> simp [apply]

theorem within_eq_ok {place : Place} {x : Checked α} {a : α} : within place x = .ok a ↔ x = .ok a := by
  cases x <;> simp [within]

theorem fault_ne_ok {fault : Fault} {a : α} : (Checked.fault fault : Checked α) ≠ .ok a := by
  simp [Checked.fault]

@[simp] theorem map_ok (f : α → β) (a : α) : (ok a).map f = ok (f a) := rfl

@[simp] theorem functor_map_ok (f : α → β) (a : α) : f <$> ok a = ok (f a) := rfl

@[simp] theorem ok_seq_ok (f : α → β) (a : α) : ok f <*> ok a = ok (f a) := rfl

@[simp] theorem within_ok (place : Place) (a : α) : within place (ok a) = ok a := rfl

/-- What every check of an item ensures holds of all that a list of them gives. -/
theorem forall_of_each {check : Nat → α → Checked β} {P : β → Prop} {items : List α} {results : List β} {n : Nat}
    (hcheck : ∀ a ∈ items, ∀ n b, check n a = .ok b → P b) (h : each check n items = .ok results) :
    ∀ b ∈ results, P b := by
  induction items generalizing n results with
  | nil =>
    obtain rfl : [] = results := Checked.ok.inj h
    simp
  | cons a items ih =>
    obtain ⟨hfirst, hitems⟩ := List.forall_mem_cons.mp hcheck
    simp only [each, seq_eq_ok, functor_map_eq_ok, within_eq_ok] at h
    obtain ⟨_, more, ⟨b, hb, rfl⟩, hmore, rfl⟩ := h
    exact List.forall_mem_cons.mpr ⟨hfirst n b hb, ih hitems hmore⟩

end Checked

namespace Fields

@[simp] theorem get?_cons (s t : String) (v : Value) (rest : Fields) :
    Fields.get? ((.text s, v) :: rest) t = if s = t then some v else Fields.get? rest t := by
  simp only [Fields.get?, Entries.get?_cons_text, Text.ofString_inj]

@[simp] theorem get?_nil (name : Text) : Fields.get? [] name = none := rfl

variable {α : Type} {fields : Fields} {name : Text} {read : Value → Checked α} {a : α}

theorem required_eq_ok : fields.required name read = .ok a ↔ ∃ v, fields.get? name = some v ∧ read v = .ok a := by
  unfold required
  rw [Checked.within_eq_ok]
  cases fields.get? name with
  | none => simp [Checked.fault_ne_ok]
  | some v => simp

theorem optional_eq_ok {default : α} :
    fields.optional name default read = .ok a ↔
      (fields.get? name = none ∧ a = default) ∨ ∃ v, fields.get? name = some v ∧ read v = .ok a := by
  unfold optional
  cases fields.get? name with
  | none => simp [eq_comm]
  | some v => simp [Checked.within_eq_ok]

end Fields

@[simp] theorem Kind.ofTag?_tag (k : Kind) : Kind.ofTag? k.tag = some k := by
  cases k with
  | primitive p => cases p <;> decide
  | _ => decide

theorem descriptorAt_of_kind {k : Kind} {entries : Fields} (h : Fields.get? entries "kind" = some (.text k.tag))
    (levels : Nat) (i : Identity) :
    descriptorAt (levels + 1) i (.dict entries) =
      Checked.within (.name k.tag) (Descriptor.ofFieldsWith (descriptorAt levels) k i entries) := by
  have hkind : (Value.dict entries).describedKind = .ok k := by
    simp only [Value.describedKind, h, kindNamed, Kind.ofTag?_tag]
  rw [descriptorAt, hkind]
  rfl

section Fields

variable {α : Type} {fields : Fields} {name : Text} {read : Value → Checked α} {a : α} {P : α → Prop} {Q : Value → Prop}

theorem of_getD (hfields : ∀ e ∈ fields, Q e.2) (hnull : Q .null) (name : Text) : Q ((fields.get? name).getD .null) := by
  cases h : fields.get? name with
  | none => exact hnull
  | some v => exact Entries.forall_get? hfields h

/-- What reading a field ensures holds of a field that must be given. -/
theorem of_required (hfields : ∀ e ∈ fields, Q e.2) (hread : ∀ v a, Q v → read v = .ok a → P a)
    (h : fields.required name read = .ok a) : P a := by
  obtain ⟨v, hv, ha⟩ := Fields.required_eq_ok.mp h
  exact hread v a (Entries.forall_get? hfields hv) ha

/-- What reading a field ensures holds of a field if its default has it. -/
theorem of_optional {default : α} (hfields : ∀ e ∈ fields, Q e.2)
    (hread : ∀ v a, Q v → read v = .ok a → P a) (hdefault : P default)
    (h : fields.optional name default read = .ok a) : P a := by
  rcases Fields.optional_eq_ok.mp h with ⟨_, rfl⟩ | ⟨v, hv, ha⟩
  · exact hdefault
  · exact hread v a (Entries.forall_get? hfields hv) ha

theorem of_sequence {read : Nat → Value → Checked α} {v : Value} {results : List α}
    (hv : ∀ items, v.items? = some items → ∀ w ∈ items, Q w) (hread : ∀ n v a, Q v → read n v = .ok a → P a)
    (h : Checked.sequence read v = .ok results) : ∀ a ∈ results, P a := by
  unfold Checked.sequence at h
  split at h
  · rename_i items hitems
    exact Checked.forall_of_each (fun w hw n b hb => hread n w b (hv items hitems w hw) hb) h
  · exact absurd h Checked.fault_ne_ok

theorem textOrNull_isText {v w : Value} (h : Checked.textOrNull v = .ok w) : w = .null ∨ w.IsText := by
  unfold Checked.textOrNull at h
  split at h
  · exact .inl (Checked.ok.inj h).symm
  · obtain ⟨t, _, rfl⟩ := Checked.map_eq_ok.mp h
    exact .inr ⟨t, rfl⟩

theorem integerOrNull_isLength {v w : Value} (h : Checked.integerOrNull v = .ok w) : w.IsLength := by
  unfold Checked.integerOrNull at h
  split at h
  · exact .inl (Checked.ok.inj h).symm
  · obtain ⟨n, _, rfl⟩ := Checked.map_eq_ok.mp h
    exact .inr ⟨n, rfl⟩

theorem callableOrNull_isFunction {v w : Value} (h : Checked.callableOrNull v = .ok w) : w = .null ∨ w.IsFunction := by
  unfold Checked.callableOrNull at h
  split at h
  · exact .inl (Checked.ok.inj h).symm
  · exact .inr ⟨_, _, (Checked.ok.inj h).symm⟩
  · exact absurd h Checked.fault_ne_ok

/-- The properties that are read from a dictionary have texts as keys. -/
theorem of_properties {read : Nat → Value → Checked Descriptor} {P : Descriptor → Prop} {entries : Fields}
    {properties : List (Value × Value)} {n : Nat} (hentries : ∀ e ∈ entries, Q e.2)
    (hread : ∀ n v d, Q v → read n v = .ok d → P d)
    (h : Checked.properties read n entries = .ok properties) :
    ∀ e ∈ properties, e.1.IsText ∧ ∃ d, e.2 = .node d ∧ P d := by
  induction entries generalizing n properties with
  | nil =>
    obtain rfl : [] = properties := Checked.ok.inj h
    simp
  | cons entry entries ih =>
    obtain ⟨key, v⟩ := entry
    obtain ⟨hv, hentries⟩ := List.forall_mem_cons.mp hentries
    simp only [Checked.properties, Checked.seq_eq_ok, Checked.functor_map_eq_ok, Checked.within_eq_ok] at h
    obtain ⟨_, more, ⟨_, d, ⟨t, _, rfl⟩, hd, rfl⟩, hmore, rfl⟩ := h
    exact List.forall_mem_cons.mpr ⟨⟨⟨t, rfl⟩, d, rfl, hread n v d hv hd⟩, ih hentries hmore⟩

theorem of_shape {read : Nat → Value → Checked Descriptor} {P : Descriptor → Prop} {v : Value}
    {properties : List (Value × Value)} (hv : ∀ entries, v.entries? = some entries → ∀ e ∈ entries, Q e.2)
    (hread : ∀ n v d, Q v → read n v = .ok d → P d) (h : Checked.shape read v = .ok properties) :
    Entries.Keyed properties ∧ ∀ e ∈ properties, ∃ d, e.2 = .node d ∧ P d := by
  unfold Checked.shape at h
  split at h
  · rename_i entries hentries
    obtain ⟨listed, hlisted, rfl⟩ := Checked.map_eq_ok.mp h
    have hproperties := of_properties (hv entries hentries) hread hlisted
    have htexts : ∀ e ∈ listed, e.1.IsText := fun e he => (hproperties e he).1
    exact ⟨Entries.keyed_ofList htexts, fun e he => (hproperties e (Entries.mem_ofList htexts he)).2⟩
  · exact absurd h Checked.fault_ne_ok

/-- What is read as a function, or null. -/
def ReadAsFunction (Q : Value → Prop) (w : Value) : Prop :=
  w = .null ∨ ∃ v, Q v ∧ Checked.callableOrNull v = .ok w

/-- The fields of a node whose nodes are `P` and whose other values are read from those that are `Q`. -/
inductive Body.MadeOf (Q : Value → Prop) (P : Descriptor → Prop) : Body → Prop where
  | string (checks : List TextCheck) : MadeOf Q P (.string checks)
  | number (checks : List NumberCheck) : MadeOf Q P (.number checks)
  | primitive (p : Primitive) : MadeOf Q P (.primitive p)
  | array {element : Descriptor} {low high exact : Value} (helement : P element) (hlow : low.IsLength)
      (hhigh : high.IsLength) (hexact : exact.IsLength) : MadeOf Q P (.array element low high exact)
  | object {properties : Fields} (hkeyed : Entries.Keyed properties)
      (hnodes : ∀ e ∈ properties, ∃ d, e.2 = .node d ∧ P d) : MadeOf Q P (.object properties)
  | enum (options : List Text) : MadeOf Q P (.enum options)
  | union {options : List Descriptor} (h : ∀ d ∈ options, P d) : MadeOf Q P (.union options)
  | intersection {left right : Descriptor} (hleft : P left) (hright : P right) : MadeOf Q P (.intersection left right)
  | record {key value : Descriptor} (hkey : P key) (hvalue : P value) : MadeOf Q P (.record key value)
  | tuple {items : List Descriptor} {rest : Value} (hitems : ∀ d ∈ items, P d)
      (hrest : rest = .null ∨ ∃ d, rest = .node d ∧ P d) : MadeOf Q P (.tuple items rest)
  | literal {value : Value} (h : Q value) : MadeOf Q P (.literal value)
  | promise {inner : Descriptor} (h : P inner) : MadeOf Q P (.promise inner)
  | optional {inner : Descriptor} (h : P inner) : MadeOf Q P (.modified .optional inner)
  | nullable {inner : Descriptor} (h : P inner) : MadeOf Q P (.modified .nullable inner)
  | readonly {inner : Descriptor} (h : P inner) : MadeOf Q P (.modified .readonly inner)
  | catching {value : Value} {inner : Descriptor} (hvalue : Q value) (h : P inner) :
      MadeOf Q P (.modified (.catching value) inner)
  | default {value factory : Value} {inner : Descriptor} (hvalue : Q value) (hfactory : ReadAsFunction Q factory)
      (h : P inner) : MadeOf Q P (.modified (.default value factory) inner)
  | effect {function : Value} {inner : Descriptor} (kind : EffectKind) (hfunction : ReadAsFunction Q function)
      (h : P inner) : MadeOf Q P (.modified (.effect function kind) inner)
  | branded {inner : Descriptor} (name : Text) (h : P inner) : MadeOf Q P (.modified (.branded name) inner)
  | lazy {v : Value} {b : Body} (hv : Q v) (h : Checked.getter v = .ok b) : MadeOf Q P b

theorem wrapperOfFields_madeOf {m : Checked Modifier} {inner : Checked Descriptor} {P : Descriptor → Prop} {b : Body}
    (hm : ∀ m' d, m = .ok m' → P d → (Body.modified m' d).MadeOf Q P) (hinner : ∀ d, inner = .ok d → P d)
    (h : Body.wrapperOfFields m inner = .ok b) : b.MadeOf Q P := by
  simp only [Body.wrapperOfFields, Checked.seq_eq_ok, Checked.functor_map_eq_ok] at h
  obtain ⟨_, m', ⟨d, hd, rfl⟩, hm', rfl⟩ := h
  exact hm m' d hm' (hinner d hd)

section Body

variable {P : Descriptor → Prop} {child : Nat → Value → Checked Descriptor} {i : Identity} {b : Body}
  (hfields : ∀ e ∈ fields, Q e.2) (hread : ∀ n v d, Q v → child n v = .ok d → P d)

include hfields

theorem integerOrNull_optional_isLength {v : Value}
    (h : fields.optional name .null Checked.integerOrNull = .ok v) : v.IsLength :=
  of_optional hfields (fun _ _ _ => integerOrNull_isLength) (.inl rfl) h

theorem callableOrNull_optional_readAsFunction {v : Value}
    (h : fields.optional name .null Checked.callableOrNull = .ok v) : ReadAsFunction Q v :=
  of_optional hfields (fun v _ hv hw => .inr ⟨v, hv, hw⟩) (.inl rfl) h

include hread

theorem array_madeOf (h : Body.ofFields child .array i fields = .ok b) : b.MadeOf Q P := by
  simp only [Body.ofFields, Checked.seq_eq_ok, Checked.functor_map_eq_ok] at h
  obtain ⟨_, exact, ⟨_, high, ⟨_, low, ⟨element, helement, rfl⟩, hlow, rfl⟩, hhigh, rfl⟩, hexact, rfl⟩ := h
  exact .array (of_required hfields (hread 0) helement) (integerOrNull_optional_isLength hfields hlow)
    (integerOrNull_optional_isLength hfields hhigh) (integerOrNull_optional_isLength hfields hexact)

theorem object_madeOf (hentries : ∀ v entries, Q v → v.entries? = some entries → ∀ e ∈ entries, Q e.2)
    (h : Body.ofFields child .object i fields = .ok b) : b.MadeOf Q P := by
  obtain ⟨properties, hproperties, rfl⟩ := Checked.map_eq_ok.mp h
  have hshape : Entries.Keyed properties ∧ ∀ e ∈ properties, ∃ d, e.2 = .node d ∧ P d :=
    of_optional (P := fun properties => Entries.Keyed properties ∧ ∀ e ∈ properties, ∃ d, e.2 = .node d ∧ P d) hfields
      (fun v _ hv ha => of_shape (fun entries => hentries v entries hv) hread ha) ⟨.nil, by simp⟩ hproperties
  exact .object hshape.1 hshape.2

theorem union_madeOf (hitems : ∀ v items, Q v → v.items? = some items → ∀ w ∈ items, Q w)
    (h : Body.ofFields child .union i fields = .ok b) : b.MadeOf Q P := by
  obtain ⟨options, hoptions, rfl⟩ := Checked.map_eq_ok.mp h
  exact .union (of_required (P := fun options => ∀ d ∈ options, P d) hfields
    (fun v _ hv ha => of_sequence (fun items => hitems v items hv) hread ha) hoptions)

theorem intersection_madeOf (h : Body.ofFields child .intersection i fields = .ok b) : b.MadeOf Q P := by
  simp only [Body.ofFields, Checked.seq_eq_ok, Checked.functor_map_eq_ok] at h
  obtain ⟨_, right, ⟨left, hleft, rfl⟩, hright, rfl⟩ := h
  exact .intersection (of_required hfields (hread 0) hleft) (of_required hfields (hread 1) hright)

theorem record_madeOf (hplainText : ∀ v d, Q v → child 1 v = .ok d → P (.plainText (i.child 0)))
    (h : Body.ofFields child .record i fields = .ok b) : b.MadeOf Q P := by
  simp only [Body.ofFields, Checked.seq_eq_ok, Checked.functor_map_eq_ok] at h
  obtain ⟨_, value, ⟨key, hkey, rfl⟩, hvalue, rfl⟩ := h
  have hdefault : P (.plainText (i.child 0)) := of_required (P := fun _ => P (.plainText (i.child 0))) hfields hplainText hvalue
  exact .record (of_optional hfields (hread 0) hdefault hkey) (of_required hfields (hread 1) hvalue)

theorem tuple_madeOf (hitems : ∀ v items, Q v → v.items? = some items → ∀ w ∈ items, Q w)
    (h : Body.ofFields child .tuple i fields = .ok b) : b.MadeOf Q P := by
  simp only [Body.ofFields, Checked.seq_eq_ok, Checked.functor_map_eq_ok] at h
  obtain ⟨_, rest, ⟨items, hlisted, rfl⟩, hrest, rfl⟩ := h
  refine .tuple (of_optional (P := fun items => ∀ d ∈ items, P d) hfields
    (fun v _ hv ha => of_sequence (fun items => hitems v items hv) (fun n => hread (n + 1)) ha) (by simp) hlisted) ?_
  refine of_optional (P := fun rest => rest = .null ∨ ∃ d, rest = .node d ∧ P d) hfields (fun v rest hv hrest => ?_)
    (.inl rfl) hrest
  split at hrest
  · exact .inl (Checked.ok.inj hrest).symm
  · obtain ⟨d, hd, rfl⟩ := Checked.map_eq_ok.mp hrest
    exact .inr ⟨d, rfl, hread 0 v d hv hd⟩

theorem default_madeOf (hnull : Q .null) (h : Body.ofFields child .default i fields = .ok b) : b.MadeOf Q P := by
  refine wrapperOfFields_madeOf (fun m d hm hd => ?_) (fun d hd => of_required hfields (hread 0) hd) h
  obtain ⟨factory, hfactory, rfl⟩ := Checked.map_eq_ok.mp hm
  exact .default (of_getD hfields hnull _) (callableOrNull_optional_readAsFunction hfields hfactory) hd

theorem effect_madeOf (h : Body.ofFields child .effect i fields = .ok b) : b.MadeOf Q P := by
  refine wrapperOfFields_madeOf (fun m d hm hd => ?_) (fun d hd => of_required hfields (hread 0) hd) h
  simp only [Checked.seq_eq_ok, Checked.functor_map_eq_ok] at hm
  obtain ⟨_, kind, ⟨function, hfunction, rfl⟩, _, rfl⟩ := hm
  exact .effect kind (callableOrNull_optional_readAsFunction hfields hfunction) hd

theorem branded_madeOf (h : Body.ofFields child .branded i fields = .ok b) : b.MadeOf Q P := by
  refine wrapperOfFields_madeOf (fun m d hm hd => ?_) (fun d hd => of_required hfields (hread 0) hd) h
  obtain ⟨name, _, rfl⟩ := Checked.map_eq_ok.mp hm
  exact .branded name hd

theorem plain_madeOf {m : Modifier} (hm : ∀ d, P d → (Body.modified m d).MadeOf Q P)
    (h : Body.wrapperOfFields (.ok m) (fields.required "inner" (child 0)) = .ok b) : b.MadeOf Q P := by
  refine wrapperOfFields_madeOf (fun m' d hm' hd => ?_) (fun d hd => of_required hfields (hread 0) hd) h
  obtain rfl := Checked.ok.inj hm'
  exact hm d hd

theorem ofFields_madeOf (hnull : Q .null) (hitems : ∀ v items, Q v → v.items? = some items → ∀ w ∈ items, Q w)
    (hentries : ∀ v entries, Q v → v.entries? = some entries → ∀ e ∈ entries, Q e.2)
    (hplainText : ∀ v d, Q v → child 1 v = .ok d → P (.plainText (i.child 0))) {k : Kind}
    (h : Body.ofFields child k i fields = .ok b) : b.MadeOf Q P := by
  cases k with
  | string =>
    obtain ⟨checks, _, rfl⟩ := Checked.map_eq_ok.mp h
    exact .string checks
  | number =>
    obtain ⟨checks, _, rfl⟩ := Checked.map_eq_ok.mp h
    exact .number checks
  | primitive p =>
    obtain rfl := Checked.ok.inj h
    exact .primitive p
  | array => exact array_madeOf hfields hread h
  | object => exact object_madeOf hfields hread hentries h
  | enum =>
    obtain ⟨options, _, rfl⟩ := Checked.map_eq_ok.mp h
    exact .enum options
  | union => exact union_madeOf hfields hread hitems h
  | intersection => exact intersection_madeOf hfields hread h
  | record => exact record_madeOf hfields hread hplainText h
  | tuple => exact tuple_madeOf hfields hread hitems h
  | literal =>
    obtain rfl := Checked.ok.inj h
    exact .literal (of_getD hfields hnull _)
  | promise =>
    obtain ⟨inner, hinner, rfl⟩ := Checked.map_eq_ok.mp h
    exact .promise (of_required hfields (hread 0) hinner)
  | optional => exact plain_madeOf hfields hread (fun _ => .optional) h
  | nullable => exact plain_madeOf hfields hread (fun _ => .nullable) h
  | readonly => exact plain_madeOf hfields hread (fun _ => .readonly) h
  | catching => exact plain_madeOf hfields hread (fun _ => .catching (of_getD hfields hnull _)) h
  | default => exact default_madeOf hfields hread hnull h
  | effect => exact effect_madeOf hfields hread h
  | branded => exact branded_madeOf hfields hread h
  | lazy => exact of_required (P := fun b : Body => b.MadeOf Q P) hfields (fun v b hv hb => .lazy hv hb) h

end Body
end Fields

namespace Value.IsData

variable {v : Value}

theorem items (h : v.IsData) (items : List Value) (hitems : v.items? = some items) : ∀ w ∈ items, w.IsData := by
  cases h with
  | list hvalues =>
    obtain rfl := Option.some.inj hitems
    exact hvalues
  | _ => cases hitems

theorem entries (h : v.IsData) (entries : Fields) (hentries : v.entries? = some entries) : ∀ e ∈ entries, e.2.IsData := by
  cases h with
  | dict _ hvalues =>
    obtain rfl := Option.some.inj hentries
    exact hvalues
  | _ => cases hentries

end Value.IsData

theorem callableOrNull_of_isData {v w : Value} (hv : v.IsData) (h : Checked.callableOrNull v = .ok w) : w = .null := by
  cases hv with
  | null => exact (Checked.ok.inj h).symm
  | _ => exact absurd h Checked.fault_ne_ok

theorem not_getter_of_isData {v : Value} (hv : v.IsData) (b : Body) : Checked.getter v ≠ .ok b := by
  cases hv <;> exact Checked.fault_ne_ok

/-- A node that is read as a child of the node `i`. -/
def Descriptor.IsReadBelow (levels : Nat) (i : Identity) (d : Descriptor) : Prop :=
  d.InertWithin levels ∧ ∃ n, d.identity = i.child n

/-- The fields of an inert node whose identity is `i`. -/
structure Body.IsReadBelow (levels : Nat) (i : Identity) (b : Body) : Prop where
  callsNothing : b.CallsNothing
  holdsData : b.HoldsData
  children : ∀ w ∈ b.children, ∃ d : Descriptor, w = .node d ∧ d.IsReadBelow levels i

theorem Descriptor.inertWithin_mk {levels : Nat} {i : Identity} {description : Value} {body : Body}
    (hdescription : description = .null ∨ description.IsText) (h : body.IsReadBelow levels i) :
    (Descriptor.mk i description body).InertWithin (levels + 1) := by
  have hchild : ∀ e, .node e ∈ body.children → e.IsReadBelow levels i := by
    intro e he
    obtain ⟨d, heq, hd⟩ := h.children _ he
    exact Value.node.inj heq ▸ hd
  refine .mk hdescription h.callsNothing h.holdsData (fun w hw => ?_) (fun e he => (hchild e he).2)
    fun e he => (hchild e he).1
  obtain ⟨d, rfl, _⟩ := h.children w hw
  exact ⟨d, rfl⟩

/-- Positive levels are left where a record has read its values. -/
theorem plainText_isReadBelow (levels : Nat) (i : Identity) :
    (Descriptor.plainText (i.child 0)).IsReadBelow (levels + 1) i := by
  refine ⟨Descriptor.inertWithin_mk (.inl rfl) ⟨trivial, trivial, fun w hw => ?_⟩, 0, rfl⟩
  cases hw

namespace Body.IsReadBelow

variable {levels : Nat} {i : Identity} {b : Body}

theorem of_leaf (hcalls : b.CallsNothing) (hdata : b.HoldsData) (hchildren : b.children = []) :
    b.IsReadBelow levels i :=
  ⟨hcalls, hdata, fun w hw => by rw [hchildren] at hw; cases hw⟩

theorem of_child {d : Descriptor} (hcalls : b.CallsNothing) (hdata : b.HoldsData) (hchildren : b.children = [.node d])
    (hd : d.IsReadBelow levels i) : b.IsReadBelow levels i := by
  refine ⟨hcalls, hdata, fun w hw => ?_⟩
  rw [hchildren] at hw
  exact ⟨d, List.mem_singleton.mp hw, hd⟩

theorem of_pair {d e : Descriptor} (hcalls : b.CallsNothing) (hdata : b.HoldsData)
    (hchildren : b.children = [.node d, .node e]) (hd : d.IsReadBelow levels i) (he : e.IsReadBelow levels i) :
    b.IsReadBelow levels i := by
  refine ⟨hcalls, hdata, fun w hw => ?_⟩
  rw [hchildren] at hw
  rcases List.mem_pair.mp hw with rfl | rfl
  · exact ⟨d, rfl, hd⟩
  · exact ⟨e, rfl, he⟩

theorem tuple {items : List Descriptor} {rest : Value} (hitems : ∀ d ∈ items, d.IsReadBelow levels i)
    (hrest : rest = .null ∨ ∃ d : Descriptor, rest = .node d ∧ d.IsReadBelow levels i) :
    (Body.tuple items rest).IsReadBelow levels i := by
  refine ⟨trivial, trivial, fun w hw => ?_⟩
  rcases Body.mem_children_tuple.mp hw with ⟨d, hd, rfl⟩ | ⟨rfl, hnull⟩
  · exact ⟨d, rfl, hitems d hd⟩
  · exact hrest.resolve_left hnull

end Body.IsReadBelow

theorem ReadAsFunction.eq_null {w : Value} (h : ReadAsFunction Value.IsData w) : w = .null := by
  rcases h with rfl | ⟨v, hv, hw⟩
  · rfl
  · exact callableOrNull_of_isData hv hw

theorem Body.MadeOf.isReadBelow {levels : Nat} {i : Identity} {b : Body}
    (h : b.MadeOf Value.IsData (Descriptor.IsReadBelow levels i)) : b.IsReadBelow levels i := by
  cases h with
  | string | number | primitive | enum => exact .of_leaf trivial trivial rfl
  | array helement hlow hhigh hexact => exact .of_child trivial ⟨hlow, hhigh, hexact⟩ rfl helement
  | object hkeyed hnodes =>
    refine ⟨trivial, hkeyed, fun w hw => ?_⟩
    obtain ⟨e, he, rfl⟩ := List.mem_map.mp hw
    exact hnodes e he
  | union h =>
    refine ⟨trivial, trivial, fun w hw => ?_⟩
    obtain ⟨d, hd, rfl⟩ := List.mem_map.mp hw
    exact ⟨d, rfl, h d hd⟩
  | intersection hleft hright => exact .of_pair trivial trivial rfl hleft hright
  | record hkey hvalue => exact .of_pair trivial trivial rfl hkey hvalue
  | tuple hitems hrest => exact .tuple hitems hrest
  | literal h => exact .of_leaf trivial h rfl
  | promise h | optional h | nullable h | readonly h | branded _ h => exact .of_child trivial trivial rfl h
  | catching hvalue h => exact .of_child trivial hvalue rfl h
  | default hvalue hfactory h => exact .of_child hfactory.eq_null hvalue rfl h
  | effect _ hfunction h => exact .of_child hfunction.eq_null trivial rfl h
  | lazy hv hb => exact (not_getter_of_isData hv _ hb).elim

theorem ofFields_isReadBelow {levels : Nat} {i : Identity} {fields : Fields} {child : Nat → Value → Checked Descriptor}
    (hfields : ∀ e ∈ fields, e.2.IsData)
    (hchild : ∀ n v d, v.IsData → child n v = .ok d → d.IsReadBelow levels i ∧ 0 < levels) {k : Kind} {b : Body}
    (h : Body.ofFields child k i fields = .ok b) : b.IsReadBelow levels i := by
  refine (ofFields_madeOf hfields (fun n v d hv hd => (hchild n v d hv hd).1) .null
    (fun _ items hv => hv.items items) (fun _ entries hv => hv.entries entries) (fun v d hv hd => ?_) h).isReadBelow
  have hpositive := (hchild 1 v d hv hd).2
  obtain ⟨less, rfl⟩ : ∃ less, levels = less + 1 := ⟨levels - 1, by omega⟩
  exact plainText_isReadBelow less i

/-- A node that is described by a tag and entered is at a positive level. -/
theorem descriptorAt_eq_ok {levels : Nat} {i : Identity} {v : Value} {d : Descriptor} (hv : v.IsData)
    (h : descriptorAt levels i v = .ok d) :
    ∃ less entries k, levels = less + 1 ∧ v = .dict entries ∧ (Value.dict entries).describedKind = .ok k ∧
      Descriptor.ofFieldsWith (descriptorAt less) k i entries = .ok d := by
  unfold descriptorAt at h
  split at h
  · exact absurd h Checked.fault_ne_ok
  · rename_i k hk
    rw [Checked.within_eq_ok] at h
    split at h
    · exact absurd h Checked.fault_ne_ok
    · cases hv with
      | @dict entries => exact ⟨_, entries, k, rfl, rfl, hk, h⟩
      | _ => cases hk

/-- What is read from data is an inert tree of as many levels as may be entered. -/
theorem descriptorAt_inertWithin {levels : Nat} {i : Identity} {v : Value} {d : Descriptor} (hv : v.IsData)
    (h : descriptorAt levels i v = .ok d) : d.InertWithin levels ∧ d.identity = i ∧ 0 < levels := by
  induction levels generalizing i v d with
  | zero =>
    obtain ⟨_, _, _, hlevels, _⟩ := descriptorAt_eq_ok hv h
    cases hlevels
  | succ levels ih =>
    obtain ⟨less, entries, k, hlevels, rfl, -, hd⟩ := descriptorAt_eq_ok hv h
    obtain rfl := Nat.succ.inj hlevels
    simp only [Descriptor.ofFieldsWith, Checked.seq_eq_ok, Checked.functor_map_eq_ok] at hd
    obtain ⟨_, body, ⟨description, hdescription, rfl⟩, hbody, rfl⟩ := hd
    cases hv with
    | dict _ hentries =>
      have hchild : ∀ n v d, v.IsData → descriptorAt levels (i.child n) v = .ok d → d.IsReadBelow levels i ∧ 0 < levels :=
        fun n v d hv hd => ⟨⟨(ih hv hd).1, n, (ih hv hd).2.1⟩, (ih hv hd).2.2⟩
      have hbelow := ofFields_isReadBelow hentries hchild hbody
      have htext : description = .null ∨ description.IsText :=
        of_optional (P := fun w => w = Value.null ∨ w.IsText) hentries (fun _ _ _ => textOrNull_isText) (.inl rfl)
          hdescription
      exact ⟨Descriptor.inertWithin_mk htext hbelow, rfl, Nat.succ_pos _⟩

theorem toDescriptor_inertWithin {i : Identity} {v : Value} {d : Descriptor} (hv : v.IsData)
    (h : v.toDescriptor i = .ok d) : d.InertWithin deepestLevel := (descriptorAt_inertWithin hv h).1

/-- Schemas that are read from data never resolve lazily: whatever is in them holds data and calls nothing, unwraps
under every limit, and answers every question; and they are rendered without the markers for recursion and for
what does not resolve. -/
theorem toDescriptor_never_resolves {i : Identity} {v : Value} {d : Descriptor} (hv : v.IsData)
    (hd : v.toDescriptor i = .ok d) (defs : Definitions) :
    (∀ w, Reaches defs (.node d) w →
      ∃ e, w = .node e ∧ e.body.CallsNothing ∧ e.body.HoldsData ∧
        (∀ limit copy, ∃ c, w.unwrap defs limit copy = .ok (.node c, copy) ∧ (Value.node c).isModifier = false) ∧
        ∀ c : Capability, ∃ b, w.answer c defs = .gives (.bool b)) ∧
      ∀ config : Config, ∃ page : Page, ∀ recursion unresolved,
        render defs (config.withMarkers recursion unresolved) 0 (.node d) = page.whole := by
  have hinert := toDescriptor_inertWithin hv hd
  refine ⟨fun w hw => ?_, fun config => ?_⟩
  · obtain ⟨e, rfl, less, _, he, _⟩ := hinert.reaches hw
    refine ⟨e, rfl, he.callsNothing, he.holdsData, fun limit copy => ?_, fun c => ?_⟩
    · exact ⟨e.strip, he.unwrap defs limit copy, he.strip.2.1⟩
    · obtain ⟨b, hb⟩ := he.exists_answer c
      exact ⟨b, hb defs⟩
  · obtain ⟨page, _, hpage⟩ := (Value.Twin.refl ⟨_, hinert⟩).exists_page defs config
    exact ⟨page, hpage defs⟩

def boundData : Value :=
  .dict [(.text "kind", .text "record"),
    (.text "value_type", .dict [(.text "kind", .text "number"),
      (.text "checks", .list [.dict [(.text "kind", .text "min"), (.text "value", .text "3")]])])]

def boundRecord : Descriptor :=
  .mk default .null (.record (.plainText (Identity.child default 0))
    (.mk (Identity.child default 1) .null (.number [⟨.min, .int 3, true⟩])))

theorem isData_boundData : boundData.IsData := by
  have hpair : ∀ {s t : String} {v w : Value}, s ≠ t → v.IsData → w.IsData →
      (Value.dict [(.text s, v), (.text t, w)]).IsData := by
    intro s t v w hst hv hw
    refine .dict (Entries.keyed_cons.mpr ⟨fun x hx => ?_, Entries.keyed_cons.mpr ⟨by simp, .nil⟩⟩) (by simp [hv, hw])
    obtain ⟨hkey, -⟩ := Prod.mk.inj (List.mem_singleton.mp hx)
    exact hst (Text.ofString_inj.mp (Value.text.inj hkey))
  have hcheck := hpair (s := "kind") (t := "value") (by decide) (.text "min") (.text "3")
  have hchecks : (Value.list [.dict [(.text "kind", .text "min"), (.text "value", .text "3")]]).IsData :=
    .list fun v hv => List.mem_singleton.mp hv ▸ hcheck
  have hvalue := hpair (s := "kind") (t := "checks") (by decide) (.text "number") hchecks
  exact hpair (by decide) (.text "record") hvalue

theorem toDescriptor_boundData : boundData.toDescriptor default = .ok boundRecord := by
  have hbound : NumberCheck.ofValue (.dict [(.text "kind", .text "min"), (.text "value", .text "3")]) =
      .ok ⟨.min, .int 3, true⟩ := by
    have hkind : Checked.choice NumberRule.all NumberRule.tag (.text "min") = .ok .min := by rfl
    have hthree : Checked.numberOperand (.text "3") = .ok (.int 3) := by rfl
    simp [NumberCheck.ofValue, Value.entries?, NumberCheck.ofFields, Fields.required, Fields.optional, hkind, hthree]
  have hnumber : descriptorAt 253 (Identity.child default 1) (.dict [(.text "kind", .text "number"),
      (.text "checks", .list [.dict [(.text "kind", .text "min"), (.text "value", .text "3")]])]) =
      .ok (.mk (Identity.child default 1) .null (.number [⟨.min, .int 3, true⟩])) := by
    rw [descriptorAt_of_kind (k := .number) (by simp [Kind.tag])]
    simp [Descriptor.ofFieldsWith, Body.ofFields, Fields.optional, Checked.sequence, Value.items?, Checked.each, hbound]
  rw [boundData, Value.toDescriptor, deepestLevel, descriptorAt_of_kind (k := .record) (by simp [Kind.tag])]
  simp [Descriptor.ofFieldsWith, Body.ofFields, Fields.optional, Fields.required, hnumber, boundRecord]

/-- The record of numbers is rendered under every pair of markers. -/
theorem boundRecord_never_resolves :
    boundData.IsData ∧ boundData.toDescriptor default = .ok boundRecord ∧
      (∃ c, (Value.node boundRecord).unwrap [] (-1) 1 = .ok (.node c, 1) ∧ (Value.node c).isModifier = false) ∧
      ∃ page : Page, render [] (Config.standard.withMarkers "" "") 0 (.node boundRecord) = page.whole ∧
        render [] Config.standard 0 (.node boundRecord) = page.whole := by
  obtain ⟨hnodes, hrender⟩ := toDescriptor_never_resolves isData_boundData toDescriptor_boundData []
  obtain ⟨e, heq, _, _, hunwrap, _⟩ := hnodes _ .refl
  obtain ⟨page, hpage⟩ := hrender .standard
  exact ⟨isData_boundData, toDescriptor_boundData, hunwrap (-1) 1, page, hpage _ _, hpage "<recursive>" "<unresolved>"⟩

end Schematic
