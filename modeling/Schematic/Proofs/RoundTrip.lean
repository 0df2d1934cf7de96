import Schematic.Proofs.Reading
import Schematic.Validation.Dump

namespace Schematic

theorem dumpNodes_eq (ds : List Descriptor) : dumpNodes ds = ds.map Descriptor.dump := by
  induction ds with
  | nil => rfl
  | cons d ds ih => rw [dumpNodes, ih, List.map_cons]

theorem dumpProperties_eq (properties : List (Value × Value)) :
    dumpProperties properties = properties.map fun p => (p.1, p.2.dump) := by
  induction properties with
  | nil => rfl
  | cons p properties ih => rw [dumpProperties, ih, List.map_cons]

theorem Value.IsLength.isData {v : Value} (h : v.IsLength) : v.IsData := by
  rcases h with rfl | ⟨n, rfl⟩
  · exact .null
  · exact .int n

theorem isData_of_description {v : Value} (h : v = .null ∨ v.IsText) : v.IsData := by
  rcases h with rfl | ⟨t, rfl⟩
  · exact .null
  · exact .text t

theorem isData_nil : (Value.dict []).IsData := .dict .nil (by simp)

theorem isData_field {name : String} {v : Value} {rest : Fields} (hv : v.IsData)
    (hnew : ∀ w, (Value.text name, w) ∉ rest) (h : (Value.dict rest).IsData) :
    (Value.dict ((.text name, v) :: rest)).IsData := by
  cases h with
  | dict keyed values => exact .dict (Entries.keyed_cons.mpr ⟨hnew, keyed⟩) (List.forall_mem_cons.mpr ⟨hv, values⟩)

theorem TextCheck.isData_dump (c : TextCheck) : c.dump.IsData := by
  have hoperand : c.operand.toValue.IsData := by
    cases c.operand <;> constructor
  exact isData_field (.text _) (by simp [Text.ofString_inj])
    (isData_field hoperand (by simp [Text.ofString_inj]) (isData_field (.text _) (by simp) isData_nil))

theorem NumberCheck.isData_dump (c : NumberCheck) : c.dump.IsData := by
  have hoperand : c.operand.toValue.IsData := by
    cases c.operand <;> constructor
  exact isData_field (.text _) (by simp [Text.ofString_inj])
    (isData_field hoperand (by simp [Text.ofString_inj]) (isData_field (.bool _) (by simp) isData_nil))

theorem isData_list_map {α : Type} {f : α → Value} {items : List α} (h : ∀ a ∈ items, (f a).IsData) :
    (Value.list (items.map f)).IsData := by
  refine .list fun v hv => ?_
  obtain ⟨a, ha, rfl⟩ := List.mem_map.mp hv
  exact h a ha

theorem isData_dumpNodes {ds : List Descriptor} (h : ∀ d ∈ ds, d.dump.IsData) : (Value.list (dumpNodes ds)).IsData := by
  rw [dumpNodes_eq]
  exact isData_list_map h

theorem isData_dumpProperties {properties : Fields} (hkeyed : Entries.Keyed properties)
    (h : ∀ p ∈ properties, p.2.dump.IsData) : (Value.dict (dumpProperties properties)).IsData := by
  rw [dumpProperties_eq]
  refine .dict ⟨fun e he => ?_, ?_⟩ fun e he => ?_
  · obtain ⟨p, hp, rfl⟩ := List.mem_map.mp he
    exact hkeyed.texts p hp
  · simpa only [List.map_map, Function.comp_def] using hkeyed.distinct
  · obtain ⟨p, hp, rfl⟩ := List.mem_map.mp he
    exact h p hp

theorem isData_single {name : String} {v : Value} (hv : v.IsData) : (Value.dict [(.text name, v)]).IsData :=
  isData_field hv (by simp) isData_nil

theorem isData_pair {name name' : String} (hne : name ≠ name') {v v' : Value} (hv : v.IsData) (hv' : v'.IsData) :
    (Value.dict [(.text name, v), (.text name', v')]).IsData :=
  isData_field hv (by simp [Text.ofString_inj, hne]) (isData_single hv')

theorem isData_dumpFields_array {element : Descriptor} {low high exact : Value} (helement : element.dump.IsData)
    (hdata : (Body.array element low high exact).HoldsData) :
    (Value.dict (Body.array element low high exact).dumpFields).IsData := by
  obtain ⟨hlow, hhigh, hexact⟩ := hdata
  refine isData_field helement (by simp [Text.ofString_inj]) ?_
  exact isData_field hlow.isData (by simp [Text.ofString_inj]) (isData_pair (by decide) hhigh.isData hexact.isData)

theorem isData_dumpFields_modified {m : Modifier} {inner : Descriptor} (hinner : inner.dump.IsData)
    (hdata : (Body.modified m inner).HoldsData) : (Value.dict (Body.modified m inner).dumpFields).IsData := by
  cases m with
  | default | catching => exact isData_pair (by decide) hinner hdata
  | effect | branded => exact isData_pair (by decide) hinner (.text _)
  | _ => exact isData_single hinner

theorem isData_dumpFields {b : Body} (hdata : b.HoldsData) (hcalls : b.CallsNothing)
    (hchild : ∀ w ∈ b.children, w.dump.IsData) : (Value.dict b.dumpFields).IsData := by
  have hfirst {v w : Value} (h : b.children = [v, w]) : v.dump.IsData ∧ w.dump.IsData :=
    ⟨hchild v (by simp [h]), hchild w (by simp [h])⟩
  cases b with
  | string checks => exact isData_single (isData_list_map fun c _ => c.isData_dump)
  | number checks => exact isData_single (isData_list_map fun c _ => c.isData_dump)
  | primitive p => exact isData_nil
  | array element low high exact => exact isData_dumpFields_array (hchild (.node element) List.mem_cons_self) hdata
  | object properties =>
    exact isData_single (isData_dumpProperties hdata fun p hp => hchild p.2 (List.mem_map_of_mem hp))
  | enum options => exact isData_single (isData_list_map fun t _ => .text t)
  | union options => exact isData_single (isData_dumpNodes fun d hd => hchild (.node d) (List.mem_map_of_mem hd))
  | intersection | record => exact isData_pair (by decide) (hfirst rfl).1 (hfirst rfl).2
  | tuple items rest =>
    have hitems : (Value.list (dumpNodes items)).IsData :=
      isData_dumpNodes fun d hd => hchild (.node d) (Body.mem_children_tuple.mpr (.inl ⟨d, hd, rfl⟩))
    have hrest : rest.dump.IsData := by
      by_cases hnull : rest = .null
      · exact hnull ▸ .null
      · exact hchild rest (Body.mem_children_tuple.mpr (.inr ⟨rfl, hnull⟩))
    exact isData_pair (by decide) hitems hrest
  | literal value => exact isData_single hdata
  | promise inner => exact isData_single (hchild (.node inner) List.mem_cons_self)
  | modified m inner => exact isData_dumpFields_modified (hchild (.node inner) List.mem_cons_self) hdata
  | lazy => exact hcalls.elim

theorem not_mem_dumpFields (b : Body) (w : Value) :
    (.text "description", w) ∉ b.dumpFields ∧ (.text "kind", w) ∉ b.dumpFields := by
  cases b with
  | modified m => cases m <;> simp [Body.dumpFields, Modifier.dumpFields, Text.ofString_inj]
  | _ => simp [Body.dumpFields, Text.ofString_inj]

theorem Descriptor.InertWithin.isData_dump {levels : Nat} {d : Descriptor} (h : d.InertWithin levels) : d.dump.IsData := by
  induction h with
  | @mk levels d hdescription hcalls hdata hnodes _ _ ih =>
    obtain ⟨i, description, body⟩ := d
    have hfields := isData_dumpFields hdata hcalls fun w hw => by
      obtain ⟨e, rfl⟩ := hnodes w hw
      exact ih e hw
    refine isData_field (isData_of_description hdescription) (fun w hw => ?_)
      (isData_field (.text _) (fun w => (not_mem_dumpFields body w).2) hfields)
    rcases List.mem_cons.mp hw with heq | hw
    · simp [Text.ofString_inj] at heq
    · exact (not_mem_dumpFields body w).1 hw

theorem NumberCheck.compare_self (c : NumberCheck) : c.compare c = .equal := by
  have hnull : Value.compareAtomOrSame .null .null = .equal := rfl
  have hoperand : c.operand.compare c.operand = .equal := by
    unfold NumberOperand.compare
    cases c.operand with
    | none => exact hnull
    | int n => exact compareAtomOrSame_int n
    | float x => exact compareAtomOrSame_float x
  simp [NumberCheck.compare, hoperand, Comparison.ofBool, Comparison.and]

theorem compareChecks_self (checks : List NumberCheck) : compareChecks checks checks = .equal := by
  induction checks with
  | nil => rfl
  | cons c checks ih => rw [compareChecks, c.compare_self, ih, Comparison.and]

theorem TextCheck.same_self (c : TextCheck) : c.same c = true := by
  have hoperand : c.operand.same c.operand = true := by
    cases c.operand <;> simp [TextOperand.same]
  simp [TextCheck.same, hoperand]

theorem compareNodes_of_forall₂ {ds ds' : List Descriptor}
    (h : List.Forall₂ (fun d d' => d.compare d' = .equal) ds ds') : compareNodes ds ds' = .equal := by
  induction h with
  | nil => rw [compareNodes]
  | cons hd _ ih => rw [compareNodes, hd, ih, Comparison.and]

theorem exists_of_forall₂ {α β : Type} {P : α → β → Prop} {xs : List α} {ys : List β} (h : List.Forall₂ P xs ys) :
    ∀ x ∈ xs, ∃ y ∈ ys, P x y := by
  induction h with
  | nil => simp
  | cons hab _ ih =>
    refine List.forall_mem_cons.mpr ⟨⟨_, List.mem_cons_self, hab⟩, fun x hx => ?_⟩
    obtain ⟨y, hy, hxy⟩ := ih x hx
    exact ⟨y, List.mem_cons_of_mem _ hy, hxy⟩

theorem Value.IsData.compare_eq {v v' : Value} (h : v.IsData) (h' : v'.IsData) (hsame : v.unshared = v'.unshared) :
    v.compare v' = .equal := by
  rw [h.unshared_eq, h'.unshared_eq] at hsame
  rw [hsame, h'.compare_self]

theorem Modifier.compare_eq {m m' : Modifier} {inner inner' : Descriptor} (hdata : (Body.modified m inner).HoldsData)
    (hdata' : (Body.modified m' inner').HoldsData) (hcalls : (Body.modified m inner).CallsNothing)
    (hcalls' : (Body.modified m' inner').CallsNothing) (h : m.unshared = m'.unshared) : m.compare m' = .equal := by
  cases m <;> cases m' <;> simp only [Modifier.unshared, reduceCtorEq] at h
  case default.default value factory value' factory' =>
    injection h with hvalue _
    obtain rfl : factory = .null := hcalls
    obtain rfl : factory' = .null := hcalls'
    rw [Modifier.compare, Value.IsData.compare_eq hdata hdata' hvalue, Value.IsData.null.compare_self, Comparison.and]
  case catching.catching value value' =>
    injection h with hvalue
    rw [Modifier.compare, Value.IsData.compare_eq hdata hdata' hvalue]
  case effect.effect function kind function' kind' =>
    injection h with _ hkind
    obtain rfl : function = .null := hcalls
    obtain rfl : function' = .null := hcalls'
    simp [Modifier.compare, Value.IsData.null.compare_self, hkind, Comparison.and, Comparison.ofBool]
  case branded.branded name name' =>
    obtain rfl := Modifier.branded.inj h
    simp [Modifier.compare, Comparison.ofBool]
  all_goals simp [Modifier.compare, Modifier.toKind, Comparison.ofBool]

theorem Body.compare_checked_self (checks : List TextCheck) : (Body.string checks).compare (.string checks) = .equal := by
  have hall : ((checks.zip checks).all fun p => p.1.same p.2) = true := by
    rw [List.zip_eq_zipWith, List.zipWith_self, List.all_map, List.all_eq_true]
    exact fun c _ => c.same_self
  simp only [Body.compare, decide_true, Bool.true_and, hall, Comparison.ofBool, if_true]

/-- Whether descriptors of which the same is left without identities are equal. -/
def Descriptor.ComparesEqual (d d' : Descriptor) : Prop := d.unshared = d'.unshared → d.compare d' = .equal

theorem compareNodes_eq {ds ds' : List Descriptor} (hchild : ∀ d ∈ ds, ∀ d' ∈ ds', d.ComparesEqual d')
    (h : unsharedNodes ds = unsharedNodes ds') : compareNodes ds ds' = .equal := by
  rw [unsharedNodes_eq, unsharedNodes_eq] at h
  refine compareNodes_of_forall₂ ((forall₂_mem (forall₂_of_map_eq h)).imp ?_)
  rintro d d' ⟨heq, hd, hd'⟩
  exact hchild d hd d' hd' heq

theorem Value.compare_eq_of_nodes {v v' : Value} (hv : v ≠ .null → v.IsNode) (hv' : v' ≠ .null → v'.IsNode)
    (hchild : ∀ d d', v = .node d → v' = .node d' → d.ComparesEqual d') (h : v.unshared = v'.unshared) :
    v.compare v' = .equal := by
  by_cases hnull : v = .null
  · subst hnull
    by_cases hnull' : v' = .null
    · exact hnull' ▸ Value.IsData.null.compare_self
    · obtain ⟨d', rfl⟩ := hv' hnull'
      cases h
  · obtain ⟨d, rfl⟩ := hv hnull
    obtain ⟨d', rfl⟩ := Value.isNode_of_unshared_eq h ⟨d, rfl⟩
    rw [Value.compare]
    exact hchild d d' rfl rfl (Value.node.inj h)

theorem Body.compare_object {properties properties' : Fields} (hkeyed : Entries.Keyed properties)
    (hkeyed' : Entries.Keyed properties') (hnodes : ∀ e ∈ properties, e.2.IsNode) (hnodes' : ∀ e ∈ properties', e.2.IsNode)
    (hchild : ∀ d d', .node d ∈ properties.map (·.2) → .node d' ∈ properties'.map (·.2) → d.ComparesEqual d')
    (h : unsharedEntries properties = unsharedEntries properties') :
    (Body.object properties).compare (.object properties') = .equal := by
  rw [unsharedEntries_eq, unsharedEntries_eq] at h
  have hentries := forall₂_of_map_eq h
  rw [Body.compare, if_pos hentries.length_eq]
  refine compareEntries_of_get hkeyed' fun e he => ⟨hkeyed.texts e he, ?_⟩
  obtain ⟨e', he', heq⟩ := exists_of_forall₂ hentries e he
  obtain ⟨hkey, hvalue⟩ := Prod.mk.inj heq
  have hsame := (hkeyed.texts e he).eq_of_unshared_eq (hkeyed'.texts e' he') hkey
  refine ⟨e'.2, hsame ▸ he', Value.compare_eq_of_nodes (fun _ => hnodes e he) (fun _ => hnodes' e' he') ?_ hvalue⟩
  exact fun d d' hd hd' => hchild d d' (hd ▸ List.mem_map_of_mem he) (hd' ▸ List.mem_map_of_mem he')

theorem Body.isNode_of_rest {items : List Descriptor} {rest : Value}
    (h : ∀ w ∈ (Body.tuple items rest).children, w.IsNode) (hrest : rest ≠ .null) : rest.IsNode :=
  h rest (Body.mem_children_tuple.mpr (.inr ⟨rfl, hrest⟩))

theorem Body.compare_tuple {items items' : List Descriptor} {rest rest' : Value}
    (hnodes : ∀ w ∈ (Body.tuple items rest).children, w.IsNode)
    (hnodes' : ∀ w ∈ (Body.tuple items' rest').children, w.IsNode)
    (hchild : ∀ d d', .node d ∈ (Body.tuple items rest).children → .node d' ∈ (Body.tuple items' rest').children →
      d.ComparesEqual d')
    (hitems : unsharedNodes items = unsharedNodes items') (hrest : rest.unshared = rest'.unshared) :
    (Body.tuple items rest).compare (.tuple items' rest') = .equal := by
  have hfirst : compareNodes items items' = .equal := compareNodes_eq (fun d hd d' hd' => hchild d d'
    (Body.mem_children_tuple.mpr (.inl ⟨d, hd, rfl⟩)) (Body.mem_children_tuple.mpr (.inl ⟨d', hd', rfl⟩))) hitems
  have hlast : rest.compare rest' = .equal := by
    refine Value.compare_eq_of_nodes (Body.isNode_of_rest hnodes) (Body.isNode_of_rest hnodes') ?_ hrest
    rintro d d' rfl rfl
    exact hchild d d' (Body.mem_children_tuple.mpr (.inr ⟨rfl, by simp⟩)) (Body.mem_children_tuple.mpr (.inr ⟨rfl, by simp⟩))
  rw [Body.compare, hfirst, hlast, Comparison.and]

/-- Bodies that hold data and call nothing are equal if they are the same without identities and their children
are equal. -/
theorem Body.compare_eq {b b' : Body} (hdata : b.HoldsData) (hdata' : b'.HoldsData) (hcalls : b.CallsNothing)
    (hcalls' : b'.CallsNothing) (hnodes : ∀ w ∈ b.children, w.IsNode) (hnodes' : ∀ w ∈ b'.children, w.IsNode)
    (hchild : ∀ d d', .node d ∈ b.children → .node d' ∈ b'.children → d.ComparesEqual d')
    (h : b.unshared = b'.unshared) : b.compare b' = .equal := by
  cases b <;> cases b' <;> simp only [Body.unshared, reduceCtorEq] at h
  case string.string checks checks' => exact Body.string.inj h ▸ Body.compare_checked_self checks
  case number.number checks checks' =>
    obtain rfl := Body.number.inj h
    rw [Body.compare, compareChecks_self]
  case primitive.primitive | enum.enum =>
    injection h with hsame
    simp [Body.compare, hsame, Comparison.ofBool]
  case array.array =>
    injection h with helement hlow hhigh hexact
    rw [Body.compare, hchild _ _ List.mem_cons_self List.mem_cons_self helement,
      hdata.1.isData.compare_eq hdata'.1.isData hlow, hdata.2.1.isData.compare_eq hdata'.2.1.isData hhigh,
      hdata.2.2.isData.compare_eq hdata'.2.2.isData hexact]
    rfl
  case object.object =>
    injection h with hproperties
    exact Body.compare_object hdata hdata' (fun e he => hnodes e.2 (List.mem_map_of_mem he))
      (fun e he => hnodes' e.2 (List.mem_map_of_mem he)) hchild hproperties
  case union.union =>
    injection h with hoptions
    rw [Body.compare]
    exact compareNodes_eq (fun d hd d' hd' => hchild d d' (List.mem_map_of_mem hd) (List.mem_map_of_mem hd')) hoptions
  case intersection.intersection | record.record =>
    injection h with hfirst hsecond
    rw [Body.compare, hchild _ _ List.mem_cons_self List.mem_cons_self hfirst,
      hchild _ _ (List.mem_cons_of_mem _ List.mem_cons_self) (List.mem_cons_of_mem _ List.mem_cons_self) hsecond]
    rfl
  case tuple.tuple =>
    injection h with hitems hrest
    exact Body.compare_tuple hnodes hnodes' hchild hitems hrest
  case literal.literal =>
    injection h with hvalue
    rw [Body.compare]
    exact Value.IsData.compare_eq hdata hdata' hvalue
  case promise.promise =>
    injection h with hinner
    rw [Body.compare, hchild _ _ List.mem_cons_self List.mem_cons_self hinner]
  case modified.modified =>
    injection h with hm hinner
    rw [Body.compare, hchild _ _ List.mem_cons_self List.mem_cons_self hinner, Comparison.and]
    exact Modifier.compare_eq hdata hdata' hcalls hcalls' hm
  case lazy.lazy => exact hcalls.elim

/-- Inert trees of which the same is left without identities are equal. -/
theorem Descriptor.InertWithin.compare_eq {levels levels' : Nat} {d d' : Descriptor} (h : d.InertWithin levels)
    (h' : d'.InertWithin levels') (hsame : d.unshared = d'.unshared) : d.compare d' = .equal := by
  induction h generalizing d' levels' with
  | @mk levels d hdescription hcalls hdata hnodes hplaces hchildren ih =>
    have hdescription' := h'.description
    have hbody := Body.compare_eq hdata h'.holdsData hcalls h'.callsNothing hnodes (fun w hw => h'.isNode_of_child hw)
      fun e e' he he' hee => by
        obtain ⟨_, _, hinert, _⟩ := h'.child he'
        exact ih e he hinert hee
    obtain ⟨i, description, body⟩ := d
    obtain ⟨i', description', body'⟩ := d'
    obtain ⟨-, hdesc, hsame⟩ := Descriptor.mk.inj hsame
    have hkind : body.toKind = body'.toKind := by rw [← body.toKind_unshared, hsame, body'.toKind_unshared]
    have hcompare : description.compare description' = .equal :=
      (isData_of_description hdescription).compare_eq (isData_of_description hdescription') hdesc
    rw [Descriptor.compare]
    split_ifs with hid hne
    · rfl
    · exact (hne hkind).elim
    · rw [hcompare, Comparison.and]
      exact hbody hsame

namespace Checked

/-- A check that gives back what was written gives back a list of it. -/
theorem each_map {α : Type} {check : Nat → Value → Checked α} {write : α → Value} (h : ∀ n a, check n (write a) = .ok a)
    (n : Nat) (items : List α) : each check n (items.map write) = .ok items := by
  induction items generalizing n with
  | nil => rfl
  | cons a items ih => rw [List.map_cons, each, h, ih]; rfl

theorem sequence_map {α : Type} {f : Nat → Value → Checked α} {write : α → Value}
    (h : ∀ n a, f n (write a) = .ok a) (items : List α) :
    sequence f (.list (items.map write)) = .ok items := each_map h 0 items

/-- Nodes that are read back one by one are read back as a list. -/
theorem each_dumpNodes {f : Nat → Value → Checked Descriptor} {ds : List Descriptor}
    (h : ∀ d ∈ ds, ∀ n, ∃ d', f n d.dump = .ok d' ∧ d'.unshared = d.unshared) (n : Nat) :
    ∃ ds', each f n (dumpNodes ds) = .ok ds' ∧ unsharedNodes ds' = unsharedNodes ds := by
  induction ds generalizing n with
  | nil => exact ⟨[], rfl, rfl⟩
  | cons d ds ih =>
    obtain ⟨hd, hds⟩ := List.forall_mem_cons.mp h
    obtain ⟨d', hread, hsame⟩ := hd n
    obtain ⟨ds', hreads, hsames⟩ := ih hds (n + 1)
    exact ⟨d' :: ds', by simp [dumpNodes, each, hread, hreads], by rw [unsharedNodes, unsharedNodes, hsame, hsames]⟩

theorem properties_dump {read : Nat → Value → Checked Descriptor} {properties : List (Value × Value)}
    (htexts : ∀ p ∈ properties, p.1.IsText) (hnodes : ∀ p ∈ properties, p.2.IsNode)
    (h : ∀ d, .node d ∈ properties.map (·.2) → ∀ n, ∃ d', read n d.dump = .ok d' ∧ d'.unshared = d.unshared) (n : Nat) :
    ∃ properties', Checked.properties read n (dumpProperties properties) = .ok properties' ∧
      unsharedEntries properties' = unsharedEntries properties ∧
      properties'.map Prod.fst = properties.map Prod.fst := by
  induction properties generalizing n with
  | nil => exact ⟨[], rfl, rfl, rfl⟩
  | cons p properties ih =>
    obtain ⟨⟨t, ht⟩, hrest⟩ := List.forall_mem_cons.mp htexts
    obtain ⟨⟨d, hd⟩, hrest'⟩ := List.forall_mem_cons.mp hnodes
    obtain ⟨key, v⟩ := p
    obtain rfl : key = .text t := ht
    obtain rfl : v = .node d := hd
    obtain ⟨d', hread, hsame⟩ := h d List.mem_cons_self n
    obtain ⟨more, hreads, hsames, hkeys⟩ := ih hrest hrest' (fun e he => h e (List.mem_cons_of_mem _ he)) (n + 1)
    refine ⟨(.text t, .node d') :: more, ?_, ?_, by simp [hkeys]⟩
    · have hkey : propertyKey (.text t) = .ok t := rfl
      simp [dumpProperties, Checked.properties, Value.dump, hkey, hread, hreads]
    · rw [unsharedEntries, unsharedEntries, hsames, Value.unshared, Value.unshared, hsame]

@[simp] theorem choice_textRule (r : TextRule) : choice TextRule.all TextRule.tag (.text r.tag) = .ok r := by
  cases r <;> rfl

@[simp] theorem choice_numberRule (r : NumberRule) : choice NumberRule.all NumberRule.tag (.text r.tag) = .ok r := by
  cases r <;> rfl

@[simp] theorem choice_effectKind (k : EffectKind) : choice EffectKind.all EffectKind.tag (.text k.tag) = .ok k := by
  cases k <;> rfl

theorem text_text (t : Text) : text (.text t) = .ok t := rfl

theorem textOperand_toValue (o : TextOperand) : textOperand o.toValue = .ok o := by
  cases o <;> rfl

theorem numberOperand_toValue (o : NumberOperand) : numberOperand o.toValue = .ok o := by
  cases o <;> rfl

theorem boolean_bool (b : Bool) : boolean (.bool b) = .ok b := rfl

theorem integerOrNull_of_isLength {v : Value} (h : v.IsLength) : integerOrNull v = .ok v := by
  rcases h with rfl | ⟨n, rfl⟩ <;> rfl

end Checked

theorem TextCheck.ofValue_dump (c : TextCheck) : TextCheck.ofValue c.dump = .ok c := by
  simp [TextCheck.ofValue, TextCheck.dump, Value.entries?, TextCheck.ofFields, Fields.required, Fields.optional,
    Checked.text_text, Checked.textOperand_toValue]

theorem NumberCheck.ofValue_dump (c : NumberCheck) : NumberCheck.ofValue c.dump = .ok c := by
  simp [NumberCheck.ofValue, NumberCheck.dump, Value.entries?, NumberCheck.ofFields, Fields.required, Fields.optional,
    Checked.boolean_bool, Checked.numberOperand_toValue]

def Descriptor.dumpedFields (description : Value) (b : Body) : Fields :=
  (.text "description", description) :: (.text "kind", .text b.toKind.tag) :: b.dumpFields

section Reload

variable {b : Body} (child : Nat → Value → Checked Descriptor)

theorem ofFields_dumped_modified {m : Modifier} {inner inner' : Descriptor}
    (hcalls : (Body.modified m inner).CallsNothing) (hinner : child 0 inner.dump = .ok inner') (i : Identity)
    (description : Value) :
    Body.ofFields child (Body.modified m inner).toKind i (Descriptor.dumpedFields description (.modified m inner)) =
      .ok (.modified m inner') := by
  cases m with
  | default value factory =>
    obtain rfl : factory = .null := hcalls
    simp [Body.toKind, Modifier.toKind, Body.ofFields, Body.wrapperOfFields, Descriptor.dumpedFields, Body.dumpFields,
      Modifier.dumpFields, Fields.required, Fields.optional, hinner]
  | effect function kind =>
    obtain rfl : function = .null := hcalls
    simp [Body.toKind, Modifier.toKind, Body.ofFields, Body.wrapperOfFields, Descriptor.dumpedFields, Body.dumpFields,
      Modifier.dumpFields, Fields.required, Fields.optional, hinner]
  | _ =>
    simp [Body.toKind, Modifier.toKind, Body.ofFields, Body.wrapperOfFields, Descriptor.dumpedFields, Body.dumpFields,
      Modifier.dumpFields, Fields.required, Fields.optional, hinner, Checked.text_text]

theorem ofFields_dumped_string (checks : List TextCheck) (i : Identity) (description : Value) :
    Body.ofFields child .string i (Descriptor.dumpedFields description (.string checks)) = .ok (.string checks) := by
  have hchecks := Checked.sequence_map (f := fun _ => TextCheck.ofValue) (fun _ c => c.ofValue_dump) checks
  simp [Body.ofFields, Descriptor.dumpedFields, Body.dumpFields, Fields.optional, hchecks]

theorem ofFields_dumped_number (checks : List NumberCheck) (i : Identity) (description : Value) :
    Body.ofFields child .number i (Descriptor.dumpedFields description (.number checks)) = .ok (.number checks) := by
  have hchecks := Checked.sequence_map (f := fun _ => NumberCheck.ofValue) (fun _ c => c.ofValue_dump) checks
  simp [Body.ofFields, Descriptor.dumpedFields, Body.dumpFields, Fields.optional, hchecks]

theorem ofFields_dumped_enum (options : List Text) (i : Identity) (description : Value) :
    Body.ofFields child .enum i (Descriptor.dumpedFields description (.enum options)) = .ok (.enum options) := by
  have hoptions := Checked.sequence_map (f := fun _ => Checked.text) (fun _ t => Checked.text_text t) options
  simp [Body.ofFields, Descriptor.dumpedFields, Body.dumpFields, Fields.required, hoptions]

/-- The dumped fields of a body are read as a body that is the same without identities. -/
def Body.ReadsBack (b : Body) : Prop :=
  ∀ (i : Identity) (description : Value), ∃ b',
    Body.ofFields child b.toKind i (Descriptor.dumpedFields description b) = .ok b' ∧ b'.unshared = b.unshared

/-- A descriptor that is read back at every place among the fields. -/
def Descriptor.ReadsBack (d : Descriptor) : Prop := ∀ n, ∃ d', child n d.dump = .ok d' ∧ d'.unshared = d.unshared

variable {child}

theorem readsBack_array {element : Descriptor} {low high exact : Value} (helement : element.ReadsBack child)
    (hdata : (Body.array element low high exact).HoldsData) : (Body.array element low high exact).ReadsBack child := by
  intro i description
  obtain ⟨hlow, hhigh, hexact⟩ := hdata
  obtain ⟨element', hread, hsame⟩ := helement 0
  refine ⟨.array element' low high exact, ?_, by rw [Body.unshared, Body.unshared, hsame]⟩
  simp [Body.toKind, Body.ofFields, Descriptor.dumpedFields, Body.dumpFields, Fields.optional, Fields.required, hread,
    Checked.integerOrNull_of_isLength, hlow, hhigh, hexact]

theorem readsBack_object {properties : Fields} (hkeyed : Entries.Keyed properties)
    (hnodes : ∀ p ∈ properties, p.2.IsNode) (h : ∀ d, .node d ∈ properties.map (·.2) → d.ReadsBack child) :
    (Body.object properties).ReadsBack child := by
  intro i description
  obtain ⟨properties', hread, hsame, hkeys⟩ := Checked.properties_dump hkeyed.texts hnodes h 0
  have hkeyed' : Entries.Keyed properties' := hkeyed.of_keys hkeys
  refine ⟨.object properties', ?_, by rw [Body.unshared, Body.unshared, hsame]⟩
  simp [Body.toKind, Body.ofFields, Descriptor.dumpedFields, Body.dumpFields, Fields.optional, Checked.shape,
    Value.entries?, hread, Entries.ofList_eq_self hkeyed']

theorem readsBack_union {options : List Descriptor} (h : ∀ d ∈ options, d.ReadsBack child) :
    (Body.union options).ReadsBack child := by
  intro i description
  obtain ⟨options', hread, hsame⟩ := Checked.each_dumpNodes h 0
  refine ⟨.union options', ?_, by rw [Body.unshared, Body.unshared, hsame]⟩
  simp [Body.toKind, Body.ofFields, Descriptor.dumpedFields, Body.dumpFields, Fields.required, Checked.sequence,
    Value.items?, hread]

theorem readsBack_intersection {left right : Descriptor} (hleft : left.ReadsBack child) (hright : right.ReadsBack child) :
    (Body.intersection left right).ReadsBack child := by
  intro i description
  obtain ⟨left', hreadLeft, hsame⟩ := hleft 0
  obtain ⟨right', hreadRight, hsame'⟩ := hright 1
  refine ⟨.intersection left' right', ?_, by rw [Body.unshared, Body.unshared, hsame, hsame']⟩
  simp [Body.toKind, Body.ofFields, Descriptor.dumpedFields, Body.dumpFields, Fields.required, hreadLeft, hreadRight]

theorem readsBack_record {key value : Descriptor} (hkey : key.ReadsBack child) (hvalue : value.ReadsBack child) :
    (Body.record key value).ReadsBack child := by
  intro i description
  obtain ⟨key', hreadKey, hsame⟩ := hkey 0
  obtain ⟨value', hreadValue, hsame'⟩ := hvalue 1
  refine ⟨.record key' value', ?_, by rw [Body.unshared, Body.unshared, hsame, hsame']⟩
  simp [Body.toKind, Body.ofFields, Descriptor.dumpedFields, Body.dumpFields, Fields.required, Fields.optional, hreadKey,
    hreadValue]

theorem Descriptor.exists_dump_eq_dict (d : Descriptor) : ∃ entries, d.dump = .dict entries := by
  obtain ⟨i, description, body⟩ := d
  exact ⟨_, rfl⟩

theorem readsBack_tuple {items : List Descriptor} {rest : Value} (hitems : ∀ d ∈ items, d.ReadsBack child)
    (hrest : rest ≠ .null → ∃ d, rest = .node d ∧ d.ReadsBack child) : (Body.tuple items rest).ReadsBack child := by
  intro i description
  obtain ⟨items', hread, hsame⟩ := Checked.each_dumpNodes (f := fun n => child (n + 1))
    (fun d hd n => hitems d hd (n + 1)) 0
  by_cases hnull : rest = .null
  · subst hnull
    refine ⟨.tuple items' .null, ?_, by rw [Body.unshared, Body.unshared, hsame]⟩
    simp [Body.toKind, Body.ofFields, Descriptor.dumpedFields, Body.dumpFields, Fields.optional, Checked.sequence,
      Value.items?, hread, Value.dump]
  · obtain ⟨d, rfl, hd⟩ := hrest hnull
    obtain ⟨d', hd', hsame'⟩ := hd 0
    have hwhole : (Body.tuple items' (.node d')).unshared = (Body.tuple items (.node d)).unshared := by
      rw [Body.unshared, Body.unshared, hsame, Value.unshared, hsame', Value.unshared]
    refine ⟨.tuple items' (.node d'), ?_, hwhole⟩
    obtain ⟨entries, hdump⟩ := d.exists_dump_eq_dict
    rw [hdump] at hd'
    simp [Body.toKind, Body.ofFields, Descriptor.dumpedFields, Body.dumpFields, Fields.optional, Checked.sequence,
      Value.items?, hread, Value.dump, hdump, hd']

theorem readsBack_promise {inner : Descriptor} (hinner : inner.ReadsBack child) : (Body.promise inner).ReadsBack child := by
  intro i description
  obtain ⟨inner', hread, hsame⟩ := hinner 0
  refine ⟨.promise inner', ?_, by rw [Body.unshared, Body.unshared, hsame]⟩
  simp [Body.toKind, Body.ofFields, Descriptor.dumpedFields, Body.dumpFields, Fields.required, hread]

theorem readsBack_modified {m : Modifier} {inner : Descriptor} (hinner : inner.ReadsBack child)
    (hcalls : (Body.modified m inner).CallsNothing) : (Body.modified m inner).ReadsBack child := by
  intro i description
  obtain ⟨inner', hread, hsame⟩ := hinner 0
  exact ⟨.modified m inner', ofFields_dumped_modified child hcalls hread i description,
    by rw [Body.unshared, Body.unshared, hsame]⟩

/-- The dumped fields of an inert node are read as the fields of a node that is the same without identities, if its
children are. -/
theorem ofFields_dumpedFields (hb : b.HoldsData) (hcalls : b.CallsNothing) (hnodes : ∀ w ∈ b.children, w.IsNode)
    (hchild : ∀ d, .node d ∈ b.children → d.ReadsBack child) : b.ReadsBack child := by
  cases b with
  | string checks => exact fun i description => ⟨_, ofFields_dumped_string child checks i description, rfl⟩
  | number checks => exact fun i description => ⟨_, ofFields_dumped_number child checks i description, rfl⟩
  | enum options => exact fun i description => ⟨_, ofFields_dumped_enum child options i description, rfl⟩
  | primitive p => exact fun _ _ => ⟨.primitive p, rfl, rfl⟩
  | array element low high exact => exact readsBack_array (hchild element List.mem_cons_self) hb
  | object properties => exact readsBack_object hb (fun p hp => hnodes p.2 (List.mem_map_of_mem hp)) hchild
  | union options => exact readsBack_union fun d hd => hchild d (List.mem_map_of_mem hd)
  | intersection left right =>
    exact readsBack_intersection (hchild left List.mem_cons_self) (hchild right (List.mem_cons_of_mem _ List.mem_cons_self))
  | record key value =>
    exact readsBack_record (hchild key List.mem_cons_self) (hchild value (List.mem_cons_of_mem _ List.mem_cons_self))
  | tuple items rest =>
    refine readsBack_tuple (fun d hd => hchild d (Body.mem_children_tuple.mpr (.inl ⟨d, hd, rfl⟩))) fun hnull => ?_
    obtain ⟨d, rfl⟩ := Body.isNode_of_rest hnodes hnull
    exact ⟨d, rfl, hchild d (Body.mem_children_tuple.mpr (.inr ⟨rfl, hnull⟩))⟩
  | literal value =>
    intro i description
    refine ⟨.literal value, ?_, rfl⟩
    simp [Body.toKind, Body.ofFields, Descriptor.dumpedFields, Body.dumpFields]
  | promise inner => exact readsBack_promise (hchild inner List.mem_cons_self)
  | modified m inner => exact readsBack_modified (hchild inner List.mem_cons_self) hcalls
  | lazy => exact hcalls.elim

end Reload

/-- The dump of an inert tree is read as a tree that is the same without identities. -/
theorem Descriptor.InertWithin.exists_descriptorAt_dump {levels : Nat} {d : Descriptor} (h : d.InertWithin levels)
    (i : Identity) : ∃ d', descriptorAt levels i d.dump = .ok d' ∧ d'.unshared = d.unshared := by
  induction h generalizing i with
  | @mk levels d hdescription hcalls hdata hnodes _ _ ih =>
    obtain ⟨j, description, body⟩ := d
    have htext : Checked.textOrNull description = .ok description := by
      rcases hdescription with hnull | ⟨t, ht⟩
      · obtain rfl : description = .null := hnull
        rfl
      · obtain rfl : description = .text t := ht
        rfl
    have hreads : Body.ReadsBack (fun n => descriptorAt levels (i.child n)) body :=
      ofFields_dumpedFields hdata hcalls hnodes fun e he n => ih e he (i.child n)
    obtain ⟨body', hbody, hsame⟩ := hreads i description
    refine ⟨.mk i description body', ?_, by rw [Descriptor.unshared, Descriptor.unshared, hsame]⟩
    have hdump : (Descriptor.mk j description body).dump = .dict (Descriptor.dumpedFields description body) := rfl
    have hkind : Fields.get? (Descriptor.dumpedFields description body) "kind" = some (.text body.toKind.tag) := by
      simp [Descriptor.dumpedFields]
    have hgiven : Fields.get? (Descriptor.dumpedFields description body) "description" = some description := by
      simp [Descriptor.dumpedFields]
    rw [hdump, descriptorAt_of_kind hkind]
    simp [Descriptor.ofFieldsWith, Fields.optional, hgiven, htext, hbody]

mutual

theorem Value.dump_unshared : ∀ v : Value, v.unshared.dump = v.dump.unshared
  | .node d => by rw [Value.unshared, Value.dump, Value.dump, Descriptor.dump_unshared]
  | .list _ | .tuple _ | .set _ | .frozenset _ | .dict _ | .callable _ _ | .foreign _ _ _ _ | .exotic _ | .unshown _ _
  | .absent | .null | .bool _ | .int _ | .float _ | .text _ | .bytes _ | .cyclicList _ | .cyclicDict _ | .pattern _ _ => rfl

theorem Descriptor.dump_unshared : ∀ d : Descriptor, d.unshared.dump = d.dump.unshared
  | .mk _ description body => by
    rw [Descriptor.unshared, Descriptor.dump, Descriptor.dump, Body.dumpFields_unshared, Body.toKind_unshared]
    rfl

theorem Body.dumpFields_unshared : ∀ b : Body, b.unshared.dumpFields = unsharedEntries b.dumpFields
  | .array element low high exact => by
    rw [Body.unshared, Body.dumpFields, Body.dumpFields, Descriptor.dump_unshared]
    rfl
  | .object properties => by
    rw [Body.unshared, Body.dumpFields, Body.dumpFields, dumpProperties_unshared]
    rfl
  | .union options => by
    rw [Body.unshared, Body.dumpFields, Body.dumpFields, dumpNodes_unshared]
    rfl
  | .intersection left right => by
    rw [Body.unshared, Body.dumpFields, Body.dumpFields, Descriptor.dump_unshared, Descriptor.dump_unshared]
    rfl
  | .record key value => by
    rw [Body.unshared, Body.dumpFields, Body.dumpFields, Descriptor.dump_unshared, Descriptor.dump_unshared]
    rfl
  | .tuple items rest => by
    rw [Body.unshared, Body.dumpFields, Body.dumpFields, dumpNodes_unshared, Value.dump_unshared]
    rfl
  | .promise inner => by
    rw [Body.unshared, Body.dumpFields, Body.dumpFields, Descriptor.dump_unshared]
    rfl
  | .modified m inner => by
    rw [Body.unshared, Body.dumpFields, Body.dumpFields, Descriptor.dump_unshared]
    cases m <;> rfl
  | .string checks => by
    have hchecks : (Value.list (checks.map TextCheck.dump)).IsData := isData_list_map fun c _ => c.isData_dump
    rw [Body.unshared, Body.dumpFields, unsharedEntries, hchecks.unshared_eq]
    · rfl
    all_goals simp
  | .number checks => by
    have hchecks : (Value.list (checks.map NumberCheck.dump)).IsData := isData_list_map fun c _ => c.isData_dump
    rw [Body.unshared, Body.dumpFields, unsharedEntries, hchecks.unshared_eq]
    · rfl
    all_goals simp
  | .enum options => by
    have hoptions : (Value.list (options.map .text)).IsData := isData_list_map fun t _ => .text t
    rw [Body.unshared, Body.dumpFields, unsharedEntries, hoptions.unshared_eq]
    · rfl
    all_goals simp
  | .primitive _ | .literal _ | .lazy _ _ => rfl

theorem dumpProperties_unshared :
    ∀ properties : List (Value × Value), dumpProperties (unsharedEntries properties) = unsharedEntries (dumpProperties properties)
  | [] => rfl
  | (key, v) :: rest => by
    rw [unsharedEntries, dumpProperties, dumpProperties, unsharedEntries, Value.dump_unshared, dumpProperties_unshared]

theorem dumpNodes_unshared : ∀ ds : List Descriptor, dumpNodes (unsharedNodes ds) = unsharedItems (dumpNodes ds)
  | [] => rfl
  | d :: ds => by rw [unsharedNodes, dumpNodes, dumpNodes, unsharedItems, Descriptor.dump_unshared, dumpNodes_unshared]

end

/-- Reading undoes dumping: what validation makes of data is dumped as data that validation accepts again, and the
result is equal to what was dumped. It is the same in every type and field, down to its own dump, and it has
the signature, the summary and the rendering of what was dumped. -/
theorem toDescriptor_dump {i : Identity} {v : Value} {d : Descriptor} (hv : v.IsData) (hd : v.toDescriptor i = .ok d)
    (j : Identity) :
    d.dump.IsData ∧
      ∃ d', d.dump.toDescriptor j = .ok d' ∧ d'.unshared = d.unshared ∧ d'.dump = d.dump ∧
        d'.compare d = .equal ∧ d.compare d' = .equal ∧
        (∀ maxDepth marker, (Value.node d').signature maxDepth marker = (Value.node d).signature maxDepth marker) ∧
        ∀ defs, (Value.node d').summary defs = (Value.node d).summary defs ∧
          ∀ config, ∃ page : Page, render defs config 0 (.node d) = page.whole ∧
            render defs config 0 (.node d') = page.whole := by
  have hinert := toDescriptor_inertWithin hv hd
  have hdump := hinert.isData_dump
  obtain ⟨d', hd', hsame⟩ := hinert.exists_descriptorAt_dump j
  have hinert' := toDescriptor_inertWithin hdump hd'
  have htwin : Value.Twin (.node d) (.node d') := ⟨d, d', rfl, rfl, ⟨_, hinert⟩, ⟨_, hinert'⟩, hsame.symm⟩
  refine ⟨hdump, d', hd', hsame, ?_, hinert'.compare_eq hinert hsame, hinert.compare_eq hinert' hsame.symm,
    fun maxDepth marker => ?_, fun defs => ⟨?_, fun config => ?_⟩⟩
  · rw [← hinert'.isData_dump.unshared_eq, ← d'.dump_unshared, hsame, d.dump_unshared, hdump.unshared_eq]
  · exact (htwin.signatureIn marker _).symm
  · exact (htwin.summary defs defs).symm
  · obtain ⟨page, hpage, hpage'⟩ := htwin.exists_page defs config
    exact ⟨page, hpage, hpage' defs config.recursionMarker config.unresolvedMarker⟩

/-- The bound that was given as a text is dumped as the number three, and the keys as plain texts. -/
theorem toDescriptor_dump_boundRecord :
    boundData.IsData ∧ boundData.toDescriptor default = .ok boundRecord ∧
      ∃ d', boundRecord.dump.toDescriptor ⟨1, [], 0⟩ = .ok d' ∧ d'.dump = boundRecord.dump ∧
        d'.compare boundRecord = .equal := by
  obtain ⟨_, d', hd', _, hdump, hequal, _⟩ := toDescriptor_dump isData_boundData toDescriptor_boundData ⟨1, [], 0⟩
  exact ⟨isData_boundData, toDescriptor_boundData, d', hd', hdump, hequal⟩

end Schematic
