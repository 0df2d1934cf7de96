import Schematic.Proofs.Layout

namespace Schematic

mutual

/-- The value without its identities; its getters share what they would build. -/
def Value.unshared : Value → Value
  | .list items => .list (unsharedItems items)
  | .tuple items => .tuple (unsharedItems items)
  | .set items => .set (unsharedItems items)
  | .frozenset items => .frozenset (unsharedItems items)
  | .dict entries => .dict (unsharedEntries entries)
  | .cyclicList _ => .cyclicList default
  | .cyclicDict _ => .cyclicDict default
  | .exotic e => .exotic { e with identity := default }
  | .callable _ action => .callable default action.unshared
  | .foreign _ className attributes unreadable => .foreign default className (unsharedAttributes attributes) unreadable
  | .node d => .node d.unshared
  | v => v

def Action.unshared : Action → Action
  | .returns v => .returns v.unshared
  | .raises e => .raises e.unshared
  | .shares n => .shares n
  | .rebuilds n => .shares n

def Raised.unshared : Raised → Raised
  | .mk className arguments => .mk className (unsharedItems arguments)

def Modifier.unshared : Modifier → Modifier
  | .default value factory => .default value.unshared factory.unshared
  | .catching value => .catching value.unshared
  | .effect function kind => .effect function.unshared kind
  | m => m

def Body.unshared : Body → Body
  | .array e low high exact => .array e.unshared low.unshared high.unshared exact.unshared
  | .object properties => .object (unsharedEntries properties)
  | .union options => .union (unsharedNodes options)
  | .intersection left right => .intersection left.unshared right.unshared
  | .record key value => .record key.unshared value.unshared
  | .tuple items rest => .tuple (unsharedNodes items) rest.unshared
  | .literal value => .literal value.unshared
  | .promise inner => .promise inner.unshared
  | .modified m inner => .modified m.unshared inner.unshared
  | .lazy _ getter => .lazy default getter.unshared
  | b => b

def Descriptor.unshared : Descriptor → Descriptor
  | .mk _ description body => .mk default description.unshared body.unshared

def unsharedItems : List Value → List Value
  | [] => []
  | v :: vs => v.unshared :: unsharedItems vs

def unsharedEntries : List (Value × Value) → List (Value × Value)
  | [] => []
  | (k, v) :: rest => (k.unshared, v.unshared) :: unsharedEntries rest

def unsharedAttributes : List (Text × Value) → List (Text × Value)
  | [] => []
  | (name, v) :: rest => (name, v.unshared) :: unsharedAttributes rest

def unsharedNodes : List Descriptor → List Descriptor
  | [] => []
  | d :: ds => d.unshared :: unsharedNodes ds

end

mutual

theorem Value.unshared_mapIdentity (f : Identity → Identity) : ∀ v : Value, (v.mapIdentity f).unshared = v.unshared
  | .list items => by rw [Value.mapIdentity, Value.unshared, Value.unshared, unsharedItems_mapIdentity]
  | .tuple items => by rw [Value.mapIdentity, Value.unshared, Value.unshared, unsharedItems_mapIdentity]
  | .set items => by rw [Value.mapIdentity, Value.unshared, Value.unshared, unsharedItems_mapIdentity]
  | .frozenset items => by rw [Value.mapIdentity, Value.unshared, Value.unshared, unsharedItems_mapIdentity]
  | .dict entries => by rw [Value.mapIdentity, Value.unshared, Value.unshared, unsharedEntries_mapIdentity]
  | .callable _ action => by rw [Value.mapIdentity, Value.unshared, Value.unshared, Action.unshared_mapIdentity]
  | .foreign _ _ attributes _ => by
    rw [Value.mapIdentity, Value.unshared, Value.unshared, unsharedAttributes_mapIdentity]
  | .node d => by rw [Value.mapIdentity, Value.unshared, Value.unshared, Descriptor.unshared_mapIdentity]
  | .absent | .null | .bool _ | .int _ | .float _ | .text _ | .bytes _ | .cyclicList _ | .cyclicDict _ | .pattern _ _
  | .exotic _ | .unshown _ _ => rfl

theorem Action.unshared_mapIdentity (f : Identity → Identity) : ∀ a : Action, (a.mapIdentity f).unshared = a.unshared
  | .returns v => by rw [Action.mapIdentity, Action.unshared, Action.unshared, Value.unshared_mapIdentity]
  | .raises e => by rw [Action.mapIdentity, Action.unshared, Action.unshared, Raised.unshared_mapIdentity]
  | .shares _ | .rebuilds _ => rfl

theorem Raised.unshared_mapIdentity (f : Identity → Identity) : ∀ e : Raised, (e.mapIdentity f).unshared = e.unshared
  | .mk _ arguments => by rw [Raised.mapIdentity, Raised.unshared, Raised.unshared, unsharedItems_mapIdentity]

theorem Modifier.unshared_mapIdentity (f : Identity → Identity) :
    ∀ m : Modifier, (m.mapIdentity f).unshared = m.unshared
  | .default value factory => by
    rw [Modifier.mapIdentity, Modifier.unshared, Modifier.unshared, Value.unshared_mapIdentity,
      Value.unshared_mapIdentity]
  | .catching value => by rw [Modifier.mapIdentity, Modifier.unshared, Modifier.unshared, Value.unshared_mapIdentity]
  | .effect function _ => by
    rw [Modifier.mapIdentity, Modifier.unshared, Modifier.unshared, Value.unshared_mapIdentity]
  | .optional | .nullable | .readonly | .branded _ => rfl

theorem Body.unshared_mapIdentity (f : Identity → Identity) : ∀ b : Body, (b.mapIdentity f).unshared = b.unshared
  | .array e low high exact => by
    rw [Body.mapIdentity, Body.unshared, Body.unshared, Descriptor.unshared_mapIdentity, Value.unshared_mapIdentity,
      Value.unshared_mapIdentity, Value.unshared_mapIdentity]
  | .object properties => by rw [Body.mapIdentity, Body.unshared, Body.unshared, unsharedEntries_mapIdentity]
  | .union options => by rw [Body.mapIdentity, Body.unshared, Body.unshared, unsharedNodes_mapIdentity]
  | .intersection left right => by
    rw [Body.mapIdentity, Body.unshared, Body.unshared, Descriptor.unshared_mapIdentity,
      Descriptor.unshared_mapIdentity]
  | .record key value => by
    rw [Body.mapIdentity, Body.unshared, Body.unshared, Descriptor.unshared_mapIdentity,
      Descriptor.unshared_mapIdentity]
  | .tuple items rest => by
    rw [Body.mapIdentity, Body.unshared, Body.unshared, unsharedNodes_mapIdentity, Value.unshared_mapIdentity]
  | .literal value => by rw [Body.mapIdentity, Body.unshared, Body.unshared, Value.unshared_mapIdentity]
  | .promise inner => by rw [Body.mapIdentity, Body.unshared, Body.unshared, Descriptor.unshared_mapIdentity]
  | .modified m inner => by
    rw [Body.mapIdentity, Body.unshared, Body.unshared, Modifier.unshared_mapIdentity,
      Descriptor.unshared_mapIdentity]
  | .lazy _ getter => by rw [Body.mapIdentity, Body.unshared, Body.unshared, Action.unshared_mapIdentity]
  | .string _ | .number _ | .primitive _ | .enum _ => rfl

theorem Descriptor.unshared_mapIdentity (f : Identity → Identity) :
    ∀ d : Descriptor, (d.mapIdentity f).unshared = d.unshared
  | .mk _ description body => by
    rw [Descriptor.mapIdentity, Descriptor.unshared, Descriptor.unshared, Value.unshared_mapIdentity,
      Body.unshared_mapIdentity]

theorem unsharedItems_mapIdentity (f : Identity → Identity) :
    ∀ vs : List Value, unsharedItems (mapIdentities f vs) = unsharedItems vs
  | [] => rfl
  | v :: vs => by
    rw [mapIdentities, unsharedItems, unsharedItems, Value.unshared_mapIdentity, unsharedItems_mapIdentity]

theorem unsharedEntries_mapIdentity (f : Identity → Identity) :
    ∀ entries : List (Value × Value), unsharedEntries (mapEntryIdentities f entries) = unsharedEntries entries
  | [] => rfl
  | (k, v) :: rest => by
    rw [mapEntryIdentities, unsharedEntries, unsharedEntries, Value.unshared_mapIdentity, Value.unshared_mapIdentity,
      unsharedEntries_mapIdentity]

theorem unsharedAttributes_mapIdentity (f : Identity → Identity) :
    ∀ attributes : List (Text × Value),
      unsharedAttributes (mapAttributeIdentities f attributes) = unsharedAttributes attributes
  | [] => rfl
  | (name, v) :: rest => by
    rw [mapAttributeIdentities, unsharedAttributes, unsharedAttributes, Value.unshared_mapIdentity,
      unsharedAttributes_mapIdentity]

theorem unsharedNodes_mapIdentity (f : Identity → Identity) :
    ∀ ds : List Descriptor, unsharedNodes (mapNodeIdentities f ds) = unsharedNodes ds
  | [] => rfl
  | d :: ds => by
    rw [mapNodeIdentities, unsharedNodes, unsharedNodes, Descriptor.unshared_mapIdentity, unsharedNodes_mapIdentity]

end

theorem toKind_unshared (m : Modifier) : m.unshared.toKind = m.toKind := by
  cases m <;> rfl

theorem Body.toKind_unshared (b : Body) : b.unshared.toKind = b.toKind := by
  cases b with
  | modified m inner => exact Schematic.toKind_unshared m
  | _ => rfl

mutual

theorem Value.written_unshared : ∀ v : Value, v.unshared.written = v.written
  | .list items => by rw [Value.unshared, Value.written, Value.written, writtenItems_unshared]
  | .tuple items => by rw [Value.unshared, Value.written, Value.written, writtenItems_unshared]
  | .set [] => rfl
  | .set (v :: items) => by
    rw [Value.unshared, unsharedItems, Value.written, Value.written, ← unsharedItems, writtenItems_unshared] <;> simp
  | .frozenset [] => rfl
  | .frozenset (v :: items) => by
    rw [Value.unshared, unsharedItems, Value.written, Value.written, ← unsharedItems, writtenItems_unshared] <;> simp
  | .dict entries => by rw [Value.unshared, Value.written, Value.written, writtenEntries_unshared]
  | .node d => by rw [Value.unshared, Value.written, Value.written, Descriptor.written_unshared]
  | .absent | .null | .bool _ | .int _ | .float _ | .text _ | .bytes _ | .cyclicList _ | .cyclicDict _ | .pattern _ _
  | .exotic _ | .unshown _ _ | .callable _ _ | .foreign _ _ _ _ => rfl

theorem Descriptor.written_unshared : ∀ d : Descriptor, d.unshared.written = d.written
  | .mk _ description body => by
    rw [Descriptor.unshared, Descriptor.written, Descriptor.written, Value.written_unshared, Body.fields_unshared,
      Body.toKind_unshared]

theorem Body.fields_unshared : ∀ b : Body, b.unshared.fields = b.fields
  | .array e low high exact => by
    rw [Body.unshared, Body.fields, Body.fields, Descriptor.written_unshared, Value.written_unshared,
      Value.written_unshared, Value.written_unshared]
  | .object properties => by rw [Body.unshared, Body.fields, Body.fields, writtenEntries_unshared]
  | .union options => by rw [Body.unshared, Body.fields, Body.fields, writtenNodes_unshared]
  | .intersection left right => by
    rw [Body.unshared, Body.fields, Body.fields, Descriptor.written_unshared, Descriptor.written_unshared]
  | .record key value => by
    rw [Body.unshared, Body.fields, Body.fields, Descriptor.written_unshared, Descriptor.written_unshared]
  | .tuple items rest => by
    rw [Body.unshared, Body.fields, Body.fields, writtenNodes_unshared, Value.written_unshared]
  | .literal value => by rw [Body.unshared, Body.fields, Body.fields, Value.written_unshared]
  | .promise inner => by rw [Body.unshared, Body.fields, Body.fields, Descriptor.written_unshared]
  | .modified m inner => by
    rw [Body.unshared, Body.fields, Body.fields, Descriptor.written_unshared, Modifier.fields_unshared]
  | .string _ | .number _ | .primitive _ | .enum _ | .lazy _ _ => rfl

theorem Modifier.fields_unshared : ∀ m : Modifier, m.unshared.fields = m.fields
  | .default value factory => by
    rw [Modifier.unshared, Modifier.fields, Modifier.fields, Value.written_unshared, Value.written_unshared]
  | .catching value => by rw [Modifier.unshared, Modifier.fields, Modifier.fields, Value.written_unshared]
  | .effect function _ => by rw [Modifier.unshared, Modifier.fields, Modifier.fields, Value.written_unshared]
  | .optional | .nullable | .readonly | .branded _ => rfl

theorem writtenItems_unshared : ∀ vs : List Value, writtenItems (unsharedItems vs) = writtenItems vs
  | [] => rfl
  | v :: vs => by rw [unsharedItems, writtenItems, writtenItems, Value.written_unshared, writtenItems_unshared]

theorem writtenEntries_unshared :
    ∀ entries : List (Value × Value), writtenEntries (unsharedEntries entries) = writtenEntries entries
  | [] => rfl
  | (k, v) :: rest => by
    rw [unsharedEntries, writtenEntries, writtenEntries, Value.written_unshared, Value.written_unshared,
      writtenEntries_unshared]

theorem writtenNodes_unshared : ∀ ds : List Descriptor, writtenNodes (unsharedNodes ds) = writtenNodes ds
  | [] => rfl
  | d :: ds => by rw [unsharedNodes, writtenNodes, writtenNodes, Descriptor.written_unshared, writtenNodes_unshared]

end

theorem unsharedItems_eq (items : List Value) : unsharedItems items = items.map Value.unshared := by
  induction items with
  | nil => rfl
  | cons v items ih => rw [unsharedItems, ih, List.map_cons]

theorem unsharedNodes_eq (ds : List Descriptor) : unsharedNodes ds = ds.map Descriptor.unshared := by
  induction ds with
  | nil => rfl
  | cons d ds ih => rw [unsharedNodes, ih, List.map_cons]

theorem unsharedEntries_eq (entries : List (Value × Value)) :
    unsharedEntries entries = entries.map fun e => (e.1.unshared, e.2.unshared) := by
  induction entries with
  | nil => rfl
  | cons e entries ih => rw [unsharedEntries, ih, List.map_cons]

theorem unsharedAttributes_eq (attributes : List (Text × Value)) :
    unsharedAttributes attributes = attributes.map fun a => (a.1, a.2.unshared) := by
  induction attributes with
  | nil => rfl
  | cons a attributes ih => rw [unsharedAttributes, ih, List.map_cons]

theorem Value.shown_unshared (v : Value) : v.unshared.shown = v.shown := by
  cases v with
  | text | exotic => rfl
  | node d =>
    obtain ⟨i, description, body⟩ := d
    simp only [Value.unshared, Descriptor.unshared, Value.shown, Value.written_unshared, Body.toKind_unshared,
      Body.fields_unshared]
  | _ => exact Value.written_unshared _

theorem Value.truthy_unshared (v : Value) : v.unshared.truthy = v.truthy := by
  cases v <;> simp [Value.unshared, Value.truthy, unsharedItems_eq, unsharedEntries_eq]

theorem Value.attribute?_unshared (name : Text) (v : Value) :
    v.unshared.attribute? name = (v.attribute? name).map Value.unshared := by
  cases v with
  | foreign i className attributes unreadable =>
    simp only [Value.unshared, Value.attribute?, unsharedAttributes_eq, ← List.map_reverse, List.find?_map,
      Option.map_map]
    split_ifs
    · rfl
    · rw [Option.map_map]
      rfl
  | _ => rfl

theorem Value.obstacleAt?_unshared (name : Text) (v : Value) : v.unshared.obstacleAt? name = v.obstacleAt? name := by
  cases v <;> rfl

theorem Value.fallbackName_unshared (v : Value) : v.unshared.fallbackName = v.fallbackName := by
  cases v with
  | foreign i className attributes unreadable =>
    have hkind := Value.attribute?_unshared "kind" (.foreign i className attributes unreadable)
    have hobstacle := Value.obstacleAt?_unshared "kind" (.foreign i className attributes unreadable)
    simp only [Value.unshared] at hkind hobstacle
    simp only [Value.unshared, Value.fallbackName, hkind, hobstacle]
    cases (Value.foreign i className attributes unreadable).obstacleAt? "kind" with
    | some why => rfl
    | none =>
      cases (Value.foreign i className attributes unreadable).attribute? "kind" with
      | none => rfl
      | some kind => cases kind <;> rfl
  | node d =>
    obtain ⟨i, description, body⟩ := d
    exact congrArg Kind.tag body.toKind_unshared
  | _ => rfl

mutual

theorem Json.write?_unshared : ∀ v : Value, Json.write? v.unshared = Json.write? v
  | .list items => by rw [Value.unshared, Json.write?, Json.write?, writeItems?_unshared]
  | .tuple items => by rw [Value.unshared, Json.write?, Json.write?, writeItems?_unshared]
  | .dict entries => by rw [Value.unshared, Json.write?, Json.write?, writeEntries?_unshared]
  | .absent | .null | .bool _ | .int _ | .float _ | .text _ | .bytes _ | .set _ | .frozenset _ | .cyclicList _
  | .cyclicDict _ | .pattern _ _ | .exotic _ | .unshown _ _ | .callable _ _ | .foreign _ _ _ _ | .node _ => rfl

theorem Json.writeItems?_unshared : ∀ vs : List Value, Json.writeItems? (unsharedItems vs) = Json.writeItems? vs
  | [] => rfl
  | v :: vs => by rw [unsharedItems, Json.writeItems?, Json.writeItems?, write?_unshared, writeItems?_unshared]

theorem Json.writeEntries?_unshared :
    ∀ entries : List (Value × Value), Json.writeEntries? (unsharedEntries entries) = Json.writeEntries? entries
  | [] => rfl
  | (k, v) :: rest => by
    have hkey : Json.key? k.unshared = Json.key? k := by cases k <;> rfl
    rw [unsharedEntries, Json.writeEntries?, Json.writeEntries?, hkey, write?_unshared, writeEntries?_unshared]

end

theorem inWrittenOrder_unshared (items : List Value) :
    inWrittenOrder (unsharedItems items) = unsharedItems (inWrittenOrder items) := by
  rw [inWrittenOrder, inWrittenOrder, unsharedItems_eq, unsharedItems_eq]
  refine (List.map_mergeSort fun a _ b _ => ?_).symm
  rw [Value.written_unshared, Value.written_unshared]

theorem Value.setAsList_unshared (v : Value) : Json.write? v.unshared.setAsList = Json.write? v.setAsList := by
  cases v with
  | set items | frozenset items =>
    simp only [Value.unshared, Value.setAsList, inWrittenOrder_unshared]
    exact Json.write?_unshared (.list (inWrittenOrder items))
  | _ => exact Json.write?_unshared _

theorem Value.itemObstacle?_unshared (v : Value) : v.unshared.itemObstacle? = v.itemObstacle? := by
  cases v with
  | set items | frozenset items =>
    simp only [Value.unshared, Value.itemObstacle?, unsharedItems_eq, List.filterMap_map, Function.comp_def,
      Value.written_unshared]
  | _ => rfl

theorem Value.token_unshared (v : Value) : v.unshared.token = v.token := by
  have hset := v.setAsList_unshared
  have hitem := v.itemObstacle?_unshared
  have hshown := v.shown_unshared
  cases v with
  | list | tuple | set | frozenset | dict =>
    simp only [Value.unshared] at hset hitem
    simp only [Value.unshared, Value.token, Value.valueClass, hset, hitem]
  | node | foreign | exotic =>
    simp only [Value.unshared] at hshown
    simp only [Value.unshared, Value.token, Value.valueClass, hshown]
  | _ => rfl

theorem Value.descriptionOrNull_unshared (v : Value) : v.unshared.descriptionOrNull = v.descriptionOrNull.unshared := by
  have hchoice : ∀ w : Value,
      (if w.unshared.truthy then w.unshared else .null) = (if w.truthy then w else .null).unshared := by
    intro w
    rw [Value.truthy_unshared]
    cases w.truthy <;> rfl
  cases v with
  | node d =>
    obtain ⟨i, description, body⟩ := d
    exact hchoice description
  | foreign i className attributes unreadable =>
    have hfind := Value.attribute?_unshared "description" (.foreign i className attributes unreadable)
    have hobstacle := Value.obstacleAt?_unshared "description" (.foreign i className attributes unreadable)
    simp only [Value.unshared] at hfind hobstacle
    simp only [Value.unshared, Value.descriptionOrNull, hfind, hobstacle]
    cases (Value.foreign i className attributes unreadable).obstacleAt? "description" with
    | some why => rfl
    | none =>
      cases (Value.foreign i className attributes unreadable).attribute? "description" with
      | none => rfl
      | some w => exact hchoice w
  | _ => rfl

theorem Value.description?_unshared (v : Value) : v.unshared.description? = v.description? := by
  rw [Value.description?, Value.description?, Value.descriptionOrNull_unshared]
  have hshown := v.descriptionOrNull.shown_unshared
  generalize v.descriptionOrNull = description at hshown
  cases description with
  | null => rfl
  | _ => exact congrArg some hshown

end Schematic
