import Schematic.Proofs.Question
import Schematic.Proofs.Unshared
import Schematic.Value.Nesting

namespace Schematic

@[simp] theorem isEmpty_unsharedItems (vs : List Value) : (unsharedItems vs).isEmpty = vs.isEmpty := by
  cases vs <;> rfl

@[simp] theorem isEmpty_unsharedEntries (entries : List (Value × Value)) :
    (unsharedEntries entries).isEmpty = entries.isEmpty := by
  cases entries <;> rfl

mutual

theorem Value.nesting_unshared : ∀ v : Value, v.unshared.nesting = v.nesting
  | .list items | .tuple items | .set items | .frozenset items => by
    rw [Value.unshared, Value.nesting, Value.nesting, nestingOfItems_unshared, isEmpty_unsharedItems]
  | .dict entries => by
    rw [Value.unshared, Value.nesting, Value.nesting, nestingOfEntries_unshared, isEmpty_unsharedEntries]
  | .absent | .null | .bool _ | .int _ | .float _ | .text _ | .bytes _ | .cyclicList _ | .cyclicDict _ | .pattern _ _
  | .exotic _ | .unshown _ _ | .callable _ _ | .foreign _ _ _ _ | .node _ => rfl

theorem nestingOfItems_unshared : ∀ vs : List Value, nestingOfItems (unsharedItems vs) = nestingOfItems vs
  | [] => rfl
  | v :: vs => by
    rw [unsharedItems, nestingOfItems, nestingOfItems, Value.nesting_unshared, nestingOfItems_unshared]

theorem nestingOfEntries_unshared :
    ∀ entries : List (Value × Value), nestingOfEntries (unsharedEntries entries) = nestingOfEntries entries
  | [] => rfl
  | (k, v) :: rest => by
    rw [unsharedEntries, nestingOfEntries, nestingOfEntries, Value.nesting_unshared, Value.nesting_unshared,
      nestingOfEntries_unshared]

end

mutual

theorem Json.fate_unshared : ∀ (room : Nat) (v : Value), Json.fate room v.unshared = Json.fate room v
  | room, .list items | room, .tuple items => by
    cases room with
    | zero => simp only [Value.unshared, Json.fate, isEmpty_unsharedItems]
    | succ room => simp only [Value.unshared, Json.fate, isEmpty_unsharedItems, Json.fateOfItems_unshared room items]
  | room, .dict entries => by
    cases room with
    | zero => simp only [Value.unshared, Json.fate, isEmpty_unsharedEntries]
    | succ room =>
      simp only [Value.unshared, Json.fate, isEmpty_unsharedEntries, Json.fateOfEntries_unshared room entries]
  | _, .absent | _, .null | _, .bool _ | _, .int _ | _, .float _ | _, .text _ | _, .bytes _ | _, .set _ | _, .frozenset _
  | _, .cyclicList _ | _, .cyclicDict _ | _, .pattern _ _ | _, .exotic _ | _, .unshown _ _ | _, .callable _ _
  | _, .foreign _ _ _ _ | _, .node _ => by simp only [Value.unshared, Json.fate, Json.write?]

theorem Json.fateOfItems_unshared :
    ∀ (room : Nat) (vs : List Value), Json.fateOfItems room (unsharedItems vs) = Json.fateOfItems room vs
  | _, [] => rfl
  | room, v :: vs => by
    rw [unsharedItems, Json.fateOfItems, Json.fateOfItems, Json.fate_unshared, Json.fateOfItems_unshared]

theorem Json.fateOfEntries_unshared : ∀ (room : Nat) (entries : List (Value × Value)),
    Json.fateOfEntries room (unsharedEntries entries) = Json.fateOfEntries room entries
  | _, [] => rfl
  | room, (k, v) :: rest => by
    have hkey : Json.key? k.unshared = Json.key? k := by cases k <;> rfl
    rw [unsharedEntries, Json.fateOfEntries, Json.fateOfEntries, hkey, Json.fate_unshared, Json.fateOfEntries_unshared]

end

theorem Value.className_unshared (v : Value) : v.unshared.className = v.className := by
  cases v with
  | node d =>
    obtain ⟨i, description, body⟩ := d
    exact congrArg Kind.className body.toKind_unshared
  | _ => rfl

theorem Value.writingObstacle?_unshared (room : Nat) (v : Value) :
    v.unshared.writingObstacle? room = v.writingObstacle? room := by
  rw [writingObstacle?, writingObstacle?, nesting_unshared, written_unshared]

/-- Identities do not count for what is raised where a token is put together. -/
theorem Value.tokenObstacle?_unshared (room : Nat) (v : Value) : v.unshared.tokenObstacle? room = v.tokenObstacle? room := by
  cases v with
  | set items | frozenset items =>
    have hitems : (unsharedItems items).findSome? (Value.writingObstacle? room) =
        items.findSome? (Value.writingObstacle? room) := by
      rw [unsharedItems_eq, List.findSome?_map]
      exact congrArg (List.findSome? · items) (funext fun v => v.writingObstacle?_unshared room)
    have hfate := Json.fate_unshared room (.list (inWrittenOrder items))
    rw [Value.unshared] at hfate
    simp only [Value.unshared, Value.tokenObstacle?, hitems, inWrittenOrder_unshared, hfate]
  | list items => exact congrArg Json.Fate.obstacle? (Json.fate_unshared room (.list items))
  | tuple items => exact congrArg Json.Fate.obstacle? (Json.fate_unshared room (.tuple items))
  | dict entries => exact congrArg Json.Fate.obstacle? (Json.fate_unshared room (.dict entries))
  | _ => rfl

section MapIdentity

variable (room : Nat) (f : Identity → Identity)

theorem Value.tokenObstacle?_mapIdentity (v : Value) : (v.mapIdentity f).tokenObstacle? room = v.tokenObstacle? room := by
  rw [← tokenObstacle?_unshared, unshared_mapIdentity, tokenObstacle?_unshared]

theorem Value.nesting_mapIdentity (v : Value) : (v.mapIdentity f).nesting = v.nesting := by
  rw [← nesting_unshared, unshared_mapIdentity, nesting_unshared]

theorem Value.className_mapIdentity (v : Value) : (v.mapIdentity f).className = v.className := by
  rw [← className_unshared, unshared_mapIdentity, className_unshared]

end MapIdentity

/-- A container is given as it is or by what is raised where it is shown, and so is one that is built anew. -/
theorem Value.shallow_container {room : Nat} {f : Identity → Identity} {v : Value}
    (hv : v.shallow room = match v.tokenObstacle? room with
      | some why => .unshown v.className why
      | none => v)
    (hmap : (v.mapIdentity f).shallow room = match (v.mapIdentity f).tokenObstacle? room with
      | some why => .unshown (v.mapIdentity f).className why
      | none => v.mapIdentity f) : (v.mapIdentity f).shallow room = (v.shallow room).mapIdentity f := by
  rw [hmap, hv, tokenObstacle?_mapIdentity, className_mapIdentity]
  cases v.tokenObstacle? room <;> rfl

mutual

theorem Value.shallow_mapIdentity (room : Nat) (f : Identity → Identity) :
    ∀ v : Value, (v.mapIdentity f).shallow room = (v.shallow room).mapIdentity f
  | .callable i action => by
    rw [Value.mapIdentity, Value.shallow, Value.shallow, Value.mapIdentity, Action.shallow_mapIdentity]
  | .foreign i className attributes unreadable => by
    rw [Value.mapIdentity, Value.shallow, Value.shallow, Value.mapIdentity, shallowAttributes_mapIdentity]
  | .node d => by rw [Value.mapIdentity, Value.shallow, Value.shallow, Value.mapIdentity, Descriptor.shallow_mapIdentity]
  | .list _ | .tuple _ | .set _ | .frozenset _ | .dict _ | .absent | .null | .bool _ | .int _ | .float _ | .text _ | .bytes _
  | .cyclicList _ | .cyclicDict _ | .pattern _ _ | .exotic _ | .unshown _ _ => Value.shallow_container rfl rfl

theorem Action.shallow_mapIdentity (room : Nat) (f : Identity → Identity) :
    ∀ a : Action, (a.mapIdentity f).shallow room = (a.shallow room).mapIdentity f
  | .returns v => by rw [Action.mapIdentity, Action.shallow, Action.shallow, Action.mapIdentity, Value.shallow_mapIdentity]
  | .raises e => by rw [Action.mapIdentity, Action.shallow, Action.shallow, Action.mapIdentity, Raised.shallow_mapIdentity]
  | .shares _ | .rebuilds _ => rfl

theorem Raised.shallow_mapIdentity (room : Nat) (f : Identity → Identity) :
    ∀ e : Raised, (e.mapIdentity f).shallow room = (e.shallow room).mapIdentity f
  | .mk className arguments => by
    rw [Raised.mapIdentity, Raised.shallow, Raised.shallow, Raised.mapIdentity, mapIdentities_eq, mapIdentities_eq,
      List.map_map, List.map_map]
    refine congrArg (Raised.mk className) (List.map_congr_left fun v _ => ?_)
    simp only [Function.comp, Value.nesting_mapIdentity, Value.className_mapIdentity]
    split_ifs <;> rfl

theorem Modifier.shallow_mapIdentity (room : Nat) (f : Identity → Identity) :
    ∀ m : Modifier, (m.mapIdentity f).shallow room = (m.shallow room).mapIdentity f
  | .default value factory => by
    rw [Modifier.mapIdentity, Modifier.shallow, Modifier.shallow, Modifier.mapIdentity, Value.shallow_mapIdentity,
      Value.shallow_mapIdentity]
  | .catching value => by
    rw [Modifier.mapIdentity, Modifier.shallow, Modifier.shallow, Modifier.mapIdentity, Value.shallow_mapIdentity]
  | .effect function _ => by
    rw [Modifier.mapIdentity, Modifier.shallow, Modifier.shallow, Modifier.mapIdentity, Value.shallow_mapIdentity]
  | .optional | .nullable | .readonly | .branded _ => rfl

theorem Body.shallow_mapIdentity (room : Nat) (f : Identity → Identity) :
    ∀ b : Body, (b.mapIdentity f).shallow room = (b.shallow room).mapIdentity f
  | .array e _ _ _ => by rw [Body.mapIdentity, Body.shallow, Body.shallow, Body.mapIdentity, Descriptor.shallow_mapIdentity]
  | .object properties => by
    rw [Body.mapIdentity, Body.shallow, Body.shallow, Body.mapIdentity, shallowEntries_mapIdentity]
  | .union options => by rw [Body.mapIdentity, Body.shallow, Body.shallow, Body.mapIdentity, shallowNodes_mapIdentity]
  | .intersection left right => by
    rw [Body.mapIdentity, Body.shallow, Body.shallow, Body.mapIdentity, Descriptor.shallow_mapIdentity,
      Descriptor.shallow_mapIdentity]
  | .record key value => by
    rw [Body.mapIdentity, Body.shallow, Body.shallow, Body.mapIdentity, Descriptor.shallow_mapIdentity,
      Descriptor.shallow_mapIdentity]
  | .tuple items rest => by
    rw [Body.mapIdentity, Body.shallow, Body.shallow, Body.mapIdentity, shallowNodes_mapIdentity, Value.shallow_mapIdentity]
  | .literal value => by rw [Body.mapIdentity, Body.shallow, Body.shallow, Body.mapIdentity, Value.shallow_mapIdentity]
  | .promise inner => by rw [Body.mapIdentity, Body.shallow, Body.shallow, Body.mapIdentity, Descriptor.shallow_mapIdentity]
  | .modified m inner => by
    rw [Body.mapIdentity, Body.shallow, Body.shallow, Body.mapIdentity, Modifier.shallow_mapIdentity,
      Descriptor.shallow_mapIdentity]
  | .lazy _ getter => by rw [Body.mapIdentity, Body.shallow, Body.shallow, Body.mapIdentity, Action.shallow_mapIdentity]
  | .string _ | .number _ | .primitive _ | .enum _ => rfl

theorem Descriptor.shallow_mapIdentity (room : Nat) (f : Identity → Identity) :
    ∀ d : Descriptor, (d.mapIdentity f).shallow room = (d.shallow room).mapIdentity f
  | .mk _ _ body => by
    rw [Descriptor.mapIdentity, Descriptor.shallow, Descriptor.shallow, Descriptor.mapIdentity, Body.shallow_mapIdentity]

theorem shallowEntries_mapIdentity (room : Nat) (f : Identity → Identity) : ∀ entries : List (Value × Value),
    shallowEntries room (mapEntryIdentities f entries) = mapEntryIdentities f (shallowEntries room entries)
  | [] => rfl
  | (k, v) :: rest => by
    rw [mapEntryIdentities, shallowEntries, shallowEntries, mapEntryIdentities, Value.shallow_mapIdentity,
      shallowEntries_mapIdentity]

theorem shallowAttributes_mapIdentity (room : Nat) (f : Identity → Identity) : ∀ attributes : List (Text × Value),
    shallowAttributes room (mapAttributeIdentities f attributes) = mapAttributeIdentities f (shallowAttributes room attributes)
  | [] => rfl
  | (name, v) :: rest => by
    rw [mapAttributeIdentities, shallowAttributes, shallowAttributes, mapAttributeIdentities, Value.shallow_mapIdentity,
      shallowAttributes_mapIdentity]

theorem shallowNodes_mapIdentity (room : Nat) (f : Identity → Identity) : ∀ ds : List Descriptor,
    shallowNodes room (mapNodeIdentities f ds) = mapNodeIdentities f (shallowNodes room ds)
  | [] => rfl
  | d :: ds => by
    rw [mapNodeIdentities, shallowNodes, shallowNodes, mapNodeIdentities, Descriptor.shallow_mapIdentity,
      shallowNodes_mapIdentity]

end

section Graph

variable {room : Nat} {defs : Definitions}

theorem shallowNodes_eq (ds : List Descriptor) : shallowNodes room ds = ds.map (Descriptor.shallow room) := by
  induction ds with
  | nil => rfl
  | cons d ds ih => rw [shallowNodes, ih, List.map_cons]

theorem shallowEntries_eq (entries : List (Value × Value)) :
    shallowEntries room entries = entries.map fun e => (e.1, e.2.shallow room) := by
  induction entries with
  | nil => rfl
  | cons e entries ih => rw [shallowEntries, ih, List.map_cons]

def shallowOutcome (room : Nat) : Except Raised Value → Except Raised Value
  | .ok v => .ok (v.shallow room)
  | .error e => .error (e.shallow room)

theorem Definitions.get_shallow (defs : Definitions) (n : Nat) :
    (defs.shallow room).get n = shallowOutcome room (defs.get n) := by
  have hmap : defs.shallow room = defs.map (shallowOutcome room) := by
    refine List.map_congr_left fun outcome _ => ?_
    cases outcome <;> rfl
  rw [get, get, hmap, List.getD_eq_getElem?_getD, List.getD_eq_getElem?_getD, List.getElem?_map]
  cases defs[n]? <;> rfl

theorem Action.call_shallow (a : Action) (copy : Nat) :
    (a.shallow room).call (defs.shallow room) copy = shallowOutcome room (a.call defs copy) := by
  cases a with
  | returns | raises => rfl
  | shares n => exact defs.get_shallow n
  | rebuilds n =>
    change ((defs.shallow room).get n).map (·.rebuild n copy) = shallowOutcome room ((defs.get n).map (·.rebuild n copy))
    rw [defs.get_shallow]
    cases defs.get n with
    | error e => rfl
    | ok v => exact congrArg Except.ok (Value.shallow_mapIdentity room _ v).symm

theorem Value.shallow_eq_null {v : Value} : v.shallow room = .null ↔ v = .null := by
  cases v with
  | list | tuple | set | frozenset | dict =>
    simp only [shallow]
    split <;> simp
  | _ => simp [shallow, tokenObstacle?]

theorem Body.children_shallow (b : Body) : (b.shallow room).children = b.children.map (Value.shallow room) := by
  cases b with
  | object properties => simp [shallow, children, shallowEntries_eq]
  | union options => simp [shallow, children, shallowNodes_eq, Value.shallow]
  | tuple items rest =>
    by_cases hrest : rest = .null
    · subst hrest
      simp [shallow, children, shallowNodes_eq, Value.shallow, Value.tokenObstacle?]
    · simp [shallow, children, hrest, Value.shallow_eq_null, shallowNodes_eq, Value.shallow]
  | _ => simp [shallow, children, Value.shallow]

/-- An edge of the graph that is shown comes from an edge of the graph. -/
theorem Edge.of_shallow {v w : Value} (h : Edge (defs.shallow room) (v.shallow room) w) :
    ∃ x, x.shallow room = w ∧ Edge defs v x := by
  obtain ⟨e, he⟩ := h.isNode
  obtain ⟨d, rfl⟩ : v.IsNode := by
    cases v with
    | node d => exact ⟨d, rfl⟩
    | list | tuple | set | frozenset | dict =>
      simp only [Value.shallow] at he
      split at he <;> cases he
    | _ => cases he
  obtain ⟨i, description, body⟩ := d
  rw [Value.shallow, Descriptor.shallow] at h
  generalize hbody : body.shallow room = shown at h
  cases h with
  | field child =>
    rw [Descriptor.body, ← hbody, Body.children_shallow] at child
    obtain ⟨x, hx, rfl⟩ := List.mem_map.mp child
    exact ⟨x, rfl, .field hx⟩
  | getter call =>
    cases body with
    | lazy j g =>
      obtain ⟨rfl, rfl⟩ := Body.lazy.inj hbody
      rw [Action.call_shallow] at call
      rename_i copy
      cases hcall : g.call defs copy with
      | error e => simp [hcall, shallowOutcome] at call
      | ok x =>
        rw [hcall] at call
        exact ⟨x, Except.ok.inj call, .getter hcall⟩
    | _ => cases hbody

theorem reaches_of_shallow {v w : Value} (h : Reaches (defs.shallow room) (v.shallow room) w) :
    ∃ x, x.shallow room = w ∧ Reaches defs v x := by
  induction h with
  | refl => exact ⟨v, rfl, .refl⟩
  | tail _ edge ih =>
    obtain ⟨x, rfl, hx⟩ := ih
    obtain ⟨y, rfl, hy⟩ := edge.of_shallow
    exact ⟨y, rfl, hx.tail hy⟩

theorem Body.Typed.shallow {b : Body} (h : b.Typed) : (b.shallow room).Typed := by
  cases b with
  | object properties =>
    intro entry hentry
    rw [shallowEntries_eq] at hentry
    obtain ⟨e, he, rfl⟩ := List.mem_map.mp hentry
    obtain ⟨hkey, d, hd⟩ := h e he
    exact ⟨hkey, d.shallow room, by rw [hd, Value.shallow]⟩
  | tuple items rest =>
    rcases h with rfl | ⟨d, rfl⟩
    · exact .inl rfl
    · exact .inr ⟨d.shallow room, by rw [Value.shallow]⟩
  | modified m inner =>
    cases m with
    | default value factory =>
      rcases h with rfl | ⟨i, action, rfl⟩
      · exact .inl rfl
      · exact .inr ⟨i, action.shallow room, by rw [Value.shallow]⟩
    | effect function kind =>
      rcases h with rfl | ⟨i, action, rfl⟩
      · exact .inl rfl
      · exact .inr ⟨i, action.shallow room, by rw [Value.shallow]⟩
    | _ => trivial
  | array => exact h
  | _ => trivial

theorem WellTyped.shallow (room : Nat) {v : Value} (h : WellTyped defs v) : WellTyped (defs.shallow room) (v.shallow room) := by
  intro d hd
  obtain ⟨x, hx, hreach⟩ := reaches_of_shallow hd
  cases x with
  | node e =>
    obtain ⟨i, description, body⟩ := e
    obtain ⟨hdescription, hbody⟩ := h _ hreach
    rw [Value.shallow, Descriptor.shallow] at hx
    obtain rfl := Value.node.inj hx
    exact ⟨hdescription, hbody.shallow⟩
  | list | tuple | set | frozenset | dict =>
    simp only [Value.shallow] at hx
    split at hx <;> cases hx
  | _ => cases hx

end Graph

end Schematic
