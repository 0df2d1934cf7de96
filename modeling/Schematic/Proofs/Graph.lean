import Mathlib.Data.Set.Card
import Mathlib.Logic.Relation
import Schematic.Schema.Resolution

/-! The fields and the getters of a node lead to other values. What is reached from a root is its graph. Two
conditions on graphs are named here: `Typed`, every field holds what its declaration asks for, and `Fixed`, an
identity belongs to one node and a getter gives the same on each call. -/
namespace Schematic

/-- The values in those fields of a body that hold descriptors. -/
def Body.children : Body → List Value
  | .array element _ _ _ => [.node element]
  | .object properties => properties.map (·.2)
  | .union options => options.map .node
  | .intersection left right => [.node left, .node right]
  | .record key value => [.node key, .node value]
  | .tuple items .null => items.map .node
  | .tuple items rest => items.map .node ++ [rest]
  | .promise inner => [.node inner]
  | .modified _ inner => [.node inner]
  | _ => []

theorem Body.mem_children_tuple {items : List Descriptor} {rest w : Value} :
    w ∈ (Body.tuple items rest).children ↔ (∃ d ∈ items, Value.node d = w) ∨ (w = rest ∧ rest ≠ .null) := by
  cases rest <;> simp [Body.children]

theorem Body.sizeOf_children_le {b : Body} {w : Value} (h : w ∈ b.children) : sizeOf w ≤ sizeOf b := by
  cases b with
  | object properties =>
    obtain ⟨⟨k, p⟩, hp, rfl⟩ := List.mem_map.mp h
    have := List.sizeOf_lt_of_mem hp
    simp only [Prod.mk.sizeOf_spec, Body.object.sizeOf_spec] at this ⊢
    omega
  | union options =>
    obtain ⟨d, hd, rfl⟩ := List.mem_map.mp h
    have := List.sizeOf_lt_of_mem hd
    simp only [Value.node.sizeOf_spec, Body.union.sizeOf_spec]
    omega
  | tuple items rest =>
    rcases Body.mem_children_tuple.mp h with ⟨d, hd, rfl⟩ | ⟨rfl, _⟩
    · have := List.sizeOf_lt_of_mem hd
      simp only [Value.node.sizeOf_spec, Body.tuple.sizeOf_spec]
      omega
    · simp only [Body.tuple.sizeOf_spec]
      omega
  | array | promise | modified =>
    obtain rfl := List.mem_singleton.mp h
    simp only [Value.node.sizeOf_spec, Body.array.sizeOf_spec, Body.promise.sizeOf_spec, Body.modified.sizeOf_spec]
    omega
  | intersection | record =>
    rcases List.mem_pair.mp h with rfl | rfl <;>
      simp only [Value.node.sizeOf_spec, Body.intersection.sizeOf_spec, Body.record.sizeOf_spec] <;> omega
  | _ => simp [Body.children] at h

theorem Descriptor.sizeOf_children_lt {d : Descriptor} {w : Value} (h : w ∈ d.body.children) : sizeOf w < sizeOf d := by
  obtain ⟨i, description, body⟩ := d
  have := Body.sizeOf_children_le h
  simp only [Descriptor.mk.sizeOf_spec, Descriptor.body] at this ⊢
  omega

def Value.IsNode (v : Value) : Prop := ∃ d, v = .node d

/-- A field or a getter leads from the first value to the second one. -/
inductive Edge (defs : Definitions) : Value → Value → Prop
  | field {d : Descriptor} {w : Value} (child : w ∈ d.body.children) : Edge defs (.node d) w
  | getter {i j : Identity} {description w : Value} {g : Action} {copy : Nat} (call : g.call defs copy = .ok w) :
      Edge defs (.node (.mk i description (.lazy j g))) w

theorem Edge.inner {defs : Definitions} (i : Identity) (description : Value) (m : Modifier) (inner : Descriptor) :
    Edge defs (.node (.mk i description (.modified m inner))) (.node inner) := .field (List.mem_singleton_self _)

theorem Edge.isNode {defs : Definitions} {v w : Value} (h : Edge defs v w) : v.IsNode := by
  cases h with
  | field => exact ⟨_, rfl⟩
  | getter => exact ⟨_, rfl⟩

abbrev Reaches (defs : Definitions) : Value → Value → Prop := Relation.ReflTransGen (Edge defs)

/-- Some walk from a value passes through this many fields and getters. A getter that is called counts
also where it raises. -/
inductive Walk (defs : Definitions) : Value → Nat → Prop
  | start (v : Value) : Walk defs v 0
  | step {v w : Value} {n : Nat} (edge : Edge defs v w) (rest : Walk defs w n) : Walk defs v (n + 1)
  | call (i j : Identity) (description : Value) (g : Action) : Walk defs (.node (.mk i description (.lazy j g))) 1

/-- No walk from `v` is longer than `bound`. -/
def WalksWithin (defs : Definitions) (bound : Nat) (v : Value) : Prop := ∀ n, Walk defs v n → n ≤ bound

/-- No node that is reached from `v` comes back to itself. -/
def Acyclic (defs : Definitions) (v : Value) : Prop :=
  ∀ d e, Reaches defs v (.node d) → Relation.TransGen (Edge defs) (.node d) (.node e) → d.identity ≠ e.identity

theorem WalksWithin.step {defs : Definitions} {bound : Nat} {v w : Value} (h : WalksWithin defs bound v)
    (edge : Edge defs v w) : ∃ less, bound = less + 1 ∧ WalksWithin defs less w := by
  have hpos : 1 ≤ bound := h 1 (.step edge (.start w))
  refine ⟨bound - 1, by omega, fun n hn => ?_⟩
  have := h (n + 1) (.step edge hn)
  omega

theorem WalksWithin.mono {defs : Definitions} {bound bound' : Nat} {v : Value} (h : WalksWithin defs bound v)
    (hle : bound ≤ bound') : WalksWithin defs bound' v := fun n hn => (h n hn).trans hle

theorem WalksWithin.below {defs : Definitions} {bound : Nat} {v w : Value} (h : WalksWithin defs bound v)
    (hw : Reaches defs v w) : WalksWithin defs bound w := by
  induction hw with
  | refl => exact h
  | tail _ hedge ih =>
    obtain ⟨less, rfl, hless⟩ := ih.step hedge
    exact hless.mono (by omega)

def Value.IsText (v : Value) : Prop := ∃ t, v = .text t

def Value.IsFunction (v : Value) : Prop := ∃ i action, v = .callable i action

/-- A length of an array is null or an integer. -/
def Value.IsLength (v : Value) : Prop := v = .null ∨ ∃ n, v = .int n

/-- Every field of a body has its declared type, children apart. -/
def Body.Typed : Body → Prop
  | .array _ low high exact => low.IsLength ∧ high.IsLength ∧ exact.IsLength
  | .object properties => ∀ entry ∈ properties, entry.1.IsText ∧ entry.2.IsNode
  | .tuple _ rest => rest = .null ∨ rest.IsNode
  | .modified (.default _ factory) _ => factory = .null ∨ factory.IsFunction
  | .modified (.effect function _) _ => function = .null ∨ function.IsFunction
  | _ => True

def Descriptor.Typed (d : Descriptor) : Prop := (d.description = .null ∨ d.description.IsText) ∧ d.body.Typed

/-- Every node that is reached from `v` has fields of their declared types. -/
def WellTyped (defs : Definitions) (v : Value) : Prop := ∀ d, Reaches defs v (.node d) → d.Typed

/-- The graph below `v` stays as it is: an identity belongs to one node, and a getter that is called again
has the same outcome. -/
structure Fixed (defs : Definitions) (v : Value) : Prop where
  faithful : ∀ d e, Reaches defs v (.node d) → Reaches defs v (.node e) → d.identity = e.identity → d = e
  steady : ∀ i j description g, Reaches defs v (.node (.mk i description (.lazy j g))) →
    ∀ copy copy', g.call defs copy = g.call defs copy'

/-- The identities of the nodes that are reached from `v`. -/
def identities (defs : Definitions) (v : Value) : Set Identity := {i | ∃ d, Reaches defs v (.node d) ∧ d.identity = i}

/-- The number of distinct nodes that are reached from `v`. -/
noncomputable def nodeCount (defs : Definitions) (v : Value) : ℕ∞ := (identities defs v).encard

theorem card_le_of_subset_identities {defs : Definitions} {v : Value} {n : Nat} (hn : nodeCount defs v = n)
    {nodes : Finset Identity} (hsub : ∀ i ∈ nodes, i ∈ identities defs v) : nodes.card ≤ n := by
  have hcard : ((nodes.card : Nat) : ℕ∞) ≤ nodeCount defs v := by
    rw [← Set.encard_coe_eq_coe_finsetCard]
    exact Set.encard_le_encard hsub
  rw [hn] at hcard
  exact_mod_cast hcard

theorem Fixed.below {defs : Definitions} {v w : Value} (h : Fixed defs v) (hw : Reaches defs v w) : Fixed defs w where
  faithful d e hd he := h.faithful d e (hw.trans hd) (hw.trans he)
  steady i j description g hg := h.steady i j description g (hw.trans hg)

theorem wellTyped_node {defs : Definitions} {d : Descriptor} (h : d.Typed)
    (hbelow : ∀ w, Edge defs (.node d) w → WellTyped defs w) : WellTyped defs (.node d) := by
  intro e he
  rcases Relation.ReflTransGen.cases_head he with heq | ⟨w, hedge, hw⟩
  · obtain rfl := Value.node.inj heq
    exact h
  · exact hbelow w hedge e hw

theorem WellTyped.below {defs : Definitions} {v w : Value} (h : WellTyped defs v) (hw : Reaches defs v w) :
    WellTyped defs w := fun d hd => h d (hw.trans hd)

def listItem : Descriptor := .mk ⟨0, [0], 0⟩ .null (.string [])

def listLink : Descriptor := .mk ⟨0, [0, 1], 0⟩ .null (.lazy ⟨0, [1, 1], 0⟩ (.shares 0))

def listRest : Descriptor := .mk ⟨0, [1], 0⟩ .null (.modified .optional listLink)

def linkedList : Descriptor := .mk ⟨0, [], 0⟩ .null (.tuple [listItem, listRest] .null)

def listDefinitions : Definitions := [.ok (.node linkedList)]

def listNodes : List Descriptor := [linkedList, listItem, listRest, listLink]

theorem mem_listNodes_of_edge {d : Descriptor} {w : Value} (hd : d ∈ listNodes) (h : Edge listDefinitions (.node d) w) :
    ∃ e ∈ listNodes, w = .node e := by
  simp only [listNodes, List.mem_cons, List.not_mem_nil, or_false] at hd
  rcases hd with rfl | rfl | rfl | rfl
  · cases h with
    | field child =>
      rcases List.mem_pair.mp child with rfl | rfl
      · exact ⟨listItem, by simp [listNodes], rfl⟩
      · exact ⟨listRest, by simp [listNodes], rfl⟩
  · cases h with
    | field child => cases child
  · cases h with
    | field child =>
      obtain rfl := List.mem_singleton.mp child
      exact ⟨listLink, by simp [listNodes], rfl⟩
  · cases h with
    | field child => cases child
    | getter call =>
      obtain rfl := Except.ok.inj call
      exact ⟨linkedList, by simp [listNodes], rfl⟩

theorem mem_listNodes_of_reaches {v : Value} (h : Reaches listDefinitions (.node listRest) v) :
    ∃ d ∈ listNodes, v = .node d := by
  induction h with
  | refl => exact ⟨listRest, by simp [listNodes], rfl⟩
  | tail _ hedge ih =>
    obtain ⟨d, hd, rfl⟩ := ih
    exact mem_listNodes_of_edge hd hedge

theorem reaches_of_mem_listNodes {d : Descriptor} (hd : d ∈ listNodes) :
    Reaches listDefinitions (.node listRest) (.node d) := by
  have hlink : Reaches listDefinitions (.node listRest) (.node listLink) := .single (.field (List.mem_singleton_self _))
  have hcall : (Action.shares 0).call listDefinitions 0 = .ok (.node linkedList) := rfl
  have hlist : Reaches listDefinitions (.node listRest) (.node linkedList) := hlink.tail (.getter hcall)
  simp only [listNodes, List.mem_cons, List.not_mem_nil, or_false] at hd
  rcases hd with rfl | rfl | rfl | rfl
  · exact hlist
  · exact hlist.tail (.field List.mem_cons_self)
  · exact .refl
  · exact hlink

theorem wellTyped_listRest : WellTyped listDefinitions (.node listRest) := by
  intro d hd
  obtain ⟨e, he, heq⟩ := mem_listNodes_of_reaches hd
  obtain rfl := Value.node.inj heq
  simp only [listNodes, List.mem_cons, List.not_mem_nil, or_false] at he
  rcases he with rfl | rfl | rfl | rfl
  · exact ⟨.inl rfl, .inl rfl⟩
  · exact ⟨.inl rfl, trivial⟩
  · exact ⟨.inl rfl, trivial⟩
  · exact ⟨.inl rfl, trivial⟩

theorem fixed_listRest : Fixed listDefinitions (.node listRest) where
  faithful d e hd he hid := by
    obtain ⟨d, hd, heq⟩ := mem_listNodes_of_reaches hd
    obtain rfl := Value.node.inj heq
    obtain ⟨e, he, heq⟩ := mem_listNodes_of_reaches he
    obtain rfl := Value.node.inj heq
    simp only [listNodes, List.mem_cons, List.not_mem_nil, or_false] at hd he
    rcases hd with rfl | rfl | rfl | rfl <;> rcases he with rfl | rfl | rfl | rfl <;> first | rfl | cases hid
  steady i j description g hg copy copy' := by
    obtain ⟨d, hd, heq⟩ := mem_listNodes_of_reaches hg
    simp only [listNodes, List.mem_cons, List.not_mem_nil, or_false] at hd
    rcases hd with rfl | rfl | rfl | rfl <;> cases heq
    rfl

theorem nodeCount_listRest : nodeCount listDefinitions (.node listRest) = (4 : Nat) := by
  have hids : identities listDefinitions (.node listRest) =
      ((listNodes.map Descriptor.identity).toFinset : Set Identity) := by
    ext i
    simp only [List.coe_toFinset, Set.mem_ofPred_eq, List.mem_map]
    constructor
    · rintro ⟨d, hd, rfl⟩
      obtain ⟨e, he, heq⟩ := mem_listNodes_of_reaches hd
      exact ⟨e, he, by rw [Value.node.inj heq]⟩
    · rintro ⟨d, hd, rfl⟩
      exact ⟨d, reaches_of_mem_listNodes hd, rfl⟩
  rw [nodeCount, hids, Set.encard_coe_eq_coe_finsetCard]
  rfl

end Schematic
