import Schematic.Proofs.Order
import Schematic.Proofs.Stacks

/-! A layer of modifiers answers a question itself or passes it on to what is below it. So a stack has a flag
if one of its layers grants it, in whatever order they stand, and otherwise if its base has it. That the
question about the base fails or never ends takes nothing from what a layer above it grants, and gives nothing
where no layer does. -/
namespace Schematic

/-- Whether a layer of this kind answers with yes, whatever is below it. -/
def Capability.grantedByLayer : Capability → Kind → Bool
  | _, .catching => true
  | optional, .optional | optional, .default => true
  | nullable, .nullable => true
  | _, _ => false

section Layers

variable {c : Capability} {defs : Definitions}

theorem grantedBy_eq_grantedByLayer (c : Capability) (m : Modifier) : c.grantedBy m = c.grantedByLayer m.toKind := by
  cases c <;> cases m <;> rfl

/-- What is built anew has the answer of what it is built from. -/
theorem kind_answer_mapIdentity (f : Identity → Identity) (v : Value) :
    ((v.mapIdentity f).answer c defs).kind = (v.answer c defs).kind := by
  refine Option.ext fun b => ?_
  simp only [kind_answer_eq_some_iff, askWithin_mapIdentity]

/-- A lazy layer has the answer of what its getter gives, whichever call that is from. -/
theorem kind_answer_lazy {g : Action} {copy : Nat} {v : Value} (call : g.call defs copy = .ok v) (i j : Identity)
    (description : Value) :
    ((Value.node (.mk i description (.lazy j g))).answer c defs).kind = (v.answer c defs).kind := by
  rw [kind_answer_eq, askWith]
  cases g with
  | returns w =>
    obtain rfl := Except.ok.inj call
    rfl
  | raises e => cases call
  | shares n =>
    have call' : (Action.shares n).call defs 0 = .ok v := call
    rw [call']
  | rebuilds n =>
    obtain ⟨w, hget, rfl⟩ : ∃ w, defs.get n = .ok w ∧ w.rebuild n copy = v := by
      cases hget : defs.get n with
      | error e => simp [Action.call, hget, Except.map] at call
      | ok w => exact ⟨w, rfl, by simpa [Action.call, hget, Except.map] using call⟩
    simp only [Action.call, hget, Except.map, Value.rebuild, kind_answer_mapIdentity]

theorem can_lazy {g : Action} {copy : Nat} {v : Value} (call : g.call defs copy = .ok v) (i j : Identity)
    (description : Value) : (Value.node (.mk i description (.lazy j g))).can c defs = v.can c defs := by
  rw [Value.can, Value.can, Answer.isYes_eq, Answer.isYes_eq, kind_answer_lazy call]

theorem can_wrapper (i : Identity) (description : Value) (m : Modifier) (inner : Descriptor) :
    (Value.node (.mk i description (.modified m inner))).can c defs =
      (c.grantedByLayer m.toKind || (Value.node inner).can c defs) := by
  rw [Value.can, Value.can, Answer.isYes_eq, Answer.isYes_eq, kind_answer_eq, askWith, grantedBy_eq_grantedByLayer]
  cases c.grantedByLayer m.toKind <;> rfl

/-- By induction on the layers: each adds what it grants to what is below it. -/
theorem Stack.can_eq {copy : Nat} {kinds : List Kind} {top base : Value} (h : Stack defs copy kinds top base) :
    top.can c defs = (kinds.any c.grantedByLayer || base.can c defs) := by
  induction h with
  | base => rfl
  | wrapper _ ih => rw [can_wrapper, ih, List.any_cons, Bool.or_assoc]
  | @lazy _ kinds _ _ _ _ _ _ call _ ih =>
    have hlazy : c.grantedByLayer .lazy = false := by cases c <;> rfl
    rw [can_lazy call, ih, List.any_cons, hlazy, Bool.false_or]

end Layers

/-- A stack of modifiers may be left out if and only if its base may be or one of its layers is an optional, a default
or a catch, and it may be null if and only if its base may be or one of its layers is a nullable or a catch. So another
stack with the same layers in another order, above a base with the same flags, has the same flags. The base is any
value; a question about it that fails or never ends counts as a no. -/
theorem summary_flags_of_stack {defs : Definitions} {copy : Nat} {kinds : List Kind} {top base : Value}
    (h : Stack defs copy kinds top base) :
    ((top.summary defs).optional = true ↔
      (base.summary defs).optional = true ∨ ∃ k ∈ kinds, k ∈ [Kind.optional, .default, .catching]) ∧
    ((top.summary defs).nullable = true ↔
      (base.summary defs).nullable = true ∨ ∃ k ∈ kinds, k ∈ [Kind.nullable, .catching]) ∧
    ∀ (defs' : Definitions) (copy' : Nat) (kinds' : List Kind) (top' base' : Value),
      Stack defs' copy' kinds' top' base' → kinds'.Perm kinds →
      ∀ c, (base'.summary defs').flag c = (base.summary defs).flag c →
        (top'.summary defs').flag c = (top.summary defs).flag c := by
  have hoptional : ∀ k : Kind,
      Capability.optional.grantedByLayer k = true ↔ k ∈ [Kind.optional, .default, .catching] := by
    intro k
    cases k <;> simp [Capability.grantedByLayer]
  have hnullable : ∀ k : Kind, Capability.nullable.grantedByLayer k = true ↔ k ∈ [Kind.nullable, .catching] := by
    intro k
    cases k <;> simp [Capability.grantedByLayer]
  refine ⟨?_, ?_, fun defs' copy' kinds' top' base' h' hperm c hbase => ?_⟩
  · change top.can .optional defs = true ↔ base.can .optional defs = true ∨ _
    simp only [h.can_eq, Bool.or_eq_true, List.any_eq_true, hoptional, or_comm]
  · change top.can .nullable defs = true ↔ base.can .nullable defs = true ∨ _
    simp only [h.can_eq, Bool.or_eq_true, List.any_eq_true, hnullable, or_comm]
  · rw [flag_summary, flag_summary] at hbase ⊢
    rw [h.can_eq, h'.can_eq, hperm.any_eq, hbase]

/-- A lazy node that comes back to itself: a question about it never ends. -/
def endless : Descriptor := .mk ⟨0, [], 0⟩ .null (.lazy ⟨0, [1], 0⟩ (.shares 0))

def endlessDefinitions : Definitions := [.ok (.node endless)]

/-- Above the endless node, a nullable, a brand and a lazy layer. -/
def nullableEndless : Descriptor :=
  .mk ⟨1, [], 0⟩ .null (.modified .nullable (.mk ⟨1, [0], 0⟩ .null (.modified (.branded "id")
    (.mk ⟨1, [0, 0], 0⟩ .null (.lazy ⟨1, [1, 0, 0], 0⟩ (.shares 0))))))

def brandedEndless : Descriptor :=
  .mk ⟨2, [], 0⟩ .null (.modified (.branded "id") (.mk ⟨2, [0], 0⟩ .null (.lazy ⟨2, [1, 0], 0⟩ (.returns
    (.node (.mk ⟨2, [2, 0], 0⟩ .null (.modified .nullable endless)))))))

theorem summary_flags_nullableEndless :
    ((Value.node endless).summary endlessDefinitions).nullable = false ∧
    ((Value.node nullableEndless).summary endlessDefinitions).nullable = true ∧
    ((Value.node nullableEndless).summary endlessDefinitions).optional = false ∧
    ((Value.node brandedEndless).summary endlessDefinitions).nullable = true := by
  have hstack : Stack endlessDefinitions 1 [.nullable, .branded, .lazy] (.node nullableEndless) (.node endless) :=
    .wrapper (m := .nullable) (.wrapper (m := .branded _) (.lazy rfl (.base _ _)))
  have hswapped : Stack endlessDefinitions 1 [.branded, .lazy, .nullable] (.node brandedEndless) (.node endless) :=
    .wrapper (m := .branded _) (.lazy rfl (.wrapper (m := .nullable) (.base _ _)))
  have hperm : [Kind.branded, .lazy, .nullable].Perm [.nullable, .branded, .lazy] := by decide
  obtain ⟨hoptional, hnullable, hflag⟩ := summary_flags_of_stack hstack
  have hnull : ((Value.node nullableEndless).summary endlessDefinitions).nullable = true :=
    hnullable.mpr (.inr ⟨.nullable, by decide, by decide⟩)
  have hnone : ¬ ((Value.node nullableEndless).summary endlessDefinitions).optional = true := by
    rw [hoptional]
    exact by decide
  exact ⟨rfl, hnull, Bool.eq_false_iff.mpr hnone, (hflag _ 1 _ _ _ hswapped hperm .nullable rfl).trans hnull⟩

end Schematic
