import Schematic.Markdown.Renderer
import Schematic.Proofs.Cutting
import Schematic.Proofs.Descent

/-! A value under modifiers has a signature of its own, and one that is reached by unwrapping. They differ
only by what the optional and nullable layers add, as long as no other layer hides what is below it. A layer
that does hide it is all that is seen of the value, so the two traversals go apart at the first such layer. -/
namespace Schematic

/-- The kinds of the modifiers on the way from a value down to `base`, the outermost first. A lazy layer stands above
what its getter gives. -/
inductive Stack (defs : Definitions) : (copy : Nat) → List Kind → (top base : Value) → Prop
  | base (copy : Nat) (v : Value) : Stack defs copy [] v v
  | wrapper {copy : Nat} {kinds : List Kind} {i : Identity} {description base : Value} {m : Modifier} {inner : Descriptor}
      (below : Stack defs copy kinds (.node inner) base) :
      Stack defs copy (m.toKind :: kinds) (.node (.mk i description (.modified m inner))) base
  | lazy {copy : Nat} {kinds : List Kind} {i j : Identity} {description v base : Value} {g : Action}
      (call : g.call defs copy = .ok v) (below : Stack defs (copy + 1) kinds v base) :
      Stack defs copy (.lazy :: kinds) (.node (.mk i description (.lazy j g))) base

/-- What a layer adds to the signature of what is below it; none for a layer that hides it. -/
def Kind.suffix? : Kind → Option Text
  | optional => some "?"
  | nullable => some " | null"
  | default => some []
  | _ => none

/-- What layers add to a signature, the innermost first. -/
def suffixes (kinds : List Kind) : Text := (kinds.reverse.filterMap Kind.suffix?).flatten

theorem suffixes_cons {k : Kind} {suffix : Text} (h : k.suffix? = some suffix) (kinds : List Kind) :
    suffixes (k :: kinds) = suffixes kinds ++ suffix := by
  simp [suffixes, h]

namespace Stack

variable {defs : Definitions} {copy : Nat} {kinds : List Kind} {top base : Value}

theorem exists_of_append {outer inner : List Kind} (h : Stack defs copy (outer ++ inner) top base) :
    ∃ copy' v, Stack defs copy outer top v ∧ Stack defs copy' inner v base := by
  induction outer generalizing copy top with
  | nil => exact ⟨copy, top, .base copy top, h⟩
  | cons k outer ih =>
    cases h with
    | wrapper below =>
      obtain ⟨copy', v, hupper, hlower⟩ := ih below
      exact ⟨copy', v, .wrapper hupper, hlower⟩
    | lazy call below =>
      obtain ⟨copy', v, hupper, hlower⟩ := ih below
      exact ⟨copy', v, .lazy call hupper, hlower⟩

/-- A stack is a way down that passes through its lazy layers. -/
theorem leads (h : Stack defs copy kinds top base) : Leads defs copy top (kinds.count .lazy) base := by
  induction h with
  | base copy v => exact .here copy v
  | @wrapper copy kinds i description base m inner _ ih =>
    have hcount : (m.toKind :: kinds).count .lazy = kinds.count .lazy := by
      cases m <;> exact List.count_cons_of_ne Kind.noConfusion
    rw [hcount]
    exact .wrapper ih
  | lazy call _ ih =>
    rw [List.count_cons_self]
    exact .resolved call ih

/-- Under a limit that is not less than its height, a stack unwraps to its base. -/
theorem unwrap_eq (h : Stack defs copy kinds top base) (hbase : base.isModifier = false) {limit : Int}
    (hlimit : (kinds.length : Int) ≤ limit) :
    top.unwrap defs limit copy = .ok (base, copy + kinds.count .lazy) := by
  have hcount := List.count_le_length (a := Kind.lazy) (l := kinds)
  exact (WalkEnds.arrives h.leads (by omega) hbase).eq_unwrap

/-- A layer shows what is below it with its suffix, or its tag alone. -/
theorem signatureIn_wrapper (marker : Text) (levels : Nat) (i : Identity) (description : Value) (m : Modifier)
    (inner : Descriptor) :
    (Value.node (.mk i description (.modified m inner))).signatureIn marker (levels + 1) =
      match m.toKind.suffix? with
      | some suffix => (Value.node inner).signatureIn marker levels ++ suffix
      | none => m.toKind.tag := by
  rw [signatureIn_node]
  cases m with
  | default => exact (List.append_nil _).symm
  | _ => rfl

/-- Layers that hide nothing add their suffixes to the signature of the base, which they move down as many levels. -/
theorem signatureIn_eq_append (h : Stack defs copy kinds top base) (hshown : ∀ k ∈ kinds, k.suffix?.isSome)
    (marker : Text) (levels : Nat) :
    top.signatureIn marker (levels + kinds.length) = base.signatureIn marker levels ++ suffixes kinds := by
  induction h with
  | base => exact (List.append_nil _).symm
  | @wrapper _ kinds _ _ _ m _ _ ih =>
    obtain ⟨hm, hkinds⟩ := List.forall_mem_cons.mp hshown
    obtain ⟨suffix, hsuffix⟩ := Option.isSome_iff_exists.mp hm
    rw [List.length_cons, ← Nat.add_assoc, signatureIn_wrapper, hsuffix, suffixes_cons hsuffix, ← List.append_assoc,
      ← ih hkinds]
  | lazy => exact absurd (hshown _ List.mem_cons_self) (by decide)

/-- The signature of a stack ends at its first layer that hides what is below. -/
theorem signatureIn_eq_tag {outer inner : List Kind} {k : Kind} (h : Stack defs copy (outer ++ k :: inner) top base)
    (houter : ∀ k ∈ outer, k.suffix?.isSome) (hk : k.suffix? = none) (marker : Text) (levels : Nat) :
    top.signatureIn marker (levels + 1 + outer.length) = k.tag ++ suffixes outer := by
  obtain ⟨copy', v, hupper, hlower⟩ := exists_of_append h
  have hv : v.signatureIn marker (levels + 1) = k.tag := by
    cases hlower with
    | wrapper => rw [signatureIn_wrapper, hk]
    | lazy => exact signatureIn_node _ _ _
  rw [hupper.signatureIn_eq_append houter, hv]

end Stack

/-- Signatures and unwrapping agree on a stack of modifiers. Its row in a table shows the signature of the base. With
optional, nullable and default layers alone, its own signature is the same followed by the suffixes of the layers;
otherwise it is the tag of the first other layer, followed by the suffixes of the layers around that one. -/
theorem signature_of_stack {defs : Definitions} {copy : Nat} {kinds : List Kind} {top base : Value}
    (h : Stack defs copy kinds top base) (hbase : base.isModifier = false) {config : Config}
    (hdepth : (kinds.length + base.outline.height : Int) ≤ config.maxDepth) :
    rowType defs config copy top = config.signature base ∧
    ((∀ k ∈ kinds, k ∈ [Kind.optional, .nullable, .default]) →
      config.signature top = rowType defs config copy top ++ suffixes kinds) ∧
    (∀ outer k inner, kinds = outer ++ k :: inner → (∀ k ∈ outer, k ∈ [Kind.optional, .nullable, .default]) →
      k ∈ [Kind.readonly, .catching, .effect, .branded, .lazy] → config.signature top = k.tag ++ suffixes outer) := by
  have hshown : ∀ k ∈ [Kind.optional, .nullable, .default], k.suffix?.isSome := by decide
  have hhidden : ∀ k ∈ [Kind.readonly, .catching, .effect, .branded, .lazy], k.suffix? = none := by decide
  have hrow : rowType defs config copy top = config.signature base := by
    rw [rowType, h.unwrap_eq hbase (by omega)]
  obtain ⟨m, hm⟩ : ∃ m : Nat, config.maxDepth = m := ⟨config.maxDepth.toNat, by omega⟩
  have htop : config.signature top = top.signatureIn config.depthMarker (m + 1) := by
    rw [Config.signature, Value.signature, hm]
    rfl
  refine ⟨hrow, fun hkinds => ?_, ?_⟩
  · -- the base is not cut, whether or not the levels of the stack are left to it
    obtain ⟨levels, hlevels⟩ : ∃ levels, m + 1 = levels + kinds.length := ⟨m + 1 - kinds.length, by omega⟩
    have hbelow : base.signatureIn config.depthMarker levels = base.fullSignature :=
      signatureIn_eq_fullSignature (by omega) _
    have hfull : config.signature base = base.fullSignature := by
      rw [Config.signature, Value.signature]
      exact signatureIn_eq_fullSignature (by rw [Value.levels]; omega) _
    rw [htop, hlevels, h.signatureIn_eq_append fun k hk => hshown k (hkinds k hk), hbelow, hrow, hfull]
  · rintro outer k inner rfl houter hk
    have hlength : (outer ++ k :: inner).length = outer.length + (inner.length + 1) := List.length_append
    obtain ⟨levels, hlevels⟩ : ∃ levels, m + 1 = levels + 1 + outer.length := ⟨m - outer.length, by omega⟩
    rw [htop, hlevels, h.signatureIn_eq_tag (fun k hk => hshown k (houter k hk)) (hhidden k hk)]

def maybeText : Descriptor :=
  .mk ⟨0, [], 0⟩ .null (.modified .nullable
    (.mk ⟨0, [0], 0⟩ .null (.modified (.default (.text "a") .null)
      (.mk ⟨0, [0, 0], 0⟩ .null (.modified .optional (.mk ⟨0, [0, 0, 0], 0⟩ .null (.string [])))))))

/-- A text under three layers that hide nothing, and a list under a lazy node that is optional. -/
theorem signature_maybeText_listRest :
    rowType [] Config.standard 1 (.node maybeText) = "string" ∧
    Config.standard.signature (.node maybeText) = "string? | null" ∧
    rowType listDefinitions Config.standard 1 (.node listRest) = "[string, lazy?]" ∧
    Config.standard.signature (.node listRest) = "lazy?" := by
  have htext : Stack [] 1 [.nullable, .default, .optional] (.node maybeText)
      (.node (.mk ⟨0, [0, 0, 0], 0⟩ .null (.string []))) :=
    .wrapper (m := .nullable) (.wrapper (m := .default _ _) (.wrapper (m := .optional) (.base _ _)))
  have hlist : Stack listDefinitions 1 [.optional, .lazy] (.node listRest) (.node linkedList) :=
    .wrapper (m := .optional) (.lazy rfl (.base _ _))
  have hheight : (3 + 0 : Int) ≤ Config.standard.maxDepth := by decide
  obtain ⟨hrow, hshown, -⟩ := signature_of_stack htext rfl hheight
  have hlistHeight : (2 + 2 : Int) ≤ Config.standard.maxDepth := by decide
  obtain ⟨hlistRow, -, hhidden⟩ := signature_of_stack hlist rfl hlistHeight
  refine ⟨hrow.trans (by decide), (hshown (by decide)).trans ?_, hlistRow.trans (by decide), ?_⟩
  · rw [hrow]
    decide
  · exact (hhidden [.optional] .lazy [] rfl (by decide) (by decide)).trans (by decide)

end Schematic
