import Mathlib.Data.List.Forall2
import Schematic.Proofs.Graph
import Schematic.Schema.Capability
import Schematic.Schema.Signature

namespace Schematic

inductive Modifier.Like : Modifier → Modifier → Prop
  | optional : Like .optional .optional
  | nullable : Like .nullable .nullable
  | default (value factory value' factory' : Value) : Like (.default value factory) (.default value' factory')
  | readonly : Like .readonly .readonly
  | catching (value value' : Value) : Like (.catching value) (.catching value')
  | effect (function function' : Value) (kind kind' : EffectKind) : Like (.effect function kind) (.effect function' kind')
  | branded (name name' : Text) : Like (.branded name) (.branded name')

theorem Modifier.Like.refl (m : Modifier) : Modifier.Like m m := by
  cases m <;> constructor

/-- Bodies of one kind that show the same data and whose children are related by `R`. -/
inductive Body.Like (R : Value → Value → Prop) : Body → Body → Prop
  | string (checks : List TextCheck) : Like R (.string checks) (.string checks)
  | number (checks : List NumberCheck) : Like R (.number checks) (.number checks)
  | primitive (p : Primitive) : Like R (.primitive p) (.primitive p)
  | array {element element' : Descriptor} {low high exact low' high' exact' : Value}
      (lines : arrayLines low high exact = arrayLines low' high' exact') (child : R (.node element) (.node element')) :
      Like R (.array element low high exact) (.array element' low' high' exact')
  | object {properties properties' : List (Value × Value)}
      (children : List.Forall₂ (fun p p' => p.1 = p'.1 ∧ R p.2 p'.2) properties properties') :
      Like R (.object properties) (.object properties')
  | enum (options : List Text) : Like R (.enum options) (.enum options)
  | union {options options' : List Descriptor}
      (children : List.Forall₂ (fun o o' => R (.node o) (.node o')) options options') :
      Like R (.union options) (.union options')
  | intersection {left right left' right' : Descriptor} (first : R (.node left) (.node left'))
      (second : R (.node right) (.node right')) : Like R (.intersection left right) (.intersection left' right')
  | record {key value key' value' : Descriptor} (first : R (.node key) (.node key'))
      (second : R (.node value) (.node value')) : Like R (.record key value) (.record key' value')
  | closedTuple {items items' : List Descriptor}
      (children : List.Forall₂ (fun o o' => R (.node o) (.node o')) items items') :
      Like R (.tuple items .null) (.tuple items' .null)
  | openTuple {items items' : List Descriptor} {rest rest' : Value}
      (children : List.Forall₂ (fun o o' => R (.node o) (.node o')) items items') (hrest : rest ≠ .null)
      (hrest' : rest' ≠ .null) (last : R rest rest') : Like R (.tuple items rest) (.tuple items' rest')
  | literal {value value' : Value} (token : value.token = value'.token)
      (granted : ∀ c : Capability, c.ofLiteral value = c.ofLiteral value') : Like R (.literal value) (.literal value')
  | promise {inner inner' : Descriptor} (child : R (.node inner) (.node inner')) :
      Like R (.promise inner) (.promise inner')
  | modified {m m' : Modifier} {inner inner' : Descriptor} (modifier : Modifier.Like m m')
      (child : R (.node inner) (.node inner')) : Like R (.modified m inner) (.modified m' inner')
  | lazy (i i' : Identity) (getter getter' : Action) : Like R (.lazy i getter) (.lazy i' getter')

theorem Body.Like.refl {R : Value → Value → Prop} {b : Body} (h : ∀ w ∈ b.children, R w w) : Body.Like R b b := by
  cases b with
  | array element low high exact => exact .array rfl (h _ List.mem_cons_self)
  | object properties =>
    exact .object (List.forall₂_same.mpr fun p hp => ⟨rfl, h _ (List.mem_map_of_mem hp)⟩)
  | union options => exact .union (List.forall₂_same.mpr fun o ho => h _ (List.mem_map_of_mem ho))
  | intersection left right => exact .intersection (h _ List.mem_cons_self) (h _ (by simp [Body.children]))
  | record key value => exact .record (h _ List.mem_cons_self) (h _ (by simp [Body.children]))
  | tuple items rest =>
    have hitems : List.Forall₂ (fun o o' => R (.node o) (.node o')) items items :=
      List.forall₂_same.mpr fun o ho => h _ (Body.mem_children_tuple.mpr (.inl ⟨o, ho, rfl⟩))
    by_cases hrest : rest = .null
    · subst hrest
      exact .closedTuple hitems
    · exact .openTuple hitems hrest hrest (h _ (Body.mem_children_tuple.mpr (.inr ⟨rfl, hrest⟩)))
  | promise inner => exact .promise (h _ List.mem_cons_self)
  | modified m inner => exact .modified (.refl m) (h _ List.mem_cons_self)
  | literal value => exact .literal rfl fun _ => rfl
  | _ => constructor

/-- Two nodes with bodies that are alike, or two values that are no nodes. -/
inductive Value.Like (R : Value → Value → Prop) : Value → Value → Prop
  | node {d e : Descriptor} (body : Body.Like R d.body e.body) : Like R (.node d) (.node e)
  | other {v w : Value} (hv : ¬ v.IsNode) (hw : ¬ w.IsNode) : Like R v w

theorem forall₂_mem {α β : Type} {P : α → β → Prop} {xs : List α} {ys : List β} (h : List.Forall₂ P xs ys) :
    List.Forall₂ (fun a b => P a b ∧ a ∈ xs ∧ b ∈ ys) xs ys := by
  induction h with
  | nil => exact .nil
  | cons hab _ ih =>
    refine .cons ⟨hab, List.mem_cons_self, List.mem_cons_self⟩ (ih.imp ?_)
    rintro a b ⟨h, ha, hb⟩
    exact ⟨h, List.mem_cons_of_mem _ ha, List.mem_cons_of_mem _ hb⟩

theorem Body.Like.imp {R S : Value → Value → Prop} {b b' : Body} (h : Body.Like R b b')
    (hS : ∀ w w', w ∈ b.children → w' ∈ b'.children → R w w' → S w w') : Body.Like S b b' := by
  cases h with
  | array lines hc => exact .array lines (hS _ _ List.mem_cons_self List.mem_cons_self hc)
  | object hcs =>
    refine .object ((forall₂_mem hcs).imp fun p p' hp => ⟨hp.1.1, ?_⟩)
    exact hS _ _ (List.mem_map_of_mem hp.2.1) (List.mem_map_of_mem hp.2.2) hp.1.2
  | union hcs =>
    exact .union ((forall₂_mem hcs).imp fun o o' ho =>
      hS _ _ (List.mem_map_of_mem ho.2.1) (List.mem_map_of_mem ho.2.2) ho.1)
  | intersection h₁ h₂ =>
    exact .intersection (hS _ _ List.mem_cons_self List.mem_cons_self h₁)
      (hS _ _ (by simp [Body.children]) (by simp [Body.children]) h₂)
  | record h₁ h₂ =>
    exact .record (hS _ _ List.mem_cons_self List.mem_cons_self h₁)
      (hS _ _ (by simp [Body.children]) (by simp [Body.children]) h₂)
  | closedTuple hcs =>
    exact .closedTuple ((forall₂_mem hcs).imp fun o o' ho =>
      hS _ _ (List.mem_map_of_mem ho.2.1) (List.mem_map_of_mem ho.2.2) ho.1)
  | openTuple hcs hrest hrest' hlast =>
    have hitem : ∀ {ds rest o}, o ∈ ds → Value.node o ∈ (Body.tuple ds rest).children :=
      fun ho => Body.mem_children_tuple.mpr (.inl ⟨_, ho, rfl⟩)
    refine .openTuple ((forall₂_mem hcs).imp fun o o' ho => hS _ _ (hitem ho.2.1) (hitem ho.2.2) ho.1) hrest hrest' ?_
    exact hS _ _ (Body.mem_children_tuple.mpr (.inr ⟨rfl, hrest⟩)) (Body.mem_children_tuple.mpr (.inr ⟨rfl, hrest'⟩)) hlast
  | promise hc => exact .promise (hS _ _ List.mem_cons_self List.mem_cons_self hc)
  | modified hm hc => exact .modified hm (hS _ _ List.mem_cons_self List.mem_cons_self hc)
  | literal token granted => exact .literal token granted
  | _ => constructor

theorem Value.Like.restrict {R : Value → Value → Prop} (defs defs' : Definitions) {v v' : Value} (h : Value.Like R v v') :
    Value.Like (fun w w' => R w w' ∧ Edge defs v w ∧ Edge defs' v' w') v v' := by
  cases h with
  | node hbody => exact .node (hbody.imp fun w w' hw hw' hr => ⟨hr, .field hw, .field hw'⟩)
  | other hv hw => exact .other hv hw

/-- A value is like itself if its children are related to themselves. -/
theorem Value.Like.refl {R : Value → Value → Prop} (defs : Definitions) {v : Value} (h : ∀ w, Edge defs v w → R w w) :
    Value.Like R v v := by
  by_cases hv : v.IsNode
  · obtain ⟨d, rfl⟩ := hv
    exact .node (.refl fun w hw => h w (.field hw))
  · exact .other hv hv

mutual

def Value.fullSignature : Value → Text
  | .null => "unknown"
  | .node d => d.fullSignature
  | v => v.fallbackName

def Descriptor.fullSignature : Descriptor → Text
  | .mk _ _ (.array element _ _ _) => element.fullSignature ++ "[]"
  | .mk _ _ (.union options) => Text.join " | " (fullSignatures options)
  | .mk _ _ (.intersection left right) => left.fullSignature ++ " & " ++ right.fullSignature
  | .mk _ _ (.record key value) => "Record<" ++ key.fullSignature ++ ", " ++ value.fullSignature ++ ">"
  | .mk _ _ (.tuple items .null) => "[" ++ tuplePositions (fullSignatures items) none ++ "]"
  | .mk _ _ (.tuple items rest) => "[" ++ tuplePositions (fullSignatures items) (some rest.fullSignature) ++ "]"
  | .mk _ _ (.promise inner) => "Promise<" ++ inner.fullSignature ++ ">"
  | .mk _ _ (.modified .optional inner) => inner.fullSignature ++ "?"
  | .mk _ _ (.modified .nullable inner) => inner.fullSignature ++ " | null"
  | .mk _ _ (.modified (.default _ _) inner) => inner.fullSignature
  | d => d.signatureWith fun _ => []

def fullSignatures : List Descriptor → List Text
  | [] => []
  | d :: ds => d.fullSignature :: fullSignatures ds

end

section Signature

variable {R : Value → Value → Prop} {child child' : Value → Text}

theorem map_eq_map_of_forall₂ {α β γ : Type} {P : α → β → Prop} {f : α → γ} {g : β → γ} {xs : List α} {ys : List β}
    (h : List.Forall₂ P xs ys) (hP : ∀ a b, P a b → f a = g b) : xs.map f = ys.map g := by
  rw [← List.forall₂_eq_eq_eq]
  exact List.rel_map hP h

/-- Nodes that are alike have the same signature if their children have. -/
theorem signatureWith_of_like {d e : Descriptor} (h : Body.Like R d.body e.body)
    (hchild : ∀ w w', R w w' → child w = child' w') : d.signatureWith child = e.signatureWith child' := by
  obtain ⟨i, description, body⟩ := d
  obtain ⟨i', description', body'⟩ := e
  simp only [Descriptor.body] at h
  have hmap : ∀ {ds es : List Descriptor}, List.Forall₂ (fun o o' => R (.node o) (.node o')) ds es →
      ds.map (fun o => child (.node o)) = es.map (fun o => child' (.node o)) :=
    fun hds => map_eq_map_of_forall₂ hds fun o o' ho => hchild _ _ ho
  cases h with
  | array _ hc => simp only [Descriptor.signatureWith, Descriptor.body, hchild _ _ hc]
  | union hcs => simp only [Descriptor.signatureWith, Descriptor.body, hmap hcs]
  | intersection h₁ h₂ => simp only [Descriptor.signatureWith, Descriptor.body, hchild _ _ h₁, hchild _ _ h₂]
  | record h₁ h₂ => simp only [Descriptor.signatureWith, Descriptor.body, hchild _ _ h₁, hchild _ _ h₂]
  | closedTuple hcs => simp only [Descriptor.signatureWith, Descriptor.body, hmap hcs]
  | @openTuple _ _ rest rest' hcs hrest hrest' hlast =>
    simp only [Descriptor.signatureWith, Descriptor.body, hmap hcs, hchild _ _ hlast]
  | literal token => simp only [Descriptor.signatureWith, Descriptor.body, token]
  | promise hc => simp only [Descriptor.signatureWith, Descriptor.body, hchild _ _ hc]
  | modified hm hc => cases hm <;> simp only [Descriptor.signatureWith, Descriptor.body, hchild _ _ hc, Modifier.toKind]
  | _ => rfl

theorem signatureWith_congr {d : Descriptor} (h : ∀ w ∈ d.body.children, child w = child' w) :
    d.signatureWith child = d.signatureWith child' :=
  signatureWith_of_like (R := fun w w' => w = w' ∧ w ∈ d.body.children) (.refl fun _ hw => ⟨rfl, hw⟩)
    fun w _ hw => hw.1 ▸ h w hw.2

theorem fullSignature_node (d : Descriptor) : (Value.node d).fullSignature = d.signatureWith Value.fullSignature := by
  have hmap : ∀ ds : List Descriptor, fullSignatures ds = ds.map fun d => (Value.node d).fullSignature := by
    intro ds
    induction ds with
    | nil => rfl
    | cons d ds ih => rw [fullSignatures, ih, List.map_cons, Value.fullSignature]
  obtain ⟨i, description, body⟩ := d
  rw [Value.fullSignature]
  cases body with
  | union options => simp only [Descriptor.fullSignature, Descriptor.signatureWith, Descriptor.body, hmap]
  | tuple items rest =>
    cases rest <;> simp only [Descriptor.fullSignature, Descriptor.signatureWith, Descriptor.body, hmap]
  | modified m inner =>
    cases m <;> simp only [Descriptor.fullSignature, Descriptor.signatureWith, Descriptor.body, Value.fullSignature]
  | _ => simp only [Descriptor.fullSignature, Descriptor.signatureWith, Descriptor.body, Value.fullSignature]

theorem signatureIn_node (marker : Text) (levels : Nat) (d : Descriptor) :
    (Value.node d).signatureIn marker (levels + 1) = d.signatureWith (Value.signatureIn marker levels) := by
  rw [Value.signatureIn]

theorem signatureIn_other (marker : Text) (levels : Nat) {v : Value} (hv : ¬ v.IsNode) :
    v.signatureIn marker (levels + 1) = v.fullSignature := by
  cases v with
  | node d => exact (hv ⟨d, rfl⟩).elim
  | _ => rw [Value.signatureIn, Value.fullSignature] <;> simp

end Signature
end Schematic
