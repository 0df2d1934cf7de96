import Schematic.Proofs.Likeness

/-! A signature is the text of an outline: a tree of the values that it goes down to. Going down a limited
number of levels gives the text of the outline in which each part at the first level below is replaced by the
marker. What is above the cut stays as it is, and an outline that does not reach the cut stays whole. -/
namespace Schematic

/-- The values whose signatures are part of the signature of a node. -/
def Descriptor.inSignature (d : Descriptor) : List Value :=
  match d.body with
  | .object _ => []
  | .modified .optional inner | .modified .nullable inner | .modified (.default _ _) inner => [.node inner]
  | .modified _ _ => []
  | body => body.children

/-- Whether a signature of this many levels shows the marker for what lies deeper. -/
def Value.isCutIn : (levels : Nat) → Value → Bool
  | _, .null => false
  | 0, _ => true
  | levels + 1, .node d => d.inSignature.any (isCutIn levels)
  | _ + 1, _ => false

theorem signatureWith_eq_of_inSignature {child child' : Value → Text} {d : Descriptor}
    (h : ∀ w ∈ d.inSignature, child w = child' w) : d.signatureWith child = d.signatureWith child' := by
  by_cases hchildren : d.inSignature = d.body.children
  · exact signatureWith_congr fun w hw => h w (hchildren ▸ hw)
  · obtain ⟨i, description, body⟩ := d
    cases body with
    | object => rfl
    | modified m inner =>
      cases m with
      | optional | nullable | default => exact (hchildren rfl).elim
      | _ => rfl
    | _ => exact (hchildren rfl).elim

/-- A signature that is not cut does not depend on the marker. -/
theorem signatureIn_eq_of_not_cut {levels : Nat} {v : Value} (h : v.isCutIn levels = false) (marker marker' : Text) :
    v.signatureIn marker levels = v.signatureIn marker' levels := by
  induction levels generalizing v with
  | zero =>
    cases v with
    | null => rw [Value.signatureIn, Value.signatureIn]
    | _ => cases h
  | succ levels ih =>
    cases v with
    | null => rw [Value.signatureIn, Value.signatureIn]
    | node d =>
      rw [signatureIn_node, signatureIn_node]
      refine signatureWith_eq_of_inSignature fun w hw => ih ?_
      rw [Value.isCutIn, List.any_eq_false] at h
      simpa using h w hw
    | _ => rw [Value.signatureIn, Value.signatureIn] <;> simp

/-- What a signature is put together from. -/
inductive Outline where
  | leaf (text : Text)
  | suffixed (inner : Outline) (suffix : Text)
  | union (options : List Outline)
  | intersection (left right : Outline)
  | record (key value : Outline)
  | tuple (items : List Outline)
  | openTuple (items : List Outline) (rest : Outline)
  | promise (inner : Outline)

namespace Outline

mutual

def text : Outline → Text
  | leaf t => t
  | suffixed inner suffix => inner.text ++ suffix
  | union options => Text.join " | " (texts options)
  | intersection left right => left.text ++ " & " ++ right.text
  | record key value => "Record<" ++ key.text ++ ", " ++ value.text ++ ">"
  | tuple items => "[" ++ tuplePositions (texts items) none ++ "]"
  | openTuple items rest => "[" ++ tuplePositions (texts items) (some rest.text) ++ "]"
  | promise inner => "Promise<" ++ inner.text ++ ">"

def texts : List Outline → List Text
  | [] => []
  | o :: os => o.text :: texts os

end

mutual

/-- The level of the deepest part; the whole is at level 0. -/
def height : Outline → Nat
  | leaf _ => 0
  | suffixed inner _ => inner.height + 1
  | union options => heights options
  | intersection left right => max (left.height + 1) (right.height + 1)
  | record key value => max (key.height + 1) (value.height + 1)
  | tuple items => heights items
  | openTuple items rest => max (heights items) (rest.height + 1)
  | promise inner => inner.height + 1

def heights : List Outline → Nat
  | [] => 0
  | o :: os => max (o.height + 1) (heights os)

end

def parts : Outline → List Outline
  | leaf _ => []
  | suffixed inner _ => [inner]
  | union options => options
  | intersection left right => [left, right]
  | record key value => [key, value]
  | tuple items => items
  | openTuple items rest => items ++ [rest]
  | promise inner => [inner]

def mapParts (f : Outline → Outline) : Outline → Outline
  | leaf t => leaf t
  | suffixed inner suffix => suffixed (f inner) suffix
  | union options => union (options.map f)
  | intersection left right => intersection (f left) (f right)
  | record key value => record (f key) (f value)
  | tuple items => tuple (items.map f)
  | openTuple items rest => openTuple (items.map f) (f rest)
  | promise inner => promise (f inner)

/-- The outline in which each part at a level is replaced by a leaf that shows the marker. -/
def cutAt (marker : Text) : (level : Nat) → Outline → Outline
  | 0, _ => leaf marker
  | level + 1, o => o.mapParts (cutAt marker level)

theorem texts_eq (os : List Outline) : texts os = os.map text := by
  induction os with
  | nil => rfl
  | cons o os ih => rw [texts, ih, List.map_cons]

theorem height_lt_heights {os : List Outline} {o : Outline} (h : o ∈ os) : o.height < heights os := by
  induction os with
  | nil => cases h
  | cons p os ih =>
    rw [heights]
    rcases List.mem_cons.mp h with rfl | h
    · omega
    · have := ih h
      omega

theorem height_lt_of_mem_parts {o p : Outline} (h : p ∈ o.parts) : p.height < o.height := by
  cases o with
  | leaf => cases h
  | suffixed | promise =>
    obtain rfl := List.mem_singleton.mp h
    rw [height]
    omega
  | intersection | record =>
    rw [height]
    rcases List.mem_pair.mp h with rfl | rfl <;> omega
  | union | tuple =>
    rw [height]
    exact height_lt_heights h
  | openTuple items rest =>
    rw [height]
    rcases List.mem_append.mp h with h | h
    · have := height_lt_heights h
      omega
    · obtain rfl := List.mem_singleton.mp h
      omega

theorem mapParts_congr {f g : Outline → Outline} {o : Outline} (h : ∀ p ∈ o.parts, f p = g p) :
    o.mapParts f = o.mapParts g := by
  cases o with
  | leaf => rfl
  | suffixed | promise => simp only [mapParts, h _ List.mem_cons_self]
  | intersection | record =>
    simp only [mapParts, h _ List.mem_cons_self, h _ (List.mem_cons_of_mem _ List.mem_cons_self)]
  | union options =>
    have hoptions : options.map f = options.map g := List.map_congr_left h
    simp only [mapParts, hoptions]
  | tuple items =>
    have hitems : items.map f = items.map g := List.map_congr_left h
    simp only [mapParts, hitems]
  | openTuple items rest =>
    have hitems : items.map f = items.map g := List.map_congr_left fun p hp => h p (List.mem_append_left _ hp)
    simp only [mapParts, hitems, h rest (List.mem_append_right _ List.mem_cons_self)]

theorem mapParts_id (o : Outline) : o.mapParts id = o := by
  cases o <;> simp only [mapParts, List.map_id, id]

theorem mapParts_mapParts (f g : Outline → Outline) (o : Outline) :
    (o.mapParts f).mapParts g = o.mapParts (g ∘ f) := by
  cases o <;> simp only [mapParts, List.map_map, Function.comp_apply]

theorem cutAt_eq_self {marker : Text} {level : Nat} {o : Outline} (h : o.height < level) : o.cutAt marker level = o := by
  induction level generalizing o with
  | zero => omega
  | succ level ih =>
    have hparts : ∀ p ∈ o.parts, p.cutAt marker level = id p := by
      intro p hp
      have := height_lt_of_mem_parts hp
      exact ih (by omega)
    rw [cutAt, mapParts_congr hparts, mapParts_id]

theorem cutAt_cutAt (marker marker' : Text) {level level' : Nat} (h : level' ≤ level) (o : Outline) :
    (o.cutAt marker level).cutAt marker' level' = o.cutAt marker' level' := by
  induction level' generalizing level o with
  | zero => rw [cutAt, cutAt]
  | succ level' ih =>
    obtain ⟨level, rfl⟩ : ∃ l, level = l + 1 := ⟨level - 1, by omega⟩
    rw [cutAt, cutAt, cutAt, mapParts_mapParts]
    exact mapParts_congr fun p _ => ih (by omega) p

end Outline

mutual

def Value.outline : Value → Outline
  | .null => .leaf "unknown"
  | .node d => d.outline
  | v => .leaf v.fallbackName

def Descriptor.outline : Descriptor → Outline
  | .mk _ _ (.array element _ _ _) => .suffixed element.outline "[]"
  | .mk _ _ (.union options) => .union (outlines options)
  | .mk _ _ (.intersection left right) => .intersection left.outline right.outline
  | .mk _ _ (.record key value) => .record key.outline value.outline
  | .mk _ _ (.tuple items .null) => .tuple (outlines items)
  | .mk _ _ (.tuple items rest) => .openTuple (outlines items) rest.outline
  | .mk _ _ (.promise inner) => .promise inner.outline
  | .mk _ _ (.modified .optional inner) => .suffixed inner.outline "?"
  | .mk _ _ (.modified .nullable inner) => .suffixed inner.outline " | null"
  | .mk _ _ (.modified (.default _ _) inner) => .suffixed inner.outline []
  | d => .leaf (d.signatureWith fun _ => [])

def outlines : List Descriptor → List Outline
  | [] => []
  | d :: ds => d.outline :: outlines ds

end

theorem outlines_eq (ds : List Descriptor) : outlines ds = ds.map fun d => (Value.node d).outline := by
  induction ds with
  | nil => rfl
  | cons d ds ih => rw [outlines, ih, List.map_cons, Value.outline]

theorem Value.outline_node (d : Descriptor) : (Value.node d).outline = d.outline := by rw [Value.outline]

/-- The parts of an outline are the outlines of the values in the signature. -/
theorem parts_outline (d : Descriptor) : d.outline.parts = d.inSignature.map Value.outline := by
  obtain ⟨i, description, body⟩ := d
  cases body with
  | union options =>
    simp [Descriptor.outline, Outline.parts, outlines_eq, Descriptor.inSignature, Descriptor.body, Body.children]
  | tuple items rest =>
    by_cases hrest : rest = .null
    · simp [hrest, Descriptor.outline, Outline.parts, outlines_eq, Descriptor.inSignature, Descriptor.body, Body.children]
    · simp [Descriptor.outline, Outline.parts, outlines_eq, Descriptor.inSignature, Descriptor.body, Body.children]
  | modified m inner =>
    cases m <;> simp [Descriptor.outline, Outline.parts, Descriptor.inSignature, Descriptor.body, Value.outline_node]
  | _ => simp [Descriptor.outline, Outline.parts, Descriptor.inSignature, Descriptor.body, Body.children, Value.outline_node]

/-- Other texts for the parts of the outline are other texts for the children in the signature. -/
theorem text_mapParts_outline {f : Outline → Outline} {child : Value → Text} {d : Descriptor}
    (h : ∀ w ∈ d.inSignature, (f w.outline).text = child w) : (d.outline.mapParts f).text = d.signatureWith child := by
  have hnode : ∀ e, Value.node e ∈ d.inSignature → (f e.outline).text = child (.node e) := by
    intro e he
    rw [← h _ he, Value.outline_node]
  have htexts : ∀ ds : List Descriptor, (∀ e ∈ ds, Value.node e ∈ d.inSignature) →
      Outline.texts ((outlines ds).map f) = ds.map fun e => child (.node e) := by
    intro ds hds
    rw [Outline.texts_eq, outlines_eq, List.map_map, List.map_map]
    exact List.map_congr_left fun e he => hnode e (hds e he)
  obtain ⟨i, description, body⟩ := d
  cases body with
  | array inner | promise inner =>
    have hinner := hnode inner List.mem_cons_self
    simp only [Descriptor.outline, Outline.mapParts, Outline.text, Descriptor.signatureWith, Descriptor.body, hinner]
  | union options =>
    have hoptions := htexts options fun e he => List.mem_map_of_mem he
    simp only [Descriptor.outline, Outline.mapParts, Outline.text, Descriptor.signatureWith, Descriptor.body, hoptions]
  | intersection left right | record left right =>
    have hleft := hnode left List.mem_cons_self
    have hright := hnode right (List.mem_cons_of_mem _ List.mem_cons_self)
    simp only [Descriptor.outline, Outline.mapParts, Outline.text, Descriptor.signatureWith, Descriptor.body, hleft,
      hright]
  | tuple items rest =>
    have hitems := htexts items fun e he => Body.mem_children_tuple.mpr (.inl ⟨e, he, rfl⟩)
    by_cases hrest : rest = .null
    · simp only [hrest, Descriptor.outline, Outline.mapParts, Outline.text, Descriptor.signatureWith, Descriptor.body,
        hitems]
    · have hlast := h rest (Body.mem_children_tuple.mpr (.inr ⟨rfl, hrest⟩))
      simp only [Descriptor.outline, Outline.mapParts, Outline.text, Descriptor.signatureWith, Descriptor.body, hitems,
        hlast]
  | modified m inner =>
    cases m with
    | optional | nullable | default =>
      have hinner := hnode inner List.mem_cons_self
      simp only [Descriptor.outline, Outline.mapParts, Outline.text, Descriptor.signatureWith, Descriptor.body, hinner,
        List.append_nil]
    | _ => rfl
  | _ => rfl

/-- The text of an outline is the signature without a limit. -/
theorem text_outline (v : Value) : v.outline.text = v.fullSignature := by
  induction h : v.outline.height using Nat.strong_induction_on generalizing v with
  | _ n ih =>
    subst h
    cases v with
    | node d =>
      rw [fullSignature_node, Value.outline_node, ← Outline.mapParts_id d.outline]
      refine text_mapParts_outline fun w hw => ih _ ?_ w rfl
      rw [Value.outline_node]
      refine Outline.height_lt_of_mem_parts ?_
      rw [parts_outline]
      exact List.mem_map_of_mem hw
    | _ => rfl

theorem ne_null_of_mem_inSignature {d : Descriptor} {w : Value} (h : w ∈ d.inSignature) : w ≠ .null := by
  obtain ⟨i, description, body⟩ := d
  cases body with
  | tuple items rest =>
    rcases Body.mem_children_tuple.mp h with ⟨e, _, rfl⟩ | ⟨rfl, hrest⟩
    · exact Value.noConfusion
    · exact hrest
  | union options =>
    obtain ⟨e, _, rfl⟩ := List.mem_map.mp h
    exact Value.noConfusion
  | array | promise =>
    obtain rfl := List.mem_singleton.mp h
    exact Value.noConfusion
  | intersection | record => rcases List.mem_pair.mp h with rfl | rfl <;> exact Value.noConfusion
  | modified m inner =>
    cases m with
    | optional | nullable | default =>
      obtain rfl := List.mem_singleton.mp h
      exact Value.noConfusion
    | _ => cases h
  | _ => cases h

/-- Going down some levels shows the outline that is cut below them. -/
theorem text_cutAt (marker : Text) {levels : Nat} {v : Value} (hv : v ≠ .null) :
    (v.outline.cutAt marker levels).text = v.signatureIn marker levels := by
  induction levels generalizing v with
  | zero =>
    rw [Outline.cutAt, Value.signatureIn, Outline.text]
    exact hv
  | succ levels ih =>
    cases v with
    | null => exact (hv rfl).elim
    | node d =>
      rw [signatureIn_node, Value.outline_node]
      exact text_mapParts_outline fun w hw => ih (ne_null_of_mem_inSignature hw)
    | _ => rfl

theorem signatureIn_eq_fullSignature {levels : Nat} {v : Value} (h : v.outline.height < levels) (marker : Text) :
    v.signatureIn marker levels = v.fullSignature := by
  by_cases hv : v = .null
  · rw [hv, Value.signatureIn, Value.fullSignature]
  · rw [← text_cutAt marker hv, Outline.cutAt_eq_self h, text_outline]

/-- A signature down to a depth is the signature without a limit with each part one level deeper replaced by the marker.
It is the whole signature if there are no such parts, and the cut leaves alone each part above it. -/
theorem signature_eq_text_cutAt (v : Value) (m : Nat) (marker : Text) :
    v.outline.text = v.fullSignature ∧
    v.signature m marker = (v.outline.cutAt marker (m + 1)).text ∧
    (v.outline.height ≤ m → v.signature m marker = v.fullSignature) ∧
    (∀ level ≤ m + 1, ∀ marker',
      (v.outline.cutAt marker (m + 1)).cutAt marker' level = v.outline.cutAt marker' level) := by
  have hlevels : Value.levels m 0 = m + 1 := by
    rw [Value.levels]
    omega
  have hcut : v.signature m marker = (v.outline.cutAt marker (m + 1)).text := by
    rw [Value.signature, hlevels]
    by_cases hv : v = .null
    · rw [hv, Value.signatureIn, Value.outline, Outline.cutAt, Outline.mapParts, Outline.text]
    · exact (text_cutAt marker hv).symm
  refine ⟨text_outline v, hcut, fun hheight => ?_, fun level hlevel marker' => ?_⟩
  · rw [hcut, Outline.cutAt_eq_self (by omega), text_outline]
  · exact Outline.cutAt_cutAt marker marker' hlevel v.outline

def textRow : Descriptor := .mk ⟨0, [1], 0⟩ .null (.array (.mk ⟨0, [0], 0⟩ .null (.string [])) .null .null .null)

def textGrid : Descriptor := .mk ⟨0, [2], 0⟩ .null (.array textRow .null .null .null)

/-- The texts of a grid are cut off at depth 1 and shown at depth 2. -/
theorem signature_textGrid :
    (Value.node textGrid).signature 1 "..." = "...[][]" ∧
    (Value.node textGrid).signature 2 "..." = "string[][]" ∧
    (Value.node textGrid).signature 7 "<truncated>" = "string[][]" := by
  have hwhole : (Value.node textGrid).fullSignature = "string[][]" := by decide
  refine ⟨?_, ?_, ?_⟩
  · exact (signature_eq_text_cutAt (.node textGrid) 1 "...").2.1.trans (by decide)
  · exact ((signature_eq_text_cutAt (.node textGrid) 2 "...").2.2.1 (by decide)).trans hwhole
  · exact ((signature_eq_text_cutAt (.node textGrid) 7 "<truncated>").2.2.1 (by decide)).trans hwhole

end Schematic
