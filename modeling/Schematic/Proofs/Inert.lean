import Schematic.Proofs.Copies
import Schematic.Proofs.Data

namespace Schematic

def Body.CallsNothing : Body → Prop
  | .lazy _ _ => False
  | .modified (.default _ factory) _ => factory = .null
  | .modified (.effect function _) _ => function = .null
  | _ => True

/-- The fields of a node hold data, the children apart. -/
def Body.HoldsData : Body → Prop
  | .array _ low high exact => low.IsLength ∧ high.IsLength ∧ exact.IsLength
  | .object properties => Entries.Keyed properties
  | .literal value => value.IsData
  | .modified (.default value _) _ => value.IsData
  | .modified (.catching value) _ => value.IsData
  | _ => True

/-- A tree of at most this many levels that holds data and calls nothing. A child has its place below that of the
node that holds it. -/
inductive Descriptor.InertWithin : Nat → Descriptor → Prop
  | mk {levels : Nat} {d : Descriptor} (description : d.description = .null ∨ d.description.IsText)
      (callsNothing : d.body.CallsNothing) (holdsData : d.body.HoldsData)
      (nodes : ∀ w ∈ d.body.children, w.IsNode)
      (places : ∀ e, .node e ∈ d.body.children → ∃ n, e.identity = d.identity.child n)
      (children : ∀ e, .node e ∈ d.body.children → InertWithin levels e) : InertWithin (levels + 1) d

def Descriptor.IsInert (d : Descriptor) : Prop := ∃ levels, d.InertWithin levels

namespace Descriptor.InertWithin

variable {levels : Nat} {d : Descriptor}

theorem callsNothing (h : d.InertWithin levels) : d.body.CallsNothing := by
  cases h with
  | mk _ hcalls => exact hcalls

theorem holdsData (h : d.InertWithin levels) : d.body.HoldsData := by
  cases h with
  | mk _ _ hdata => exact hdata

theorem description (h : d.InertWithin levels) : d.description = .null ∨ d.description.IsText := by
  cases h with
  | mk hdescription => exact hdescription

theorem isNode_of_child (h : d.InertWithin levels) {w : Value} (hw : w ∈ d.body.children) : w.IsNode := by
  cases h with
  | mk _ _ _ hnodes => exact hnodes w hw

theorem child (h : d.InertWithin levels) {e : Descriptor} (he : .node e ∈ d.body.children) :
    ∃ less, levels = less + 1 ∧ e.InertWithin less ∧ ∃ n, e.identity = d.identity.child n := by
  cases h with
  | mk _ _ _ _ hplaces hchildren => exact ⟨_, rfl, hchildren e he, hplaces e he⟩

theorem edge {defs : Definitions} (h : d.InertWithin levels) {w : Value} (edge : Edge defs (.node d) w) :
    ∃ e, w = .node e ∧ .node e ∈ d.body.children := by
  cases edge with
  | field hchild =>
    obtain ⟨e, rfl⟩ := h.isNode_of_child hchild
    exact ⟨e, rfl, hchild⟩
  | getter => exact h.callsNothing.elim

theorem typed (h : d.InertWithin levels) : d.Typed := by
  refine ⟨h.description, ?_⟩
  obtain ⟨i, description, body⟩ := d
  have hdata := h.holdsData
  have hcalls := h.callsNothing
  have hnodes : ∀ w ∈ body.children, w.IsNode := fun w hw => h.isNode_of_child hw
  cases body with
  | array => exact hdata
  | object properties => exact fun e he => ⟨hdata.texts e he, hnodes _ (List.mem_map_of_mem he)⟩
  | tuple items rest =>
    by_cases hrest : rest = .null
    · exact .inl hrest
    · exact .inr (hnodes _ (Body.mem_children_tuple.mpr (.inr ⟨rfl, hrest⟩)))
  | modified m =>
    cases m with
    | default | effect => exact .inl hcalls
    | _ => trivial
  | _ => trivial

/-- Everything that is reached from an inert tree is an inert tree at a place below. -/
theorem reaches {defs : Definitions} (h : d.InertWithin levels) {w : Value} (hw : Reaches defs (.node d) w) :
    ∃ e, w = .node e ∧ ∃ less ≤ levels, e.InertWithin less ∧
      d.identity.place.length + (levels - less) ≤ e.identity.place.length := by
  induction hw with
  | refl => exact ⟨d, rfl, levels, le_rfl, h, by omega⟩
  | tail _ hedge ih =>
    obtain ⟨e, rfl, less, hle, he, hplace⟩ := ih
    obtain ⟨f, rfl, hf⟩ := he.edge hedge
    obtain ⟨less, rfl, hinert, n, hn⟩ := he.child hf
    refine ⟨f, rfl, less, by omega, hinert, ?_⟩
    rw [hn, Identity.child, List.length_cons]
    omega

theorem wellTyped (defs : Definitions) (h : d.InertWithin levels) : WellTyped defs (.node d) := by
  intro e he
  obtain ⟨e, heq, _, _, hinert, _⟩ := h.reaches he
  obtain rfl := Value.node.inj heq
  exact hinert.typed

theorem walksWithin (defs : Definitions) (h : d.InertWithin levels) : WalksWithin defs levels (.node d) := by
  intro n hn
  generalize hv : Value.node d = v at hn
  induction hn generalizing d levels with
  | start => omega
  | call =>
    obtain rfl := Value.node.inj hv
    exact h.callsNothing.elim
  | step edge _ ih =>
    subst hv
    obtain ⟨e, rfl, he⟩ := h.edge edge
    obtain ⟨less, rfl, hinert, _⟩ := h.child he
    have := ih hinert rfl
    omega

theorem strip (h : d.InertWithin levels) :
    d.strip.IsInert ∧ (Value.node d.strip).isModifier = false ∧
      d.identity.place.length ≤ d.strip.identity.place.length := by
  induction h with
  | @mk levels d hdescription hcalls hdata hnodes hplaces hchildren ih =>
    have hself : d.InertWithin (levels + 1) := .mk hdescription hcalls hdata hnodes hplaces hchildren
    obtain ⟨i, description, body⟩ := d
    cases body with
    | modified m inner =>
      have hmem : Value.node inner ∈ (Body.modified m inner).children := List.mem_singleton_self _
      obtain ⟨hinert, hmodifier, hlength⟩ := ih inner hmem
      obtain ⟨n, hn⟩ := hplaces inner hmem
      refine ⟨hinert, hmodifier, le_trans ?_ hlength⟩
      rw [hn, Identity.child, List.length_cons]
      exact Nat.le_succ _
    | lazy => exact hcalls.elim
    | _ => exact ⟨⟨_, hself⟩, rfl, le_rfl⟩

theorem unwrap (h : d.InertWithin levels) (defs : Definitions) (limit : Int) (copy : Nat) :
    (Value.node d).unwrap defs limit copy = .ok (.node d.strip, copy) := by
  have hunwraps : Unwraps defs copy (.node d) 0 (.ok (.node d.strip)) := .of_strip (.done h.strip.2.1)
  have hlimited : limitedOutcome copy 0 1 (.ok (.node d.strip)) = .ok (.node d.strip, copy) := rfl
  rw [Value.unwrap, unwrapFrom_of_unwraps hunwraps (Nat.zero_le _), hlimited, Except.mapError]

theorem exists_askAny {c : Capability} {ds : List Descriptor}
    (h : ∀ d ∈ ds, ∃ b, ∀ defs jump, d.ask c defs jump = .gives (.bool b)) :
    ∃ b, ∀ defs jump, askAny c defs jump ds = .gives (.bool b) := by
  induction ds with
  | nil => exact ⟨false, fun defs jump => by rw [askAny, Answer.ofBool]⟩
  | cons d ds ih =>
    obtain ⟨⟨first, hfirst⟩, hrest⟩ := List.forall_mem_cons.mp h
    obtain ⟨more, hmore⟩ := ih hrest
    refine ⟨first || more, fun defs jump => ?_⟩
    rw [askAny, hfirst, hmore]
    cases first <;> rfl

/-- The answer to a question is a truth value, whatever is defined elsewhere. -/
theorem exists_ask (h : d.InertWithin levels) (c : Capability) :
    ∃ b, ∀ defs jump, d.ask c defs jump = .gives (.bool b) := by
  induction h with
  | @mk levels d _ hcalls _ _ _ _ ih =>
    obtain ⟨i, description, body⟩ := d
    cases body with
    | primitive p => exact ⟨c.ofPrimitive p, fun defs jump => by rw [Descriptor.ask, Body.ask, Answer.ofBool]⟩
    | literal v => exact ⟨c.ofLiteral v, fun defs jump => by rw [Descriptor.ask, Body.ask, Answer.ofBool]⟩
    | union options =>
      obtain ⟨b, hb⟩ := exists_askAny fun o ho => ih o (List.mem_map_of_mem ho)
      exact ⟨b, fun defs jump => by rw [Descriptor.ask, Body.ask, hb]⟩
    | intersection left right =>
      obtain ⟨b, hb⟩ := ih left List.mem_cons_self
      obtain ⟨b', hb'⟩ := ih right (List.mem_cons_of_mem _ (List.mem_singleton_self _))
      refine ⟨b && b', fun defs jump => ?_⟩
      rw [Descriptor.ask, Body.ask, hb, hb']
      cases b <;> rfl
    | modified m inner =>
      obtain ⟨b, hb⟩ := ih inner (List.mem_singleton_self _)
      refine ⟨c.grantedBy m || b, fun defs jump => ?_⟩
      rw [Descriptor.ask, Body.ask, hb]
      cases c.grantedBy m <;> rfl
    | lazy => exact hcalls.elim
    | _ => exact ⟨false, fun defs jump => by rw [Descriptor.ask, Body.ask, Answer.ofBool] <;> simp⟩

theorem exists_answer (h : d.InertWithin levels) (c : Capability) :
    ∃ b, ∀ defs, (Value.node d).answer c defs = .gives (.bool b) := by
  obtain ⟨b, hb⟩ := h.exists_ask c
  exact ⟨b, fun defs => by rw [Value.answer, Value.ask, hb]⟩

end Descriptor.InertWithin

/-- Two inert trees of which the same is left without identities. -/
def Value.Twin (v v' : Value) : Prop :=
  ∃ d d', v = .node d ∧ v' = .node d' ∧ d.IsInert ∧ d'.IsInert ∧ d.unshared = d'.unshared

namespace Value.Twin

variable {defs defs' : Definitions} {v v' : Value}

theorem refl {d : Descriptor} (h : d.IsInert) : Value.Twin (.node d) (.node d) := ⟨d, d, rfl, rfl, h, h, rfl⟩

theorem unshared (h : Value.Twin v v') : v.unshared = v'.unshared := by
  obtain ⟨d, d', rfl, rfl, _, _, hsame⟩ := h
  exact congrArg Value.node hsame

theorem like (h : Value.Twin v v') : Value.Like Value.Twin v v' := by
  obtain ⟨d, d', rfl, rfl, ⟨levels, hd⟩, ⟨levels', hd'⟩, hsame⟩ := h
  have hbody : d.body.unshared = d'.body.unshared := by
    obtain ⟨i, description, body⟩ := d
    obtain ⟨i', description', body'⟩ := d'
    exact (Descriptor.mk.inj hsame).2.2
  refine .node ((Body.like_of_unshared_eq hd.typed.2 hd'.typed.2 hbody).imp fun w w' hw hw' hww => ?_)
  obtain ⟨e, rfl⟩ := hd.isNode_of_child hw
  obtain ⟨e', rfl⟩ := hd'.isNode_of_child hw'
  obtain ⟨less, _, he, _⟩ := hd.child hw
  obtain ⟨less', _, he', _⟩ := hd'.child hw'
  exact ⟨e, e', rfl, rfl, ⟨less, he⟩, ⟨less', he'⟩, Value.node.inj hww⟩

theorem obstacleAt? (h : Value.Twin v v') (name : Text) : v.obstacleAt? name = v'.obstacleAt? name := by
  rw [← v.obstacleAt?_unshared, h.unshared, v'.obstacleAt?_unshared]

theorem description? (h : Value.Twin v v') : v.description? = v'.description? := by
  rw [← v.description?_unshared, h.unshared, v'.description?_unshared]

theorem descriptionOrNull (h : Value.Twin v v') : v.descriptionOrNull = v'.descriptionOrNull := by
  have hdescription := h.description?
  obtain ⟨d, d', rfl, rfl, ⟨_, hd⟩, ⟨_, hd'⟩, _⟩ := h
  exact descriptionOrNull_eq hdescription hd.typed.descriptionOrNull hd'.typed.descriptionOrNull

theorem fallbackName (h : Value.Twin v v') : v.fallbackName = v'.fallbackName := by
  rw [← v.fallbackName_unshared, h.unshared, v'.fallbackName_unshared]

theorem signatureIn (h : Value.Twin v v') (marker : Text) (levels : Nat) :
    v.signatureIn marker levels = v'.signatureIn marker levels := by
  induction levels generalizing v v' with
  | zero =>
    obtain ⟨d, d', rfl, rfl, _⟩ := h
    rfl
  | succ levels ih =>
    cases h.like with
    | node hbody =>
      rw [signatureIn_node, signatureIn_node]
      exact signatureWith_of_like hbody fun w w' hw => ih hw
    | other hnode =>
      obtain ⟨d, _, rfl, _⟩ := h
      exact (hnode ⟨d, rfl⟩).elim

end Value.Twin

def Body.storedDefault : Body → Value
  | .modified (.default value _) _ => value
  | _ => .absent

theorem Descriptor.InertWithin.madeDefault {levels : Nat} {d : Descriptor} (h : d.InertWithin levels)
    (defs : Definitions) (copy : Nat) : (Value.node d).madeDefault defs copy = .ok d.body.storedDefault := by
  have hcalls := h.callsNothing
  obtain ⟨i, description, body⟩ := d
  cases body with
  | modified m inner =>
    cases m with
    | default value factory =>
      obtain rfl : factory = .null := hcalls
      rfl
    | _ => rfl
  | _ => rfl

theorem Descriptor.InertWithin.storedDefault_unshared {levels : Nat} {d : Descriptor} (h : d.InertWithin levels) :
    d.unshared.body.storedDefault = d.body.storedDefault := by
  have hdata := h.holdsData
  obtain ⟨i, description, body⟩ := d
  cases body with
  | modified m inner =>
    cases m with
    | default value factory =>
      have hvalue : value.IsData := hdata
      exact hvalue.unshared_eq
    | _ => rfl
  | _ => rfl

namespace Value.Twin

variable {defs defs' : Definitions} {v v' : Value}

theorem default (h : Value.Twin v v') (defs defs' : Definitions) :
    (v.summary defs).default = (v'.summary defs').default := by
  obtain ⟨d, d', rfl, rfl, ⟨_, hd⟩, ⟨_, hd'⟩, hsame⟩ := h
  simp only [Value.summary, hd.madeDefault, hd'.madeDefault]
  rw [← hd.storedDefault_unshared, hsame, hd'.storedDefault_unshared]

/-- Twins unfold to the same tree, whatever is defined elsewhere. -/
theorem bisimulation (defs defs' : Definitions) : Bisimulation defs defs' Value.Twin where
  like _ _ h := h.like
  unreadable _ _ h := h.obstacleAt? _
  description _ _ h := h.description?
  default _ _ h := by rw [h.default defs defs']
  getter h := by
    obtain ⟨d, _, heq, _, ⟨_, hd⟩, _⟩ := h
    obtain rfl := Value.node.inj heq
    exact hd.callsNothing.elim
  other _ _ h hnode := by
    obtain ⟨d, _, rfl, _⟩ := h
    exact (hnode ⟨d, rfl⟩).elim

theorem can (h : Value.Twin v v') (defs defs' : Definitions) (c : Capability) : v.can c defs = v'.can c defs' := by
  have hask := (bisimulation defs defs').askWithin_eq c
  obtain ⟨d, d', rfl, rfl, ⟨levels, hd⟩, ⟨levels', hd'⟩, _⟩ := id h
  have hlevels : levels < max levels levels' + 1 ∧ levels' < max levels levels' + 1 := by omega
  rw [(hd.walksWithin defs).can_eq hlevels.1, (hd'.walksWithin defs').can_eq hlevels.2, hask _ h]

theorem summary (h : Value.Twin v v') (defs defs' : Definitions) : v.summary defs = v'.summary defs' := by
  have hext : ∀ {s s' : Summary}, s.description = s'.description → s.optional = s'.optional →
      s.nullable = s'.nullable → s.default = s'.default → s = s' := by
    rintro ⟨_, _, _, _⟩ ⟨_, _, _, _⟩ rfl rfl rfl rfl
    rfl
  exact hext h.descriptionOrNull (h.can defs defs' _) (h.can defs defs' _) (h.default defs defs')

theorem mayBeLeftOut (h : Value.Twin v v') (defs defs' : Definitions) : v.mayBeLeftOut defs = v'.mayBeLeftOut defs' := by
  rw [Value.mayBeLeftOut, Value.mayBeLeftOut, isOptionalNode_of_like h.like, h.can defs defs']

end Value.Twin

theorem Descriptor.strip_unshared (d : Descriptor) : d.unshared.strip = d.strip.unshared := by
  fun_induction Descriptor.strip d with
  | case1 i description m inner ih => exact ih
  | case2 d h =>
    obtain ⟨i, description, body⟩ := d
    cases body with
    | modified m inner => exact (h i description m inner rfl).elim
    | _ => rfl

theorem Value.Twin.strip {d d' : Descriptor} (h : Value.Twin (.node d) (.node d')) :
    Value.Twin (.node d.strip) (.node d'.strip) := by
  obtain ⟨e, e', heq, heq', ⟨_, hd⟩, ⟨_, hd'⟩, hsame⟩ := h
  obtain rfl := Value.node.inj heq
  obtain rfl := Value.node.inj heq'
  refine ⟨_, _, rfl, rfl, hd.strip.1, hd'.strip.1, ?_⟩
  rw [← d.strip_unshared, hsame, d'.strip_unshared]

theorem renderParts_of_like {R : Value → Value → Prop} {child child' : Value → Rendering} {parts parts' : List Part}
    (h : List.Forall₂ (Part.Like R) parts parts') (hchild : ∀ v v', v ∈ blocks parts → R v v' → child v = child' v') :
    renderParts child parts = renderParts child' parts' := by
  induction h with
  | nil => rfl
  | cons hp _ ih =>
    cases hp with
    | text t => rw [renderParts, renderParts, ih hchild]
    | block hv =>
      rw [renderParts, renderParts, hchild _ _ List.mem_cons_self hv,
        ih fun v v' hmem => hchild v v' (List.mem_cons_of_mem _ hmem)]

theorem SameLook.mono {R S : Value → Value → Prop} {look look' : Look} (h : SameLook R look look')
    (hS : ∀ v v', S v v' → R v v') : SameLook S look look' where
  signature v v' hv := h.signature v v' (hS v v' hv)
  cells v v' hv := h.cells v v' (hS v v' hv)
  complex d d' hd := h.complex d d' (hS _ _ hd)

/-- The configuration with other markers for what is met again and for what does not unwrap. -/
def Config.withMarkers (config : Config) (recursion unresolved : Text) : Config :=
  { config with recursionMarker := recursion, unresolvedMarker := unresolved }

theorem Config.sameLayout_withMarkers (config : Config) (recursion unresolved : Text) :
    (config.withMarkers recursion unresolved).SameLayout config := ⟨rfl, rfl, rfl, rfl, rfl, rfl⟩

theorem Descriptor.InertWithin.rowType {levels : Nat} {d : Descriptor} (h : d.InertWithin levels) (defs : Definitions)
    (config : Config) (copy : Nat) : rowType defs config copy (.node d) = config.signature (.node d.strip) := by
  rw [Schematic.rowType, h.unwrap]

/-- Twins look the same under other markers, wherever they stand. -/
theorem sameLook_withMarkers (defs defs' : Definitions) (config : Config) (recursion unresolved : Text) (copy copy' : Nat) :
    SameLook Value.Twin (config.look defs copy) ((config.withMarkers recursion unresolved).look defs' copy') where
  signature v v' h := h.signatureIn config.depthMarker _
  cells v v' h := by
    have htype : rowType defs config copy v = rowType defs' (config.withMarkers recursion unresolved) copy' v' := by
      obtain ⟨d, d', rfl, rfl, ⟨_, hd⟩, ⟨_, hd'⟩, _⟩ := id h
      rw [hd.rowType, hd'.rowType]
      exact h.strip.signatureIn config.depthMarker _
    simp only [Config.look, cellsOf, htype, h.mayBeLeftOut defs defs', h.descriptionOrNull, h.default defs defs']
    rfl
  complex d d' h := by
    cases h.like with
    | node hbody => exact isComplex_of_like hbody
    | other hnode => exact (hnode ⟨d, rfl⟩).elim

namespace Visit

/-- A visit of an inert tree whose place is below those of all nodes on the way down. -/
structure Fresh (visit : Visit) (d : Descriptor) : Prop where
  value : visit.value = .node d
  inert : d.IsInert
  above : ∀ i ∈ visit.ancestors, i.place.length < d.identity.place.length

variable {visit : Visit} {d : Descriptor}

theorem fresh_top (h : d.IsInert) : (top (.node d)).Fresh d := ⟨rfl, h, fun _ hi => (List.not_mem_nil hi).elim⟩

theorem Fresh.isAmong_eq_false (h : visit.Fresh d) {e : Descriptor}
    (he : d.identity.place.length ≤ e.identity.place.length) : (Value.node e).isAmong visit.ancestors = false := by
  rw [Bool.eq_false_iff]
  intro hamong
  have := h.above _ ((isAmong_node _ e).mp hamong)
  omega

theorem Fresh.finding (h : visit.Fresh d) (defs : Definitions) (config : Config) :
    visit.finding defs config =
      if config.maxDepth < visit.depth then .tooDeep else .opened (.node d.strip) visit.copy := by
  obtain ⟨levels, hd⟩ := h.inert
  simp only [Visit.finding, h.value, h.isAmong_eq_false le_rfl, hd.unwrap, h.isAmong_eq_false hd.strip.2.2,
    Bool.false_eq_true, if_false]

theorem Fresh.child (h : visit.Fresh d) {e : Descriptor} (he : .node e ∈ d.strip.body.children) :
    (visit.child (.node d.strip) visit.copy (.node e)).Fresh e := by
  obtain ⟨levels, hd⟩ := h.inert
  obtain ⟨⟨_, hstrip⟩, _, hlength⟩ := hd.strip
  obtain ⟨less, _, hinert, n, hn⟩ := hstrip.child he
  refine ⟨rfl, ⟨less, hinert⟩, fun i hi => ?_⟩
  have hbelow : e.identity.place.length = d.strip.identity.place.length + 1 := by
    rw [hn, Identity.child, List.length_cons]
  simp only [Visit.child, below, h.value, Value.identity?, Option.toList_some, List.mem_append, List.mem_singleton] at hi
  rcases hi with (rfl | rfl) | hi
  · omega
  · omega
  · have := h.above i hi
    omega

theorem block_eq_of_twin (defs defs' : Definitions) (config : Config) (recursion unresolved : Text) {a b : Visit}
    {d d' : Descriptor} (ha : a.Fresh d) (hb : b.Fresh d') (hdepth : a.depth = b.depth)
    (htwin : Value.Twin (.node d) (.node d')) :
    a.block defs config = b.block defs' (config.withMarkers recursion unresolved) := by
  have hrenders := renders_block defs config a
  generalize a.block defs config = r at hrenders
  induction hrenders generalizing b d d' with
  | visit a block _ ih =>
    rw [block_eq b, blockWith, blockWith, ha.finding, hb.finding, ← hdepth]
    have hlimit : (config.withMarkers recursion unresolved).maxDepth = config.maxDepth := rfl
    rw [hlimit]
    split_ifs with hdeep
    · rfl
    · have hstrip := htwin.strip
      obtain ⟨_, hd⟩ := ha.inert
      obtain ⟨_, hd'⟩ := hb.inert
      obtain ⟨_, hinert⟩ := hd.strip.1
      obtain ⟨_, hinert'⟩ := hd'.strip.1
      obtain ⟨parts, hl⟩ := (hinert.wellTyped defs).exists_layout config a.copy
      obtain ⟨parts', hl'⟩ :=
        (hinert'.wellTyped defs').exists_layout (config.withMarkers recursion unresolved) b.copy
      have hlayout := hl'
      rw [layout, layoutWith_of_sameLayout (config.sameLayout_withMarkers recursion unresolved)] at hlayout
      have hlook := sameLook_withMarkers defs defs' config recursion unresolved a.copy b.copy
      have hlike := layoutWith_of_like (hlook.mono fun _ _ hw => hw.1) (hstrip.like.restrict defs defs')
        (hstrip.obstacleAt? _) hstrip.description? (hlook.signature _ _ hstrip) hl hlayout
      have hparts : renderParts (fun w => block (a.child (.node d.strip) a.copy w)) parts =
          renderParts (fun w => Visit.block defs' (config.withMarkers recursion unresolved)
            (b.child (.node d'.strip) b.copy w)) parts' := by
        refine renderParts_of_like hlike ?_
        rintro w w' hw ⟨hww, hedge, hedge'⟩
        obtain ⟨e, rfl, he⟩ := hinert.edge hedge
        obtain ⟨e', rfl, he'⟩ := hinert'.edge hedge'
        refine ih _ ?_ (ha.child he) (hb.child he') ?_ hww
        · simp only [nested, ha.finding, if_neg hdeep, hl]
          exact List.mem_map_of_mem hw
        · simp only [Visit.child, hdepth]
      simp only [blockWith_eq, hl, hl', Except.bind, hstrip.fallbackName, hparts]

end Visit

/-- Twins are rendered alike, under all markers and whatever is defined elsewhere. -/
theorem Value.Twin.exists_page {d d' : Descriptor} (h : Value.Twin (.node d) (.node d')) (defs : Definitions)
    (config : Config) :
    ∃ page : Page, render defs config 0 (.node d) = page.whole ∧
      ∀ defs' recursion unresolved, render defs' (config.withMarkers recursion unresolved) 0 (.node d') = page.whole := by
  obtain ⟨_, _, heq, heq', hd, hd', _⟩ := id h
  obtain rfl := Value.node.inj heq
  obtain rfl := Value.node.inj heq'
  obtain ⟨levels, hinert⟩ := id hd
  obtain ⟨page, hpage⟩ := Visit.exists_block_of_wellTyped config (.top (.node d)) (hinert.wellTyped defs)
  refine ⟨page, render_of_block hpage, fun defs' recursion unresolved => render_of_block ?_⟩
  rw [← hpage]
  exact (Visit.block_eq_of_twin defs defs' config recursion unresolved (Visit.fresh_top hd) (Visit.fresh_top hd') rfl
    h).symm

end Schematic
