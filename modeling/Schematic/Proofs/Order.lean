import Schematic.Markdown.Renderer
import Schematic.Proofs.Admission

/-! The options of a union and the sides of an intersection may be written in another order, anywhere below
unions, intersections and modifiers. This does not change what is admitted, so an answer that is given both
before and after is the same, and a question that fails both before and after counts as answered with no. An
answer can get lost, though: a question that fails on the way fails as a whole, and which alternative is asked
first decides whether it comes so far. -/
namespace Schematic

/-- The second value is the first one with alternatives in another order. Nodes above them are other nodes. -/
inductive Reordered : Value → Value → Prop
  | refl (v : Value) : Reordered v v
  | trans {u v w : Value} (first : Reordered u v) (second : Reordered v w) : Reordered u w
  | options {i i' : Identity} {description : Value} {os os' : List Descriptor} (perm : os.Perm os') :
      Reordered (.node (.mk i description (.union os))) (.node (.mk i' description (.union os')))
  | sides {i i' : Identity} {description : Value} {left right : Descriptor} :
      Reordered (.node (.mk i description (.intersection left right)))
        (.node (.mk i' description (.intersection right left)))
  | option {i i' : Identity} {description : Value} {before after : List Descriptor} {o o' : Descriptor}
      (inside : Reordered (.node o) (.node o')) :
      Reordered (.node (.mk i description (.union (before ++ o :: after))))
        (.node (.mk i' description (.union (before ++ o' :: after))))
  | first {i i' : Identity} {description : Value} {left left' right : Descriptor}
      (inside : Reordered (.node left) (.node left')) :
      Reordered (.node (.mk i description (.intersection left right)))
        (.node (.mk i' description (.intersection left' right)))
  | second {i i' : Identity} {description : Value} {left right right' : Descriptor}
      (inside : Reordered (.node right) (.node right')) :
      Reordered (.node (.mk i description (.intersection left right)))
        (.node (.mk i' description (.intersection left right')))
  | inner {i i' : Identity} {description : Value} {m : Modifier} {inner inner' : Descriptor}
      (inside : Reordered (.node inner) (.node inner')) :
      Reordered (.node (.mk i description (.modified m inner))) (.node (.mk i' description (.modified m inner')))
  | result {i i' j j' : Identity} {description v v' : Value} (inside : Reordered v v') :
      Reordered (.node (.mk i description (.lazy j (.returns v))))
        (.node (.mk i' description (.lazy j' (.returns v'))))

/-- Two definitions of one number that are the same but for the order of alternatives. -/
inductive ReorderedOutcome : Except Raised Value → Except Raised Value → Prop
  | ok {v v' : Value} (value : Reordered v v') : ReorderedOutcome (.ok v) (.ok v')
  | error (e : Raised) : ReorderedOutcome (.error e) (.error e)

abbrev Definitions.Reordered (defs defs' : Definitions) : Prop := List.Forall₂ ReorderedOutcome defs defs'

/-- The question about a value comes to an end and is answered. -/
def Answered (c : Capability) (defs : Definitions) (v : Value) : Prop := ∃ r, v.answer c defs = .gives r

theorem Reordered.symm {v v' : Value} (h : Reordered v v') : Reordered v' v := by
  induction h with
  | refl v => exact .refl v
  | trans _ _ ih ih' => exact .trans ih' ih
  | options perm => exact .options perm.symm
  | sides => exact .sides
  | option _ ih => exact .option ih
  | first _ ih => exact .first ih
  | second _ ih => exact .second ih
  | inner _ ih => exact .inner ih
  | result _ ih => exact .result ih

theorem Reordered.mapIdentity (f : Identity → Identity) {v v' : Value} (h : Reordered v v') :
    Reordered (v.mapIdentity f) (v'.mapIdentity f) := by
  induction h with
  | refl v => exact .refl _
  | trans _ _ ih ih' => exact .trans ih ih'
  | options perm =>
    simp only [Value.mapIdentity, Descriptor.mapIdentity, Body.mapIdentity, mapNodeIdentities_eq]
    exact .options (perm.map _)
  | sides => exact .sides
  | option _ ih =>
    simp only [Value.mapIdentity, Descriptor.mapIdentity, Body.mapIdentity, mapNodeIdentities_eq, List.map_append,
      List.map_cons] at ih ⊢
    exact .option ih
  | first _ ih => exact .first ih
  | second _ ih => exact .second ih
  | inner _ ih => exact .inner ih
  | result _ ih => exact .result ih

theorem Definitions.Reordered.symm {defs defs' : Definitions} (h : defs.Reordered defs') : defs'.Reordered defs := by
  refine h.flip.imp ?_
  rintro _ _ (⟨value⟩ | e)
  · exact .ok value.symm
  · exact .error e

theorem Definitions.Reordered.get {defs defs' : Definitions} (h : defs.Reordered defs') (n : Nat) :
    ReorderedOutcome (defs.get n) (defs'.get n) := by
  induction h generalizing n with
  | nil => exact .ok (.refl _)
  | cons hhead _ ih =>
    cases n with
    | zero => exact hhead
    | succ n => exact ih n

theorem ReorderedOutcome.map_mapIdentity (f : Identity → Identity) {r r' : Except Raised Value}
    (h : ReorderedOutcome r r') : ReorderedOutcome (r.map (Value.mapIdentity f)) (r'.map (Value.mapIdentity f)) := by
  cases h with
  | ok value => exact .ok (value.mapIdentity f)
  | error e => exact .error e

/-- A getter gives the same but for the order of alternatives. -/
theorem Definitions.Reordered.call {defs defs' : Definitions} (h : defs.Reordered defs') (g : Action) (copy : Nat) :
    ReorderedOutcome (g.call defs copy) (g.call defs' copy) := by
  cases g with
  | returns v => exact .ok (.refl v)
  | raises e => exact .error e
  | shares n => exact h.get n
  | rebuilds n => exact (h.get n).map_mapIdentity _

theorem Definitions.Reordered.exists_call {defs defs' : Definitions} (h : defs.Reordered defs') {g : Action} {copy : Nat}
    {w : Value} (hw : g.call defs copy = .ok w) : ∃ w', g.call defs' copy = .ok w' ∧ Schematic.Reordered w w' := by
  have houtcome := h.call g copy
  rw [hw] at houtcome
  generalize g.call defs' copy = r at houtcome ⊢
  cases houtcome with
  | ok value => exact ⟨_, rfl, value⟩

/-- Two bodies with the same alternatives in some order, one by one. -/
inductive Body.Matched : Body → Body → Prop
  | refl (b : Body) : Matched b b
  | union {os os' : List Descriptor} (forth : ∀ o ∈ os, ∃ o' ∈ os', Reordered (.node o) (.node o')) :
      Matched (.union os) (.union os')
  | straight {left right left' right' : Descriptor} (first : Reordered (.node left) (.node left'))
      (second : Reordered (.node right) (.node right')) : Matched (.intersection left right) (.intersection left' right')
  | crossed {left right left' right' : Descriptor} (first : Reordered (.node left) (.node right'))
      (second : Reordered (.node right) (.node left')) : Matched (.intersection left right) (.intersection left' right')
  | modified {m : Modifier} {inner inner' : Descriptor} (below : Reordered (.node inner) (.node inner')) :
      Matched (.modified m inner) (.modified m inner')
  | result {j j' : Identity} {v v' : Value} (value : Reordered v v') :
      Matched (.lazy j (.returns v)) (.lazy j' (.returns v'))

theorem Body.Matched.trans {a b c : Body} (h : Body.Matched a b) (h' : Body.Matched b c) : Body.Matched a c := by
  cases h with
  | refl => exact h'
  | union forth =>
    cases h' with
    | refl => exact .union forth
    | union forth' =>
      refine .union fun o ho => ?_
      obtain ⟨o', ho', hfirst⟩ := forth o ho
      obtain ⟨o'', ho'', hsecond⟩ := forth' o' ho'
      exact ⟨o'', ho'', hfirst.trans hsecond⟩
  | straight first second =>
    cases h' with
    | refl => exact .straight first second
    | straight first' second' => exact .straight (first.trans first') (second.trans second')
    | crossed first' second' => exact .crossed (first.trans first') (second.trans second')
  | crossed first second =>
    cases h' with
    | refl => exact .crossed first second
    | straight first' second' => exact .crossed (first.trans second') (second.trans first')
    | crossed first' second' => exact .straight (first.trans second') (second.trans first')
  | modified below =>
    cases h' with
    | refl => exact .modified below
    | modified below' => exact .modified (below.trans below')
  | result value =>
    cases h' with
    | refl => exact .result value
    | result value' => exact .result (value.trans value')

/-- A value in another order is the same, or it is a node of which this holds one level below. -/
theorem Reordered.matched {v v' : Value} (h : Reordered v v') :
    v = v' ∨ ∃ i i' description b b', v = .node (.mk i description b) ∧ v' = .node (.mk i' description b') ∧
      Body.Matched b b' := by
  induction h with
  | refl v => exact .inl rfl
  | trans _ _ ih ih' =>
    rcases ih with rfl | ⟨i, i', description, b, b', rfl, rfl, hb⟩
    · exact ih'
    · rcases ih' with rfl | ⟨k, k', description', b₁, b'', hv, rfl, hb'⟩
      · exact .inr ⟨i, i', description, b, b', rfl, rfl, hb⟩
      · obtain ⟨rfl, rfl, rfl⟩ := Descriptor.mk.inj (Value.node.inj hv)
        exact .inr ⟨i, k', description, b, b'', rfl, rfl, hb.trans hb'⟩
  | options perm =>
    exact .inr ⟨_, _, _, _, _, rfl, rfl, .union fun o ho => ⟨o, perm.mem_iff.mp ho, .refl _⟩⟩
  | sides => exact .inr ⟨_, _, _, _, _, rfl, rfl, .crossed (.refl _) (.refl _)⟩
  | @option i i' description before after o o' inside =>
    refine .inr ⟨_, _, _, _, _, rfl, rfl, .union fun p hp => ?_⟩
    rcases List.mem_append.mp hp with hp | hp
    · exact ⟨p, List.mem_append_left _ hp, .refl _⟩
    · rcases List.mem_cons.mp hp with rfl | hp
      · exact ⟨o', by simp, inside⟩
      · exact ⟨p, by simp [hp], .refl _⟩
  | first inside => exact .inr ⟨_, _, _, _, _, rfl, rfl, .straight inside (.refl _)⟩
  | second inside => exact .inr ⟨_, _, _, _, _, rfl, rfl, .straight (.refl _) inside⟩
  | inner inside => exact .inr ⟨_, _, _, _, _, rfl, rfl, .modified inside⟩
  | result inside => exact .inr ⟨_, _, _, _, _, rfl, rfl, .result inside⟩

theorem Reordered.exists_node {i : Identity} {description v' : Value} {b : Body}
    (h : Reordered (.node (.mk i description b)) v') :
    ∃ i' b', v' = .node (.mk i' description b') ∧ Body.Matched b b' := by
  rcases h.matched with rfl | ⟨k, k', description', b₁, b', hv, rfl, hb⟩
  · exact ⟨i, b, rfl, .refl b⟩
  · obtain ⟨rfl, rfl, rfl⟩ := Descriptor.mk.inj (Value.node.inj hv)
    exact ⟨k', b', rfl, hb⟩

theorem Reordered.eq_of_not_isNode {v v' : Value} (h : Reordered v v') (hv : ¬ v.IsNode) : v' = v := by
  rcases h.matched with rfl | ⟨_, _, _, _, _, rfl, _, _⟩
  · rfl
  · exact (hv ⟨_, rfl⟩).elim

theorem Reordered.truthy {v v' : Value} (h : Reordered v v') : v.truthy = v'.truthy := by
  rcases h.matched with rfl | ⟨_, _, _, _, _, rfl, rfl, _⟩ <;> rfl

theorem Reordered.isOptionalNode {v v' : Value} (h : Reordered v v') : v.isOptionalNode = v'.isOptionalNode := by
  rcases h.matched with rfl | ⟨i, i', description, b, b', rfl, rfl, hb⟩
  · rfl
  · cases hb with
    | refl =>
      cases b with
      | modified m inner => cases m <;> rfl
      | _ => rfl
    | @modified m => cases m <;> rfl
    | _ => rfl

section Questions

variable {c : Capability} {defs defs' : Definitions}

theorem AnswersItself.reordered (hdefs : defs.Reordered defs') {v : Value} {b : Bool} (h : AnswersItself c defs v b) :
    AnswersItself c defs' v b := by
  cases h with
  | @method _ _ _ _ _ action r _ own call counts =>
    obtain ⟨r', hcall, hr⟩ := hdefs.exists_call call
    exact .method own hcall (hr.truthy.symm.trans counts)

theorem Admits.reordered (hdefs : defs.Reordered defs') {v v' : Value} (h : Admits defs c v) (hv : Reordered v v') :
    Admits defs' c v' := by
  induction h generalizing v' with
  | any | unknown | undefined | void | null | literalAbsent | literalNull =>
    obtain ⟨i', b', rfl, hb⟩ := hv.exists_node
    cases hb
    constructor
  | optional | default | nullable | catching =>
    obtain ⟨i', b', rfl, hb⟩ := hv.exists_node
    cases hb <;> constructor
  | inner _ ih =>
    obtain ⟨i', b', rfl, hb⟩ := hv.exists_node
    cases hb with
    | refl => exact .inner (ih (.refl _))
    | modified below => exact .inner (ih below)
  | @getter c i j description w g call _ ih =>
    obtain ⟨i', b', rfl, hb⟩ := hv.exists_node
    cases hb with
    | refl =>
      obtain ⟨w', hcall, hw⟩ := hdefs.exists_call call
      exact .getter hcall (ih hw)
    | result value =>
      obtain rfl := Except.ok.inj call
      exact .getter rfl (ih value)
  | option member _ ih =>
    obtain ⟨i', b', rfl, hb⟩ := hv.exists_node
    cases hb with
    | refl => exact .option member (ih (.refl _))
    | union forth =>
      obtain ⟨o', ho', ho⟩ := forth _ member
      exact .option ho' (ih ho)
  | both _ _ ih ih' =>
    obtain ⟨i', b', rfl, hb⟩ := hv.exists_node
    cases hb with
    | refl => exact .both (ih (.refl _)) (ih' (.refl _))
    | straight first second => exact .both (ih first) (ih' second)
    | crossed first second => exact .both (ih' second) (ih first)
  | itself own =>
    obtain rfl := hv.eq_of_not_isNode own.not_isNode
    exact .itself (own.reordered hdefs)

theorem answered_iff {v : Value} : Answered c defs v ↔ ∃ b, (v.answer c defs).kind = some b := by
  unfold Answered
  cases v.answer c defs with
  | gives r => simp [Answer.kind]
  | fails e => simp [Answer.kind]

theorem can_eq_of_answered (hdefs : defs.Reordered defs') {v v' : Value} (hv : Reordered v v')
    (h : Answered c defs v) (h' : Answered c defs' v') : v.can c defs = v'.can c defs' := by
  obtain ⟨b, hb⟩ := answered_iff.mp h
  obtain ⟨b', hb'⟩ := answered_iff.mp h'
  rw [Bool.eq_iff_iff, can_eq_true_iff, can_eq_true_iff, hb, hb', Option.some.injEq, Option.some.injEq,
    kind_answer_iff_admits hb, kind_answer_iff_admits hb']
  exact ⟨fun hadmits => hadmits.reordered hdefs hv, fun hadmits => hadmits.reordered hdefs.symm hv.symm⟩

/-- A question that is not answered counts as answered with no. -/
theorem can_of_not_answered {v : Value} (h : ¬ Answered c defs v) : v.can c defs = false :=
  Bool.eq_false_iff.mpr fun hcan => h (answered_iff.mpr ⟨true, can_eq_true_iff.mp hcan⟩)

/-- A question that is answered in both orders, or in neither, counts the same in both. -/
theorem can_eq_of_reordered (hdefs : defs.Reordered defs') {v v' : Value} (hv : Reordered v v')
    (h : Answered c defs v ↔ Answered c defs' v') : v.can c defs = v'.can c defs' := by
  by_cases hanswered : Answered c defs v
  · exact can_eq_of_answered hdefs hv hanswered (h.mp hanswered)
  · rw [can_of_not_answered hanswered, can_of_not_answered (mt h.mpr hanswered)]

/-- What is consulted in one order is consulted in the other. -/
theorem Reordered.consults (hdefs : defs.Reordered defs') {v v' w : Value} (hv : Reordered v v')
    (hw : Consults c defs v w) : ∃ w', Consults c defs' v' w' ∧ Reordered w w' := by
  by_cases hnode : v.IsNode
  · obtain ⟨⟨i, description, b⟩, rfl⟩ := hnode
    obtain ⟨i', b', rfl, hb⟩ := hv.exists_node
    cases hb with
    | refl =>
      cases b with
      | lazy j g =>
        obtain ⟨w', hcall, hr⟩ := hdefs.exists_call (mem_consulted_lazy.mp hw)
        exact ⟨w', mem_consulted_lazy.mpr hcall, hr⟩
      | _ => exact ⟨w, hw, .refl w⟩
    | union forth =>
      obtain ⟨o, ho, rfl⟩ := List.mem_map.mp hw
      obtain ⟨o', ho', hr⟩ := forth o ho
      exact ⟨_, List.mem_map_of_mem ho', hr⟩
    | straight first second =>
      rcases List.mem_pair.mp hw with rfl | rfl
      · exact ⟨_, List.mem_cons_self, first⟩
      · exact ⟨_, by simp [Consults, Value.consulted], second⟩
    | crossed first second =>
      rcases List.mem_pair.mp hw with rfl | rfl
      · exact ⟨_, by simp [Consults, Value.consulted], first⟩
      · exact ⟨_, List.mem_cons_self, second⟩
    | @modified m inner inner' below =>
      obtain ⟨hm, rfl⟩ := mem_consulted_modified.mp hw
      exact ⟨_, mem_consulted_modified.mpr ⟨hm, rfl⟩, below⟩
    | result value =>
      obtain rfl := List.mem_singleton.mp hw
      exact ⟨_, List.mem_cons_self, value⟩
  · cases v with
    | node d => exact (hnode ⟨d, rfl⟩).elim
    | _ => cases hw

theorem Settled.answered_reordered (hdefs : defs.Reordered defs') {v v' : Value} (h : Settled c defs v)
    (hv : Reordered v v') : Answered c defs' v' := by
  rw [answered_iff, ← Option.isSome_iff_exists]
  induction h.acc generalizing v' with
  | intro v _ ih =>
    rw [kind_answer_eq]
    refine isSome_askWith (fun w' hw' => ?_) (fun i' description j' g' hlazy => ?_) fun hnot => ?_
    · obtain ⟨w, hw, hr⟩ := hv.symm.consults hdefs.symm hw'
      exact ih w hw (h.below hw) hr.symm
    · subst hlazy
      obtain ⟨i, b, rfl, hb⟩ := hv.symm.exists_node
      cases hb with
      | refl =>
        obtain ⟨w, hw⟩ := h.returning i description j' g' .refl
        obtain ⟨w', hcall, _⟩ := hdefs.exists_call hw
        exact ⟨w', hcall⟩
      | result value => exact ⟨_, rfl⟩
    · obtain rfl := hv.symm.eq_of_not_isNode hnot
      obtain ⟨b, hb⟩ := h.answering v .refl hnot
      exact ⟨b, hb.reordered hdefs⟩

end Questions

def Summary.flag (s : Summary) : Capability → Bool
  | .optional => s.optional
  | .nullable => s.nullable

theorem flag_summary (defs : Definitions) (v : Value) (c : Capability) : (v.summary defs).flag c = v.can c defs := by
  cases c <;> rfl

/-- The cell of a table row that says whether a property is required. -/
def requiredCell (defs : Definitions) (config : Config) (copy : Nat) (key property : Value) : Option Value :=
  (propertyCells defs config copy key property)[2]?

/-- A flag is the same in two orders if its question is answered in both or in neither, and so is the cell of a row
that tells whether a property is required. A settled question is answered in every order. -/
theorem summary_flag_of_reordered {defs defs' : Definitions} {v v' : Value} (hdefs : defs.Reordered defs')
    (hv : Reordered v v') :
    (∀ c, (Answered c defs v ↔ Answered c defs' v') → (v.summary defs).flag c = (v'.summary defs').flag c) ∧
    ((Answered .optional defs v ↔ Answered .optional defs' v') → ∀ config copy copy' key key',
      requiredCell defs config copy key v = requiredCell defs' config copy' key' v') ∧
    (∀ c, Settled c defs v → Answered c defs v ∧ Answered c defs' v') := by
  refine ⟨fun c h => ?_, fun h config copy copy' key key' => ?_, fun c h => ?_⟩
  · rw [flag_summary, flag_summary]
    exact can_eq_of_reordered hdefs hv h
  · have hleft : v.mayBeLeftOut defs = v'.mayBeLeftOut defs' := by
      rw [Value.mayBeLeftOut, Value.mayBeLeftOut, hv.isOptionalNode, can_eq_of_reordered hdefs hv h]
    simp only [requiredCell, propertyCells, hleft]
    rfl
  · exact ⟨answered_iff.mpr (Option.isSome_iff_exists.mp h.isSome_answer), h.answered_reordered hdefs hv⟩

def swappedListChoice : Descriptor := .mk ⟨0, [3], 0⟩ .null (.union [listRest, listLink])

theorem summary_flag_of_swappedListChoice :
    listDefinitions.Reordered listDefinitions ∧ Reordered (.node listChoice) (.node swappedListChoice) ∧
    (∀ c, Settled c listDefinitions (.node listChoice)) ∧
    (∀ c, ((Value.node listChoice).summary listDefinitions).flag c =
      ((Value.node swappedListChoice).summary listDefinitions).flag c) ∧
    (∀ config copy key, requiredCell listDefinitions config copy key (.node listChoice) =
      requiredCell listDefinitions config copy key (.node swappedListChoice)) := by
  have hdefs : listDefinitions.Reordered listDefinitions := .cons (.ok (.refl _)) .nil
  have hv : Reordered (.node listChoice) (.node swappedListChoice) := .options (.swap _ _ _)
  obtain ⟨hflag, hcell, hanswered⟩ := summary_flag_of_reordered hdefs hv
  have hboth : ∀ c, Answered c listDefinitions (.node listChoice) ↔ Answered c listDefinitions (.node swappedListChoice) :=
    fun c => iff_of_true (hanswered c (settled_listChoice c)).1 (hanswered c (settled_listChoice c)).2
  exact ⟨hdefs, hv, settled_listChoice, fun c => hflag c (hboth c),
    fun config copy key => hcell (hboth .optional) config copy copy key key⟩

def optionalText : Descriptor := .mk ⟨0, [0], 0⟩ .null (.modified .optional (.mk ⟨0, [0, 0], 0⟩ .null (.string [])))

def failingOption : Descriptor := .mk ⟨0, [1], 0⟩ .null (.lazy ⟨0, [0, 1], 0⟩ (.raises (.mk "ValueError" [.text "x"])))

/-- An option that may be left out, and one whose getter raises. -/
def failureLast : Descriptor := .mk ⟨0, [], 0⟩ .null (.union [optionalText, failingOption])

def failureFirst : Descriptor := .mk ⟨0, [], 0⟩ .null (.union [failingOption, optionalText])

theorem summary_flag_failureFirst_ne :
    Reordered (.node failureLast) (.node failureFirst) ∧
    ((Value.node failureLast).summary []).optional = true ∧ ((Value.node failureFirst).summary []).optional = false ∧
    requiredCell [] Config.standard 1 (.text "a") (.node failureLast) = some (.text "No") ∧
    requiredCell [] Config.standard 1 (.text "a") (.node failureFirst) = some (.text "Yes") :=
  ⟨.options (.swap _ _ _), rfl, rfl, rfl, rfl⟩

end Schematic
