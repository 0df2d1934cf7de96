import Schematic.Markdown.Document
import Schematic.Proofs.Gaps
import Schematic.Proofs.Serialization
import Schematic.Proofs.Shallow

/-! Whatever getters, factories and foreign methods do, rendering a well-typed schema ends. It ends with a
text unless something in the graph cannot be shown: a number with too many digits, a value that is nested too
deep for the stack, an attribute that cannot be read. -/
namespace Schematic

variable {defs : Definitions} {config : Config}

theorem depth_nonneg_of_makes {visit next : Visit} (h : Visit.Makes defs config visit next) (hv : 0 ≤ visit.depth) :
    0 ≤ next.depth := by
  induction h with
  | refl => exact hv
  | tail _ hnext ih =>
    have := (Visit.depth_of_mem_nested hnext).2
    omega

theorem documentWithin_eq (room : Nat) (title : Text) (name : Option Text) (d : Descriptor) :
    documentWithin room defs config title name (.node d) =
      (renderWithin room defs config 0 (.node d)).map (Page.ofText (config.headings title name) ++ ·) := by
  rw [documentWithin, renderWithin, Value.shallow, document]
  nofun

/-- Rendering a well-typed schema ends with a page, and so does each visit that it makes, none of them deeper than one
level below the limit. The page is given back unless something keeps the schema from being shown: then the exception
for that gets out. -/
theorem documentWithin_ends (room : Nat) (defs : Definitions) {config : Config} (hc : config.Writable) {d : Descriptor}
    (h : WellTyped defs (.node d)) :
    ∃ page : Page, Visit.Renders (defs.shallow room) config (.top (.node (d.shallow room))) (.ok page) ∧
      ((renderWithin room defs config 0 (.node d) = .ok page ∧
          ∀ title name, documentWithin room defs config title name (.node d) =
            .ok (Page.ofText (config.headings title name) ++ page)) ∨
        ∃ why, Obstructs (defs.shallow room) (.node (d.shallow room)) why ∧
          renderWithin room defs config 0 (.node d) = .error (.ofObstacle why) ∧
          ∀ title name, documentWithin room defs config title name (.node d) = .error (.ofObstacle why)) ∧
      ∀ next, Visit.Makes (defs.shallow room) config (.top (.node (d.shallow room))) next →
        0 ≤ next.depth ∧ next.depth ≤ max 0 (config.maxDepth + 1) ∧
          UnwrapsWithin (defs.shallow room) config.maxDepth 0 next.copy next.value
            (next.value.unwrap (defs.shallow room) config.maxDepth next.copy) ∧
          ∃ block, Visit.Renders (defs.shallow room) config next (.ok block) := by
  have hshallow : WellTyped (defs.shallow room) (.node (d.shallow room)) := by
    have := h.shallow room
    rwa [Value.shallow] at this
  obtain ⟨page, hpage⟩ := Visit.exists_block_of_wellTyped config (.top (.node (d.shallow room))) hshallow
  have hrenders := Visit.renders_iff.mpr hpage
  have hrender : renderWithin room defs config 0 (.node d) = page.whole := by
    rw [renderWithin, Value.shallow]
    exact render_of_block hpage
  refine ⟨page, hrenders, ?_, fun next hnext => ?_⟩
  · rcases hrenders.whole hc le_rfl with hwhole | ⟨why, hwhy, hwhole⟩
    · refine .inl ⟨hrender.trans hwhole, fun title name => ?_⟩
      rw [documentWithin_eq, hrender, hwhole, Except.map]
    · refine .inr ⟨why, hwhy, hrender.trans hwhole, fun title name => ?_⟩
      rw [documentWithin_eq, hrender, hwhole, Except.map]
  · obtain ⟨block, hblock⟩ := Visit.exists_block_of_wellTyped config next (hshallow.below (Visit.reaches_of_makes hnext))
    exact ⟨depth_nonneg_of_makes hnext le_rfl, Visit.depth_le_of_makes hnext, unwrapsWithin_unwrap _ _ _ _, block,
      Visit.renders_iff.mpr hblock⟩

theorem writable_standard : Config.standard.Writable :=
  ⟨by simp [Config.standard], by simp [Config.standard], by simp [Config.standard], by simp [Config.standard],
    by simp [Config.standard], by simp [Config.standard], by simp [Config.standard], by simp [Config.standard],
    by simp [Config.standard], by simp [Config.standard]⟩

theorem not_obstructs_listRest (why : Obstacle) : ¬ Obstructs listDefinitions (.node listRest) why := by
  rintro (⟨below, text, gap⟩ | ⟨below, call, _, _⟩)
  · obtain ⟨d, hd, rfl⟩ := mem_listNodes_of_reaches below
    have hnone : ∀ d ∈ listNodes, ∀ t ∈ (Value.node d).ownTexts listDefinitions, t.hasGap = false := by decide
    exact Text.GapsIn.of_hasGap (P := fun _ => False) (hnone d hd _ text) why gap
  · obtain ⟨d, hd, heq⟩ := mem_listNodes_of_reaches below
    simp only [listNodes, List.mem_cons, List.not_mem_nil, or_false] at hd
    rcases hd with rfl | rfl | rfl | rfl <;> cases heq
    cases call

/-- The rest of the list is shown, with room for one container. -/
theorem renderWithin_listRest : Config.standard.Writable ∧ WellTyped listDefinitions (.node listRest) ∧
    ∃ page : Page, renderWithin 1 listDefinitions .standard 0 (.node listRest) = .ok page ∧
      ∀ title name, documentWithin 1 listDefinitions .standard title name (.node listRest) =
        .ok (Page.ofText (Config.standard.headings title name) ++ page) := by
  obtain ⟨page, _, hout | ⟨why, hwhy, _⟩, _⟩ := documentWithin_ends 1 listDefinitions writable_standard wellTyped_listRest
  · exact ⟨writable_standard, wellTyped_listRest, page, hout⟩
  · exact (not_obstructs_listRest why hwhy).elim

/-- What is raised where the value of a literal is written gets out. -/
theorem renderWithin_literal (hdepth : 0 ≤ config.maxDepth) {room : Nat} {v : Value} {why : Obstacle}
    (h : v.tokenObstacle? room = some why) (i : Identity) :
    renderWithin room defs config 0 (.node (.mk i .null (.literal v))) = .error (.ofObstacle why) := by
  have hshallow : v.shallow room = .unshown v.className why := by
    cases v with
    | list | tuple | set | frozenset | dict => simp only [Value.shallow, h]
    | _ => cases h
  obtain ⟨page, hpage, htext⟩ : ∃ page : Page,
      render (defs.shallow room) config 0 (.node (.mk i .null (.literal (.unshown v.className why)))) = page.whole ∧
        page.text = "Literal: " ++ [CodePoint.gap why] := render_of_blockWith rfl (fun _ => rfl) hdepth
  rw [renderWithin, Value.shallow, Descriptor.shallow, Body.shallow, hshallow, hpage, Page.whole, htext]
  simp

def nestedList : Nat → Value
  | 0 => .null
  | levels + 1 => .list [nestedList levels]

theorem tokenObstacle?_nestedList (room : Nat) : (nestedList (room + 1)).tokenObstacle? room = some .encodingTooDeep := by
  have hfate : Json.fate room (nestedList (room + 1)) = .tooDeep := by
    induction room with
    | zero => rfl
    | succ room ih =>
      rw [nestedList, Json.fate]
      simp only [List.isEmpty_cons, Bool.false_eq_true, if_false, Json.fateOfItems, ih, Json.Fate.and]
  exact congrArg Json.Fate.obstacle? hfate

/-- A list that is nested deeper than the stack has room for cannot be written, and that gets out. -/
theorem renderWithin_nestedList (hdepth : 0 ≤ config.maxDepth) (room : Nat) (i : Identity) :
    renderWithin room defs config 0 (.node (.mk i .null (.literal (nestedList (room + 1))))) =
      .error (.ofObstacle .encodingTooDeep) :=
  renderWithin_literal hdepth (tokenObstacle?_nestedList room) i

/-- A set of one object that cannot be written inside containers cannot be put in order, and what is raised there gets
out, whatever the text of the object itself and however much room the stack has. -/
theorem renderWithin_unwrittenItem (hdepth : 0 ≤ config.maxDepth) {x : Exotic} {why : Obstacle}
    (h : (Value.exotic x).written.obstacle? = some why) (room : Nat) (i : Identity) :
    renderWithin room defs config 0 (.node (.mk i .null (.literal (.set [.exotic x])))) = .error (.ofObstacle why) := by
  have hwriting : (Value.exotic x).writingObstacle? room = some why := h
  refine renderWithin_literal hdepth ?_ i
  simp [Value.tokenObstacle?, hwriting]

/-- A literal that is a set of one fraction with too many digits. -/
def longFractionLiteral : Descriptor := .mk ⟨0, [], 0⟩ .null (.literal (.set [longFraction]))

theorem renderWithin_longFractionLiteral_ne_ok : WellTyped [] (.node longFractionLiteral) ∧
    ∀ room, renderWithin room [] .standard 0 (.node longFractionLiteral) = .error (.ofObstacle .tooManyDigits) := by
  refine ⟨wellTyped_node ⟨.inl rfl, trivial⟩ fun w hw => ?_, fun room => ?_⟩
  · cases hw with
    | field child => cases child
  · exact renderWithin_unwrittenItem (by decide) (Exotic.obstacle?_written_ofRatio default le_rfl) room _

end Schematic
