import Schematic.Proofs.Copies
import Schematic.Proofs.Stacks

/-! The block of an array or of a record ends with a section for its element if that is an object, a union or
an intersection. Whether it is one is asked of the element as it stands there, before anything is unwrapped:
below a single layer of modifiers or behind a lazy node the same object has no section, and is not visited. -/
namespace Schematic

/-- Whether a value is an object, a union or an intersection itself. -/
def Value.isComplex : Value → Bool
  | .node d => d.isComplex
  | _ => false

/-- The descriptor holds an element below the text `lead`; the section of the element would stand under `label`. The
element of a record is what its values are. -/
inductive Descriptor.HoldsElement (config : Config) :
    (d : Descriptor) → (lead label : Text) → (element : Descriptor) → Prop
  | array (i : Identity) (description low high exact : Value) (element : Descriptor) :
      HoldsElement config (.mk i description (.array element low high exact))
        (withDescription ("Array of " ++ config.signature (.node element))
            (Value.node (.mk i description (.array element low high exact))).descriptionOrNull ++
          constraintList config (arrayLines low high exact))
        config.itemSchemaLabel element
  | record (i : Identity) (description : Value) (key value : Descriptor) :
      HoldsElement config (.mk i description (.record key value))
        (withDescription ("Record with keys of type " ++ config.signature (.node key) ++ " and values of type " ++
            config.signature (.node value)) (Value.node (.mk i description (.record key value))).descriptionOrNull)
        config.valueSchemaLabel value

/-- What is logged when a value is rendered at a depth. -/
def openingPage (canonical : Value) (depth : Int) : Page :=
  .log .debug ("Rendering " ++ canonical.fallbackName ++ " descriptor at depth " ++ Text.ofInt depth)

variable {defs : Definitions} {config : Config}

theorem Descriptor.HoldsElement.layout_eq {lead label : Text} {element d : Descriptor}
    (h : d.HoldsElement config lead label element) (copy : Nat) :
    layout defs config copy (.node d) = .ok (.text lead :: sectionParts label element) := by
  cases h <;> rfl

/-- A layer of modifiers is not complex, whatever is below it. -/
theorem isComplex_iff_of_stack {copy : Nat} {kinds : List Kind} {element : Descriptor} {base : Value}
    (h : Stack defs copy kinds (.node element) base) :
    element.isComplex = true ↔ kinds = [] ∧ base.isComplex = true := by
  cases h with
  | base => simp [Value.isComplex]
  | wrapper => simp [Descriptor.isComplex, Descriptor.body]
  | lazy => simp [Descriptor.isComplex, Descriptor.body]

namespace Visit

variable {visit : Visit} {d element : Descriptor} {copy : Nat} {lead label : Text}

section Opened

variable (hf : visit.finding defs config = .opened (.node d) copy) (hd : d.HoldsElement config lead label element)
include hf hd

theorem nested_eq_of_holdsElement :
    visit.nested defs config = if element.isComplex then [visit.child (.node d) copy (.node element)] else [] := by
  rw [nested, hf]
  simp only [hd.layout_eq, blocks_text, sectionParts]
  split_ifs <;> rfl

theorem block_eq_of_holdsElement :
    visit.block defs config = if element.isComplex then
        ((visit.child (.node d) copy (.node element)).block defs config).map fun (block : Page) =>
          openingPage (.node d) visit.depth ++ Page.ofText lead ++ Page.ofText ("\n\n" ++ label ++ "\n\n") ++ block
      else .ok (openingPage (.node d) visit.depth ++ Page.ofText lead) := by
  rw [block_eq, blockWith, hf]
  simp only [blockWith_eq, hd.layout_eq, Except.bind, renderParts, renderParts_section, childSection]
  split_ifs
  · cases (visit.child (.node d) copy (.node element)).block defs config with
    | error e => rfl
    | ok block => simp only [Except.map, openingPage, Page.append_assoc]
  · simp only [Except.map, Page.append_empty, openingPage]

end Opened

end Visit

/-- Wherever an array or a record is rendered, the block of its element stands in a section below the lead, if the
element itself is an object, a union or an intersection. Any other element is not rendered, and the block ends with the
lead. So of the elements that unwrap to an object, a union or an intersection those have a section that stand there
without any layer of modifiers. -/
theorem block_of_holdsElement {visit : Visit} {d element : Descriptor} {copy : Nat} {lead label : Text}
    (hf : visit.finding defs config = .opened (.node d) copy) (hd : d.HoldsElement config lead label element) :
    (element.isComplex = true →
      visit.nested defs config = [visit.child (.node d) copy (.node element)] ∧
      visit.block defs config =
        ((visit.child (.node d) copy (.node element)).block defs config).map fun (block : Page) =>
          openingPage (.node d) visit.depth ++ Page.ofText lead ++ Page.ofText ("\n\n" ++ label ++ "\n\n") ++ block) ∧
    (element.isComplex = false →
      visit.nested defs config = [] ∧
      visit.block defs config = .ok (openingPage (.node d) visit.depth ++ Page.ofText lead)) ∧
    ∀ (copy' : Nat) (kinds : List Kind) (base : Value), Stack defs copy' kinds (.node element) base →
      (element.isComplex = true ↔ kinds = [] ∧ base.isComplex = true) := by
  refine ⟨fun h => ?_, fun h => ?_, fun copy' kinds base hstack => isComplex_iff_of_stack hstack⟩
  · rw [Visit.nested_eq_of_holdsElement hf hd, Visit.block_eq_of_holdsElement hf hd, if_pos h, if_pos h]
    exact ⟨rfl, rfl⟩
  · have hnot : ¬ element.isComplex = true := by simp [h]
    rw [Visit.nested_eq_of_holdsElement hf hd, Visit.block_eq_of_holdsElement hf hd, if_neg hnot, if_neg hnot]
    exact ⟨rfl, rfl⟩

def emptyObject : Descriptor := .mk ⟨0, [0], 0⟩ .null (.object [])

def objectArray : Descriptor := .mk ⟨0, [], 0⟩ .null (.array emptyObject .null .null .null)

theorem holdsElement_objectArray :
    objectArray.HoldsElement .standard "Array of object" "**Item Schema:**" emptyObject :=
  .array ⟨0, [], 0⟩ .null .null .null .null emptyObject

theorem block_objectArray :
    (Visit.top (.node objectArray)).finding [] .standard = .opened (.node objectArray) 1 ∧
    emptyObject.isComplex = true ∧
    ∃ page, (Visit.top (.node objectArray)).block [] .standard = .ok page ∧
      page.text = "Array of object\n\n**Item Schema:**\n\n" ++ Table.header Config.standard.tableColumns := by
  have hf : (Visit.top (.node objectArray)).finding [] .standard = .opened (.node objectArray) 1 := rfl
  have hchild : ((Visit.top (.node objectArray)).child (.node objectArray) 1 (.node emptyObject)).block [] .standard =
      .ok (openingPage (.node emptyObject) 1 ++ Page.ofText (Table.header Config.standard.tableColumns)) := rfl
  obtain ⟨-, hblock⟩ := (block_of_holdsElement hf holdsElement_objectArray).1 rfl
  rw [hchild] at hblock
  exact ⟨hf, rfl, _, hblock, rfl⟩

def optionalObject : Descriptor := .mk ⟨0, [1], 0⟩ .null (.modified .optional emptyObject)

def optionalObjectArray : Descriptor := .mk ⟨0, [], 0⟩ .null (.array optionalObject .null .null .null)

/-- The page of an array of objects that may be left out. -/
def sectionlessPage : Page := openingPage (.node optionalObjectArray) 0 ++ Page.ofText "Array of object?"

theorem whole_sectionlessPage : sectionlessPage.whole = .ok sectionlessPage := by
  exact Page.whole_eq_ok (by decide)

/-- The element of the array unwraps to an object, and nothing but its signature is shown. -/
theorem block_optionalObjectArray_ne :
    (Value.node optionalObject).unwrap [] Config.standard.maxDepth 1 = .ok (.node emptyObject, 1) ∧
    emptyObject.isComplex = true ∧
    ∃ page, render [] .standard 0 (.node optionalObjectArray) = .ok page ∧ page.text = "Array of object?" ∧
      ¬ Config.standard.itemSchemaLabel <:+: page.text := by
  have hblock : (Visit.top (.node optionalObjectArray)).block [] .standard = .ok sectionlessPage := rfl
  exact ⟨rfl, rfl, _, (render_of_block hblock).trans whole_sectionlessPage, rfl, by decide⟩

end Schematic
