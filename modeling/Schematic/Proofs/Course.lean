import Mathlib.Data.List.TakeWhile
import Schematic.Cli.Run
import Schematic.Proofs.Layout

/-! What a run with arguments that were read can come to is listed here once, with the tree, the streams and
the end of each case: the schema is not loaded, there is no document, or the document is delivered and the
delivery succeeds or stops at one of its steps. Beside it stands what rendering does not depend on, the
settings of the log. -/
namespace Schematic

/-- The configuration with other settings for the log. -/
def Config.withLog (config : Config) (enabled : Bool) (level : Int) : Config :=
  { config with enableLogger := enabled, logLevel := level }

theorem blockWith_withLog (defs : Definitions) (config : Config) (enabled : Bool) (level : Int) (copy : Nat)
    (child : Value → Rendering) (canonical : Value) :
    blockWith defs (config.withLog enabled level) copy child canonical = blockWith defs config copy child canonical := by
  have hlayout : (config.withLog enabled level).SameLayout config := ⟨rfl, rfl, rfl, rfl, rfl, rfl⟩
  have hlook : (config.withLog enabled level).look defs copy = config.look defs copy := rfl
  rw [blockWith_eq, blockWith_eq, layout, layout, hlook, layoutWith_of_sameLayout hlayout]

/-- What is logged where does not touch the block of a value. -/
theorem renderIn_withLog (defs : Definitions) (config : Config) (enabled : Bool) (level : Int) (levels : Nat) (depth : Int)
    (ancestors : List Identity) (copy : Nat) (v : Value) :
    renderIn defs (config.withLog enabled level) levels depth ancestors copy v =
      renderIn defs config levels depth ancestors copy v := by
  induction levels generalizing depth ancestors copy v with
  | zero => rfl
  | succ levels ih =>
    have hlimit : (config.withLog enabled level).maxDepth = config.maxDepth := rfl
    have hchild : ∀ below copy, renderIn defs (config.withLog enabled level) levels (depth + 1) below copy =
        renderIn defs config levels (depth + 1) below copy := fun below copy => funext (ih (depth + 1) below copy)
    simp only [renderIn, hlimit, hchild, blockWith_withLog]
    rfl

namespace Text

/-- A text without halves of surrogate pairs. -/
def IsWritable (t : Text) : Prop := ∀ c ∈ t, c.isHalf = false

instance (t : Text) : Decidable t.IsWritable := inferInstanceAs (Decidable (∀ c ∈ t, c.isHalf = false))

def utf8 (t : Text) : List UInt8 := Cli.bytesOf t.toString

theorem isWritable_append {t u : Text} : (t ++ u).IsWritable ↔ t.IsWritable ∧ u.IsWritable := List.forall_mem_append

theorem encodable_of_isWritable {t : Text} (h : t.IsWritable) : t.encodable = .ok t.toString := by
  have hnone : t.dropWhile (fun c => !c.isHalf || false) = [] := by
    rw [List.dropWhile_eq_nil_iff]
    intro c hc
    simp [h c hc]
  rw [encodable, firstHalves, hnone]

theorem encodable_of_not_isWritable {t : Text} (h : ¬ t.IsWritable) : ∃ e, t.encodable = .error e := by
  have hsome : t.dropWhile (fun c => !c.isHalf || false) ≠ [] := by
    intro hnil
    rw [List.dropWhile_eq_nil_iff] at hnil
    apply h
    intro c hc
    simpa using hnil c hc
  obtain ⟨c, rest, hrest⟩ := List.exists_cons_of_ne_nil hsome
  exact ⟨_, by rw [encodable, firstHalves, hrest]⟩

end Text

namespace LoadFailure

/-- Whether a run reports the failure and ends with 1; all others go through. -/
def isReported : LoadFailure → Bool
  | unusablePath _ => true
  | f => f.blamesFile

def ending : LoadFailure → Cli.Ending
  | passedOn e => .ofRaised e
  | f => .raised f.className f.message

end LoadFailure

namespace Cli

theorem isWritable_separator : Text.IsWritable separator := by decide

/-- The content of a file after a document was written to it. -/
def amended (append : Bool) (content : Option (List UInt8)) (document : Text) : List UInt8 :=
  match append, content with
  | true, some old => old ++ (separator ++ document).utf8
  | _, _ => document.utf8

/-- The content of a file after the failure to write a text to it: a file that is not added to is empty then. -/
def spoiled (append : Bool) (content : Option (List UInt8)) : Option (List UInt8) :=
  match append, content with
  | true, some old => some old
  | _, _ => some []

def actionOn (append : Bool) (content : Option (List UInt8)) : Text :=
  match append, content with
  | true, some _ => "Appended to"
  | _, _ => "Written to"

theorem isWritable_actionOn (append : Bool) (content : Option (List UInt8)) : (actionOn append content).IsWritable := by
  unfold actionOn
  split <;> decide

theorem isWritable_line (append : Bool) (content : Option (List UInt8)) {p : Path} (hp : p.toText.IsWritable) :
    Text.IsWritable (actionOn append content ++ " " ++ p.toText) := by
  have hblank : Text.IsWritable " " := by decide
  rw [Text.isWritable_append, Text.isWritable_append]
  exact ⟨⟨isWritable_actionOn append content, hblank⟩, hp⟩

/-- What writing a document can come to, by what the files hold then. -/
inductive Writes (t : FileTree) (p : Path) (append : Bool) (document : Text) : FileTree × Except WriteFailure Text → Prop
  | blocked {made : FileTree} {e : FileError} (hkept : ∀ q, made.content? q = t.content? q) :
      Writes t p append document (made, .error (.file e))
  | written {made : FileTree} (hwritable : document.IsWritable)
      (hcontent : ∀ q, made.content? q = if q = p then some (amended append (t.content? p) document) else t.content? q) :
      Writes t p append document (made, .ok (actionOn append (t.content? p)))
  | spoiled {made : FileTree} {e : Text.EncodeError} (hwritable : ¬ document.IsWritable)
      (hcontent : ∀ q, made.content? q = if q = p then spoiled append (t.content? p) else t.content? q) :
      Writes t p append document (made, .error (.text e))

section Writing

variable {t made : FileTree} {p : Path} {append : Bool} {document : Text}

theorem writes_anew (hmade : ∀ q, made.content? q = t.content? q)
    (haction : actionOn append (t.content? p) = "Written to")
    (hamended : amended append (t.content? p) document = document.utf8)
    (hspoiled : Cli.spoiled append (t.content? p) = some []) :
    Writes t p append document (match document.encodable with
      | .ok s => (made.write p (bytesOf s), .ok "Written to")
      | .error e => (made.write p [], .error (.text e))) := by
  have hwrite : ∀ bytes q, (made.write p bytes).content? q = if q = p then some bytes else t.content? q := by
    intro bytes q
    rw [FileTree.content?_write, hmade]
  by_cases hwritable : document.IsWritable
  · rw [Text.encodable_of_isWritable hwritable, ← haction]
    refine .written hwritable ?_
    rw [hamended]
    exact hwrite _
  · obtain ⟨e, he⟩ := Text.encodable_of_not_isWritable hwritable
    rw [he]
    refine .spoiled hwritable ?_
    rw [hspoiled]
    exact hwrite _

theorem writes_more {old : List UInt8} (hmade : ∀ q, made.content? q = t.content? q) (hold : t.content? p = some old) :
    Writes t p true document (match Text.encodable (separator ++ document) with
      | .ok s => (made.write p (old ++ bytesOf s), .ok "Appended to")
      | .error e => (made, .error (.text e))) := by
  by_cases hwritable : document.IsWritable
  · rw [Text.encodable_of_isWritable (Text.isWritable_append.mpr ⟨isWritable_separator, hwritable⟩)]
    have haction : actionOn true (t.content? p) = "Appended to" := by rw [hold]; rfl
    rw [← haction]
    refine .written hwritable fun q => ?_
    rw [FileTree.content?_write, hmade, hold]
    rfl
  · have hnot : ¬ Text.IsWritable (separator ++ document) := fun h => hwritable (Text.isWritable_append.mp h).2
    obtain ⟨e, he⟩ := Text.encodable_of_not_isWritable hnot
    rw [he]
    refine .spoiled hwritable fun q => ?_
    by_cases hq : q = p
    · subst hq
      rw [hmade, if_pos rfl, hold]
      rfl
    · rw [hmade, if_neg hq]

theorem writes_writeDocument (t : FileTree) (p : Path) (append : Bool) (document : Text) :
    Writes t p append document (writeDocument t p append document) := by
  have hmade : ∀ q, (t.makeDirectory p.dropLast).1.content? q = t.content? q := t.content?_makeDirectory p.dropLast
  unfold writeDocument
  generalize t.makeDirectory p.dropLast = r at hmade
  obtain ⟨made, _ | e⟩ := r
  · simp only at hmade ⊢
    split
    · exact .blocked hmade
    · exact .blocked hmade
    · have hplace := hmade p
      cases append with
      | false => exact writes_anew hmade rfl rfl rfl
      | true =>
        cases hold : made.content? p with
        | none =>
          have hnew : t.content? p = none := by rw [← hplace, hold]
          apply writes_anew hmade <;> rw [hnew] <;> rfl
        | some old => exact writes_more hmade (by rw [← hplace, hold])
  · exact .blocked hmade

theorem writes_of_eq {r : FileTree × Except WriteFailure Text} (h : writeDocument t p append document = r) :
    Writes t p append document r := h ▸ writes_writeDocument t p append document

end Writing

section Delivering

variable (workingDirectory : Path) (t : FileTree) (a : Arguments)

/-- What delivering a document can come to; `log` is what was logged before. -/
inductive Delivers (log document : Text) : Result → Prop
  | printed (hplace : a.outputPath workingDirectory = none) (hwritable : document.IsWritable) :
      Delivers log document ⟨t, document ++ "\n", log, .exit 0⟩
  | unprinted {e : Text.EncodeError} (hplace : a.outputPath workingDirectory = none) (hwritable : ¬ document.IsWritable) :
      Delivers log document ⟨t, [], log, unwritable e⟩
  | nowhere {e : Raised} (hplace : a.outputPath workingDirectory = some (.error e)) :
      Delivers log document ⟨t, [], log, .raised e.className e.message⟩
  | written {p : Path} {made : FileTree} {action : Text} (hplace : a.outputPath workingDirectory = some (.ok p))
      (hresult : writeDocument t p a.append document = (made, .ok action)) (hline : Text.IsWritable (action ++ " " ++ p.toText)) :
      Delivers log document ⟨made, action ++ " " ++ p.toText ++ "\n", log, .exit 0⟩
  | unsaid {p : Path} {made : FileTree} {action : Text} {e : Text.EncodeError}
      (hplace : a.outputPath workingDirectory = some (.ok p))
      (hresult : writeDocument t p a.append document = (made, .ok action)) (hline : ¬ Text.IsWritable (action ++ " " ++ p.toText)) :
      Delivers log document ⟨made, [], log, unwritable e⟩
  | blocked {p : Path} {made : FileTree} {e : FileError} (hplace : a.outputPath workingDirectory = some (.ok p))
      (hresult : writeDocument t p a.append document = (made, .error (.file e))) :
      Delivers log document ⟨made, [], log ++ errorLine e.message, .exit 1⟩
  | spoiled {p : Path} {made : FileTree} {e : Text.EncodeError} (hplace : a.outputPath workingDirectory = some (.ok p))
      (hresult : writeDocument t p a.append document = (made, .error (.text e))) :
      Delivers log document ⟨made, [], log, unwritable e⟩

theorem delivers_deliver (log document : Text) :
    Delivers workingDirectory t a log document (deliver workingDirectory t a log document) := by
  unfold deliver
  cases hplace : a.outputPath workingDirectory with
  | none =>
    by_cases hwritable : document.IsWritable
    · simp only [Text.encodable_of_isWritable hwritable]
      exact .printed hplace hwritable
    · obtain ⟨e, he⟩ := Text.encodable_of_not_isWritable hwritable
      simp only [he]
      exact .unprinted hplace hwritable
  | some place =>
    cases place with
    | error e => exact .nowhere hplace
    | ok p =>
      cases hresult : writeDocument t p a.append document with
      | mk made outcome =>
        cases outcome with
        | ok action =>
          by_cases hline : Text.IsWritable (action ++ " " ++ p.toText)
          · simp only [hresult, Text.encodable_of_isWritable hline]
            exact .written hplace hresult hline
          · obtain ⟨e, he⟩ := Text.encodable_of_not_isWritable hline
            simp only [hresult, he]
            exact .unsaid hplace hresult hline
        | error failure =>
          simp only [hresult]
          cases failure with
          | file e => exact .blocked hplace hresult
          | text e => exact .spoiled hplace hresult

def openingLog (scene : Scene) (a : Arguments) : Text := (loggers a).written scene cliLogger (loadedRecord a).entry

def pageLog (scene : Scene) (a : Arguments) (page : Page) : Text :=
  openingLog scene a ++ page.records.flatMap fun r => (renderingLoggers a).written scene rendererLogger r.entry

end Delivering

section Running

variable (here : Surroundings) (t : FileTree) (a : Arguments)

/-- What loads the schema of a run, with the files as they are then. -/
def Arguments.load : FileTree × Except LoadFailure Schema := t.load here a.schema.toValue a.exportName.toValue

variable {here t a} {scene : Scene} {made : FileTree}

theorem execute_of_reported {failure : LoadFailure} (hload : a.load here t = (made, .error failure))
    (hreported : failure.isReported = true) :
    execute scene here t a = ⟨made, [], errorLine failure.message, .exit 1⟩ := by
  have hplace : t.load here a.schema.toValue a.exportName.toValue = (made, .error failure) := hload
  unfold execute
  rw [hplace]
  cases failure with
  | passedOn | undecodable | tooManyDigits | tooDeep => cases hreported
  | _ => rfl

theorem execute_of_unreported {failure : LoadFailure} (hload : a.load here t = (made, .error failure))
    (hreported : failure.isReported = false) : execute scene here t a = ⟨made, [], [], failure.ending⟩ := by
  have hplace : t.load here a.schema.toValue a.exportName.toValue = (made, .error failure) := hload
  unfold execute
  rw [hplace]
  cases failure with
  | passedOn | undecodable | tooManyDigits | tooDeep => rfl
  | _ => cases hreported

theorem execute_of_documentError {schema : Schema} {e : Raised} (hload : a.load here t = (made, .ok schema))
    (hdocument : a.document here.showingRoom schema = .error e) :
    execute scene here t a = ⟨made, [], openingLog scene a, .raised e.className e.message⟩ := by
  have hplace : t.load here a.schema.toValue a.exportName.toValue = (made, .ok schema) := hload
  unfold execute
  rw [hplace]
  simp only [hdocument, openingLog]

theorem execute_of_document {schema : Schema} {page : Page} (hload : a.load here t = (made, .ok schema))
    (hdocument : a.document here.showingRoom schema = .ok page) :
    execute scene here t a = deliver here.workingDirectory made a (pageLog scene a page) page.text := by
  have hplace : t.load here a.schema.toValue a.exportName.toValue = (made, .ok schema) := hload
  unfold execute
  rw [hplace]
  simp only [hdocument, pageLog, openingLog]

end Running

end Cli
end Schematic
