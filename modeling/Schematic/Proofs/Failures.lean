import Schematic.Proofs.Course
import Schematic.Proofs.Reading
import Schematic.Proofs.Shallow
import Schematic.Proofs.Visit

/-! A schema that cannot be loaded from a data file is reported as such, unless its place is no path or has
too long a name, its bytes are no text, it holds an integer of too many digits, or it is nested too deep. A
run reports what it cannot load or write and ends with 1; what else goes through it is listed with the
arguments and the files that bring it about. -/
namespace Schematic

namespace LoadFailure

theorem className_of_blamesFile {f : LoadFailure} (h : f.blamesFile = true) : f.className = "SchemaLoadError" := by
  cases f with
  | undecodable | tooManyDigits | tooDeep | unusablePath | passedOn => cases h
  | _ => rfl

theorem isReported_of_blamesFile {f : LoadFailure} (h : f.blamesFile = true) : f.isReported = true := by
  cases f with
  | unusablePath => rfl
  | _ => exact h

end LoadFailure

section Loading

variable {here : Surroundings} {t : FileTree} {place name : Text}

/-- The text of a data file is read up to its end, or to where it is no data. -/
inductive ReadsTo (here : Surroundings) (t : FileTree) (place : Text) : Except Json.ReadError Value → Prop
  | read {bytes : List UInt8} {text : Text} (hplace : Path.unusable? place = none)
      (hstatus : t.status (.ofText here.workingDirectory place) ≠ .nameTooLong)
      (hbytes : t.content? (.ofText here.workingDirectory place) = some bytes) (hdecode : textOfBytes bytes = .ok text) :
      ReadsTo here t place (Json.readWithin (some here.readingRoom) text)

/-- The failures to load a data file that are not reported as failures to load. -/
inductive Unread (here : Surroundings) (t : FileTree) (place : Text) : LoadFailure → Prop
  | unusable {u : Path.Unusable} (hplace : Path.unusable? place = some u) :
      Unread here t place (.passedOn (.mk u.className [.text u.message]))
  | tooLong (hplace : Path.unusable? place = none)
      (hstatus : t.status (.ofText here.workingDirectory place) = .nameTooLong) :
      Unread here t place (.unusablePath ⟨.nameTooLong, .ofText here.workingDirectory place⟩)
  | undecodable {bytes : List UInt8} {e : Text.DecodeError} (hplace : Path.unusable? place = none)
      (hstatus : t.status (.ofText here.workingDirectory place) ≠ .nameTooLong)
      (hbytes : t.content? (.ofText here.workingDirectory place) = some bytes) (hdecode : textOfBytes bytes = .error e) :
      Unread here t place (.undecodable e)
  | tooManyDigits {n : Nat} (hread : ReadsTo here t place (.error (.tooManyDigits n))) :
      Unread here t place (.tooManyDigits (.tooManyDigits n))
  | tooDeep {isList : Bool} (hread : ReadsTo here t place (.error (.tooDeep isList))) :
      Unread here t place (.tooDeep (.tooDeep isList))

theorem Unread.className_ne {f : LoadFailure} (h : Unread here t place f) : f.className ≠ "SchemaLoadError" := by
  have hnames : ∀ s ∈ ["ValueError", "UnicodeEncodeError", "OSError", "UnicodeDecodeError", "RecursionError"],
      Text.ofString s ≠ Text.ofString "SchemaLoadError" := by decide
  cases h with
  | @unusable u _ => cases u <;> exact hnames _ (by decide)
  | tooLong | undecodable | tooManyDigits | tooDeep => exact hnames _ (by decide)

/-- An entry of a data file is a descriptor made of data, or the file is to blame, or the name can be no key. -/
theorem loadData_of_read {room : Nat} (path : Path) {bytes : List UInt8} {text : Text} {data : Value}
    (hdecode : textOfBytes bytes = .ok text) (hread : Json.readWithin (some room) text = .ok data) (name : Value) :
    (∃ d, d.IsInert ∧ loadData room path bytes name = .ok d) ∨
      (∃ f, f.blamesFile = true ∧ loadData room path bytes name = .error f) ∨
        ∃ e, name.keyFailure? = some e ∧ loadData room path bytes name = .error (.passedOn e) := by
  have hdata := Json.isData_readWithin hread
  simp only [loadData, hdecode, hread]
  cases hentries : data.entries? with
  | none => exact .inr (.inl ⟨_, rfl, rfl⟩)
  | some entries =>
    cases hkey : name.keyFailure? with
    | some e => exact .inr (.inr ⟨e, rfl, rfl⟩)
    | none =>
      simp only
      cases hget : Entries.get? name entries with
      | none => exact .inr (.inl ⟨_, rfl, rfl⟩)
      | some v =>
        simp only
        cases hd : v.toDescriptor default with
        | faulty issues => exact .inr (.inl ⟨_, rfl, rfl⟩)
        | ok d =>
          have hv : v.IsData := Entries.forall_get? (hdata.entries _ hentries) hget
          exact .inl ⟨d, ⟨_, toDescriptor_inertWithin hv hd⟩, rfl⟩

theorem load_of_unusable {u : Path.Unusable} (hplace : Path.unusable? place = some u) (name : Value) :
    t.load here (.text place) name = (t, .error (.passedOn (.mk u.className [.text u.message]))) := by
  simp only [FileTree.load, Path.ofValue, hplace]

theorem load_of_usable (hplace : Path.unusable? place = none) (name : Value) :
    t.load here (.text place) name = t.exported here (.ofText here.workingDirectory place) name := by
  simp only [FileTree.load, Path.ofValue, hplace]

theorem exported_of_content? {path : Path} {bytes : List UInt8} (hstatus : t.status path ≠ .nameTooLong)
    (hsuffix : path.suffix = ".json") (hbytes : t.content? path = some bytes) (name : Value) :
    t.exported here path name = (t, (loadData here.readingRoom path bytes name).map fun d => ⟨[], .node d⟩) := by
  unfold FileTree.exported
  split
  · rename_i hlong
    exact (hstatus hlong).elim
  · rw [hbytes]
    exact if_pos hsuffix

theorem exported_of_missing {path : Path} (hstatus : t.status path ≠ .nameTooLong) (hbytes : t.content? path = none)
    (name : Value) : t.exported here path name = (t, .error (.missingFile path)) := by
  unfold FileTree.exported
  split
  · rename_i hlong
    exact (hstatus hlong).elim
  · rw [hbytes]

theorem Unread.load_eq {f : LoadFailure} (h : Unread here t place f)
    (hsuffix : (Path.ofText here.workingDirectory place).suffix = ".json") (name : Value) :
    t.load here (.text place) name = (t, .error f) := by
  cases h with
  | unusable hplace => exact load_of_unusable hplace _
  | tooLong hplace hstatus =>
    rw [load_of_usable hplace]
    simp only [FileTree.exported, hstatus]
  | undecodable hplace hstatus hbytes hdecode =>
    rw [load_of_usable hplace, exported_of_content? hstatus hsuffix hbytes]
    simp only [loadData, hdecode, Except.map]
  | tooManyDigits hread | tooDeep hread =>
    generalize hr : Except.error _ = r at hread
    obtain ⟨hplace, hstatus, hbytes, hdecode⟩ := hread
    rw [load_of_usable hplace, exported_of_content? hstatus hsuffix hbytes]
    simp only [loadData, hdecode, ← hr, Except.map]

/-- What loading a data file comes to: a descriptor made of data, a failure that blames the file, or one that is
not reported as such. -/
theorem load_cases (hsuffix : (Path.ofText here.workingDirectory place).suffix = ".json") (name : Value) :
    (∃ d, d.IsInert ∧ t.load here (.text place) name = (t, .ok ⟨[], .node d⟩)) ∨
      (∃ f, f.blamesFile = true ∧ t.load here (.text place) name = (t, .error f)) ∨
        (∃ f, Unread here t place f) ∨
          ∃ e, name.keyFailure? = some e ∧ t.load here (.text place) name = (t, .error (.passedOn e)) := by
  cases hplace : Path.unusable? place with
  | some u => exact .inr (.inr (.inl ⟨_, .unusable hplace⟩))
  | none =>
    rw [load_of_usable hplace]
    by_cases hstatus : t.status (.ofText here.workingDirectory place) = .nameTooLong
    · exact .inr (.inr (.inl ⟨_, .tooLong hplace hstatus⟩))
    · cases hbytes : t.content? (.ofText here.workingDirectory place) with
      | none => exact .inr (.inl ⟨.missingFile _, rfl, exported_of_missing hstatus hbytes _⟩)
      | some bytes =>
        rw [exported_of_content? hstatus hsuffix hbytes]
        cases hdecode : textOfBytes bytes with
        | error e => exact .inr (.inr (.inl ⟨_, .undecodable hplace hstatus hbytes hdecode⟩))
        | ok text =>
          have hreads : ReadsTo here t place _ := .read hplace hstatus hbytes hdecode
          cases hread : Json.readWithin (some here.readingRoom) text with
          | ok data =>
            rcases loadData_of_read (.ofText here.workingDirectory place) hdecode hread name with
              ⟨d, hinert, hd⟩ | ⟨f, hblames, hf⟩ | ⟨e, hkey, he⟩
            · exact .inl ⟨d, hinert, by rw [hd]; rfl⟩
            · exact .inr (.inl ⟨f, hblames, by rw [hf]; rfl⟩)
            · exact .inr (.inr (.inr ⟨e, hkey, by rw [he]; rfl⟩))
          | error e =>
            rw [hread] at hreads
            cases e with
            | tooManyDigits n => exact .inr (.inr (.inl ⟨_, .tooManyDigits hreads⟩))
            | tooDeep isList => exact .inr (.inr (.inl ⟨_, .tooDeep hreads⟩))
            | malformed trouble position line column =>
              have hloaded : loadData here.readingRoom (.ofText here.workingDirectory place) bytes name =
                  .error (.malformed (.ofText here.workingDirectory place) (.malformed trouble position line column)) := by
                simp only [loadData, hdecode, hread]
              exact .inr (.inl ⟨_, rfl, by rw [hloaded]; rfl⟩)

/-- Loading a data file fails otherwise than as a failure to load for the reasons listed, and for no others. -/
theorem load_error_iff_unread (hsuffix : (Path.ofText here.workingDirectory place).suffix = ".json") (name : Text)
    (f : LoadFailure) :
    (t.load here (.text place) (.text name)).2 = .error f ∧ f.className ≠ "SchemaLoadError" ↔ Unread here t place f := by
  constructor
  · rintro ⟨hload, hname⟩
    rcases load_cases hsuffix (.text name) with ⟨d, _, hd⟩ | ⟨f', hblames, hf'⟩ | ⟨f', hf'⟩ | ⟨e, hkey, _⟩
    · rw [hd] at hload
      cases hload
    · rw [hf'] at hload
      obtain rfl := Except.error.inj hload
      exact (hname (LoadFailure.className_of_blamesFile hblames)).elim
    · rw [hf'.load_eq hsuffix] at hload
      obtain rfl := Except.error.inj hload
      exact hf'
    · cases hkey
  · intro h
    exact ⟨congrArg Prod.snd (h.load_eq hsuffix (.text name)), h.className_ne⟩

end Loading

namespace Cli

section Running

variable {here : Surroundings} {t : FileTree} {a : Arguments} {place : Text}

/-- The document of a descriptor made of data fails only for want of a depth or because something in it cannot be
shown. -/
theorem document_of_isInert {room : Nat} {d : Descriptor} (hd : d.IsInert) {e : Raised}
    (h : a.document room ⟨[], .node d⟩ = .error e) : a.maxDepth = none ∨ ∃ why, e = .ofObstacle why := by
  cases hdepth : a.maxDepth with
  | none => exact .inl rfl
  | some n =>
    obtain ⟨levels, hinert⟩ := hd
    have htyped : WellTyped (Definitions.shallow room []) (.node (d.shallow room)) := by
      have := (hinert.wellTyped []).shallow room
      rwa [Value.shallow] at this
    obtain ⟨page, hpage⟩ := Visit.exists_block_of_wellTyped (a.config n) (.top (.node (d.shallow room))) htyped
    rw [Arguments.document, hdepth] at h
    simp only [documentWithin, Value.shallow, Schematic.document, render_of_block hpage, Page.whole] at h
    split at h
    · exact .inr ⟨_, (Except.error.inj h).symm⟩
    · cases h

/-- Whether the way to the output stops a document before its text is written. -/
def IsBlocked (workingDirectory : Path) (t : FileTree) (a : Arguments) (document : Text) : Prop :=
  ∃ p made e, a.outputPath workingDirectory = some (.ok p) ∧
    writeDocument t p a.append document = (made, .error (.file e))

/-- What makes an exception go through a run: a schema file that is not read, a switch that was given nothing,
something that cannot be shown, or a text that cannot be written or printed. -/
inductive Escapes (here : Surroundings) (t : FileTree) (a : Arguments) : Prop
  | schema {place : Text} {f : LoadFailure} (hschema : a.schema = .text place) (hunread : Unread here t place f)
      (hreported : f.isReported = false)
  | exportName (hnothing : a.exportName = .nothing)
      (hload : a.load here t = (t, .error (.passedOn (.noKey "list"))))
  | depth {schema : Schema} (hload : a.load here t = (t, .ok schema)) (hnothing : a.maxDepth = none)
  | unshown {schema : Schema} {why : Obstacle} (hload : a.load here t = (t, .ok schema))
      (hdocument : a.document here.showingRoom schema = .error (.ofObstacle why))
  | output {schema : Schema} {page : Page} {e : Raised} (hload : a.load here t = (t, .ok schema))
      (hdocument : a.document here.showingRoom schema = .ok page)
      (hplace : a.outputPath here.workingDirectory = some (.error e))
  | text {schema : Schema} {page : Page} (hload : a.load here t = (t, .ok schema))
      (hdocument : a.document here.showingRoom schema = .ok page)
      (hfree : ¬ IsBlocked here.workingDirectory t a page.text) (hunwritable : ¬ page.text.IsWritable)
  | line {schema : Schema} {page : Page} {p : Path} (hload : a.load here t = (t, .ok schema))
      (hdocument : a.document here.showingRoom schema = .ok page)
      (hfree : ¬ IsBlocked here.workingDirectory t a page.text)
      (hplace : a.outputPath here.workingDirectory = some (.ok p)) (hunwritable : ¬ p.toText.IsWritable)

/-- A run that ends with 0, or reports one failure and ends with 1, or goes through for a known reason. -/
inductive Ends (scene : Scene) (here : Surroundings) (t : FileTree) (a : Arguments) : Result → Prop
  | success {tree : FileTree} {stdout stderr : Text} : Ends scene here t a ⟨tree, stdout, stderr, .exit 0⟩
  | reported {tree : FileTree} {log message : Text} (hlog : log = [] ∨ ∃ page, log = pageLog scene a page) :
      Ends scene here t a ⟨tree, [], log ++ errorLine message, .exit 1⟩
  | raised {tree : FileTree} {stdout stderr className message : Text} (hescapes : Escapes here t a) :
      Ends scene here t a ⟨tree, stdout, stderr, .raised className message⟩

theorem not_isBlocked {workingDirectory : Path} {p : Path} {made : FileTree} {document : Text}
    {outcome : Except WriteFailure Text} (hplace : a.outputPath workingDirectory = some (.ok p))
    (hresult : writeDocument t p a.append document = (made, outcome)) (houtcome : ∀ e, outcome ≠ .error (.file e)) :
    ¬ IsBlocked workingDirectory t a document := by
  rintro ⟨p', made', e, hplace', hblocked⟩
  rw [hplace] at hplace'
  cases hplace'
  rw [hresult] at hblocked
  exact houtcome e (Prod.mk.inj hblocked).2

theorem ends_of_delivers {scene : Scene} {schema : Schema} {page : Page} {r : Result}
    (hload : a.load here t = (t, .ok schema)) (hdocument : a.document here.showingRoom schema = .ok page)
    (hdelivers : Delivers here.workingDirectory t a (pageLog scene a page) page.text r) : Ends scene here t a r := by
  cases hdelivers with
  | printed | written => exact .success
  | unprinted hplace hunwritable =>
    refine .raised (.text hload hdocument ?_ hunwritable)
    rintro ⟨p, made, e, hsome, _⟩
    rw [hplace] at hsome
    cases hsome
  | nowhere hplace => exact .raised (.output hload hdocument hplace)
  | unsaid hplace hresult hline =>
    have hfree := not_isBlocked hplace hresult (by simp)
    cases writes_of_eq hresult with
    | written => exact .raised (.line hload hdocument hfree hplace fun hp => hline (isWritable_line _ _ hp))
  | blocked => exact .reported (.inr ⟨page, rfl⟩)
  | spoiled hplace hresult =>
    have hfree := not_isBlocked hplace hresult (by simp)
    cases writes_of_eq hresult with
    | spoiled hunwritable => exact .raised (.text hload hdocument hfree hunwritable)

theorem ofRaised_eq_raised {e : Raised} (h : e.className ≠ "SystemExit") :
    Ending.ofRaised e = .raised e.className e.message := by
  rw [Ending.ofRaised, if_neg h]

theorem ending_of_unread {f : LoadFailure} (h : Unread here t place f) :
    ∃ className message, f.ending = .raised className message := by
  have hnames : ∀ s ∈ ["ValueError", "UnicodeEncodeError"], Text.ofString s ≠ Text.ofString "SystemExit" := by decide
  cases h with
  | @unusable u _ => cases u <;> exact ⟨_, _, ofRaised_eq_raised (hnames _ (by decide))⟩
  | tooLong | undecodable | tooManyDigits | tooDeep => exact ⟨_, _, rfl⟩

theorem ends_execute (hschema : a.schema = .text place)
    (hsuffix : (Path.ofText here.workingDirectory place).suffix = ".json") (scene : Scene) :
    Ends scene here t a (execute scene here t a) := by
  have hplace : a.load here t = t.load here (.text place) a.exportName.toValue := by
    rw [Arguments.load, hschema]
    rfl
  rcases load_cases (t := t) hsuffix a.exportName.toValue with
    ⟨d, hinert, hd⟩ | ⟨f, hblames, hf⟩ | ⟨f, hunread⟩ | ⟨e, hkey, he⟩
  · rw [← hplace] at hd
    cases hdocument : a.document here.showingRoom ⟨[], .node d⟩ with
    | error e =>
      rw [execute_of_documentError hd hdocument]
      rcases document_of_isInert hinert hdocument with hdepth | ⟨why, rfl⟩
      · exact .raised (.depth hd hdepth)
      · exact .raised (.unshown hd hdocument)
    | ok page =>
      rw [execute_of_document hd hdocument]
      exact ends_of_delivers hd hdocument (delivers_deliver _ _ _ _ _)
  · rw [execute_of_reported (hplace.trans hf) (LoadFailure.isReported_of_blamesFile hblames)]
    exact .reported (.inl rfl)
  · have hload := hplace.trans (hunread.load_eq hsuffix _)
    cases hreported : f.isReported with
    | true =>
      rw [execute_of_reported hload hreported]
      exact .reported (.inl rfl)
    | false =>
      obtain ⟨className, message, hending⟩ := ending_of_unread hunread
      rw [execute_of_unreported hload hreported, hending]
      exact .raised (.schema hschema hunread hreported)
  · rw [← hplace] at he
    cases hname : a.exportName with
    | text name =>
      rw [hname] at hkey
      cases hkey
    | nothing =>
      rw [hname] at hkey
      obtain rfl := Option.some.inj hkey
      have hclass : (Raised.noKey "list").className ≠ "SystemExit" := by decide
      rw [execute_of_unreported he rfl, LoadFailure.ending, ofRaised_eq_raised hclass]
      exact .raised (.exportName hname he)

/-- A delivery that nothing stops raises, if a text cannot be written or printed. -/
theorem raised_of_delivers {workingDirectory : Path} {log document : Text} {r : Result}
    (hdelivers : Delivers workingDirectory t a log document r) (hfree : ¬ IsBlocked workingDirectory t a document)
    (htext : ¬ document.IsWritable ∨ ∃ p, a.outputPath workingDirectory = some (.ok p) ∧ ¬ p.toText.IsWritable) :
    ∃ className message, r.ending = .raised className message := by
  cases hdelivers with
  | unprinted | nowhere | unsaid | spoiled => exact ⟨_, _, rfl⟩
  | blocked hplace hresult => exact (hfree ⟨_, _, _, hplace, hresult⟩).elim
  | printed hplace hwritable =>
    rcases htext with hdocument | ⟨p, hsome, _⟩
    · exact (hdocument hwritable).elim
    · rw [hplace] at hsome
      cases hsome
  | written hplace hresult hline =>
    cases writes_of_eq hresult with
    | written hwritable =>
      rcases htext with hdocument | ⟨p, hsome, hpath⟩
      · exact (hdocument hwritable).elim
      · rw [hplace] at hsome
        cases hsome
        exact (hpath (Text.isWritable_append.mp hline).2).elim

theorem raised_of_escapes (h : Escapes here t a)
    (hsuffix : ∀ place, a.schema = .text place → (Path.ofText here.workingDirectory place).suffix = ".json")
    (scene : Scene) : ∃ className message, (execute scene here t a).ending = .raised className message := by
  cases h with
  | @schema place f hschema hunread hreported =>
    have hload : a.load here t = (t, .error f) := by
      rw [Arguments.load, hschema]
      exact hunread.load_eq (hsuffix _ hschema) _
    rw [execute_of_unreported hload hreported]
    exact ending_of_unread hunread
  | exportName _ hload =>
    have hclass : (Raised.noKey "list").className ≠ "SystemExit" := by decide
    rw [execute_of_unreported hload rfl]
    exact ⟨_, _, ofRaised_eq_raised hclass⟩
  | @depth schema hload hnothing =>
    have hdocument : ∃ e, a.document here.showingRoom schema = .error e := by
      rw [Arguments.document, hnothing]
      exact ⟨_, rfl⟩
    obtain ⟨e, he⟩ := hdocument
    rw [execute_of_documentError hload he]
    exact ⟨_, _, rfl⟩
  | unshown hload hdocument =>
    rw [execute_of_documentError hload hdocument]
    exact ⟨_, _, rfl⟩
  | output hload hdocument hplace =>
    rw [execute_of_document hload hdocument, deliver, hplace]
    exact ⟨_, _, rfl⟩
  | text hload hdocument hfree hunwritable =>
    rw [execute_of_document hload hdocument]
    exact raised_of_delivers (delivers_deliver _ _ _ _ _) hfree (.inl hunwritable)
  | line hload hdocument hfree hplace hunwritable =>
    rw [execute_of_document hload hdocument]
    exact raised_of_delivers (delivers_deliver _ _ _ _ _) hfree (.inr ⟨_, hplace, hunwritable⟩)

end Running

/-- A data file is loaded, or fails to load as such, but for the failures listed; and an exception goes through a run
with a data file for the reasons listed only: all other runs end with 0, or report one failure and end with 1. -/
theorem run_of_data_file (here : Surroundings) (t : FileTree) (place : Text)
    (hsuffix : (Path.ofText here.workingDirectory place).suffix = ".json") :
    (∀ name f, (t.load here (.text place) (.text name)).2 = .error f ∧ f.className ≠ "SchemaLoadError" ↔
      Unread here t place f) ∧
    ∀ scene texts a, Arguments.ofTexts texts = .ok a → a.schema = .text place →
      ((∃ className message, (run scene here t texts).ending = .raised className message) ↔ Escapes here t a) ∧
      (¬ Escapes here t a →
        (run scene here t texts).ending = .exit 0 ∨
        ((run scene here t texts).ending = .exit 1 ∧ (run scene here t texts).stdout = [] ∧
          ∃ log message, (log = [] ∨ ∃ page, log = pageLog scene a page) ∧
            (run scene here t texts).stderr = escapeHalves (log ++ errorLine message))) := by
  refine ⟨fun name f => load_error_iff_unread hsuffix name f, fun scene texts a harguments hschema => ?_⟩
  have hplace : ∀ place', a.schema = .text place' → (Path.ofText here.workingDirectory place').suffix = ".json" := by
    intro place' hplace'
    rw [hschema] at hplace'
    cases hplace'
    exact hsuffix
  have hraised := fun h : Escapes here t a => raised_of_escapes h hplace scene
  have hends := ends_execute (t := t) hschema hsuffix scene
  simp only [run, harguments]
  generalize execute scene here t a = r at hends hraised
  refine ⟨⟨fun h => ?_, hraised⟩, fun hescapes => ?_⟩
  · obtain ⟨className, message, hending⟩ := h
    cases hends with
    | success | reported => cases hending
    | raised hescapes => exact hescapes
  · cases hends with
    | success => exact .inl rfl
    | reported hlog => exact .inr ⟨rfl, rfl, _, _, hlog, rfl⟩
    | raised h => exact (hescapes h).elim

def kindlessTree : FileTree := ⟨[], [(["f.json"], bytesOf "\x7b\"user\":\x7b\x7d\x7d")]⟩

def byteTree : FileTree := ⟨[], [(["f.json"], [0xff])]⟩

def showUser : List Text := ["-s", "f.json", "-e", "user", "-t", "T"]

def userArguments : Arguments where
  schema := .text "f.json"
  exportName := .text "user"
  title := .text "T"
  name := none
  output := none
  append := false
  maxDepth := some 64
  verbose := false

theorem ofTexts_showUser : Arguments.ofTexts showUser = .ok userArguments := by decide +kernel

def closed : Surroundings := ⟨[], fun t _ => (t, .unsupported), 990, 980⟩

theorem suffix_userArguments : (Path.ofText closed.workingDirectory "f.json").suffix = ".json" := by decide

theorem exists_load_kindlessTree :
    ∃ f, f.blamesFile = true ∧ kindlessTree.load closed (.text "f.json") (.text "user") = (kindlessTree, .error f) := by
  have hblames : (match (kindlessTree.load closed (.text "f.json") (.text "user")).2 with
      | .error f => f.blamesFile
      | .ok _ => false) = true := by decide +kernel
  rcases load_cases suffix_userArguments (.text "user") with ⟨d, _, hd⟩ | hf | ⟨f, hunread⟩ | ⟨e, hkey, _⟩
  · rw [hd] at hblames
    cases hblames
  · exact hf
  · have hload := hunread.load_eq suffix_userArguments (.text "user")
    rw [hload] at hblames
    exact ⟨f, hblames, hload⟩
  · cases hkey

theorem run_of_kindless_file : (Path.ofText closed.workingDirectory "f.json").suffix = ".json" ∧
    Arguments.ofTexts showUser = .ok userArguments ∧ ¬ Escapes closed kindlessTree userArguments ∧
    (run (.ofTime []) closed kindlessTree showUser).ending = .exit 1 ∧ (run (.ofTime []) closed kindlessTree showUser).stdout = [] ∧
    ∃ log message, (run (.ofTime []) closed kindlessTree showUser).stderr = escapeHalves (log ++ errorLine message) := by
  obtain ⟨hunread, hruns⟩ := run_of_data_file closed kindlessTree "f.json" suffix_userArguments
  obtain ⟨f, hblames, hload⟩ := exists_load_kindlessTree
  have hnone : userArguments.load closed kindlessTree = (kindlessTree, .error f) := hload
  have hescapes : ¬ Escapes closed kindlessTree userArguments := by
    intro h
    cases h with
    | schema hschema hunread' _ =>
      obtain rfl := Given.text.inj hschema
      obtain ⟨hload', hname⟩ := (hunread "user" _).mpr hunread'
      rw [hload] at hload'
      obtain rfl := Except.error.inj hload'
      exact hname (LoadFailure.className_of_blamesFile hblames)
    | exportName hnothing => cases hnothing
    | depth hok | unshown hok | output hok | text hok | line hok =>
      rw [hnone] at hok
      cases hok
  refine ⟨suffix_userArguments, ofTexts_showUser, hescapes, ?_⟩
  rcases (hruns (.ofTime []) showUser userArguments ofTexts_showUser rfl).2 hescapes with hsuccess | ⟨hending, hstdout, hreport⟩
  · simp only [run, ofTexts_showUser, execute_of_reported hnone (LoadFailure.isReported_of_blamesFile hblames)] at hsuccess
    cases hsuccess
  · obtain ⟨log, message, _, hstderr⟩ := hreport
    exact ⟨hending, hstdout, log, message, hstderr⟩

/-- Bytes that are no text fail otherwise than as a failure to load, and go through a run. -/
theorem run_of_byte_file :
    (∃ f, (byteTree.load closed (.text "f.json") (.text "user")).2 = .error f ∧ f.className = "UnicodeDecodeError") ∧
    ∃ message, (run (.ofTime []) closed byteTree showUser).ending = .raised "UnicodeDecodeError" message := by
  have hdecode : textOfBytes [0xff] = .error ⟨0xff, 0, 1, .invalidStart⟩ := by decide +kernel
  have hunread : Unread closed byteTree "f.json" (.undecodable ⟨0xff, 0, 1, .invalidStart⟩) :=
    .undecodable (by decide) (by decide) (by decide) hdecode
  have hload : byteTree.load closed userArguments.schema.toValue userArguments.exportName.toValue = (byteTree, .error _) :=
    hunread.load_eq suffix_userArguments (.text "user")
  refine ⟨⟨_, congrArg Prod.snd hload, rfl⟩, ?_⟩
  simp only [run, ofTexts_showUser, execute, hload]
  exact ⟨_, rfl⟩

end Cli
end Schematic
