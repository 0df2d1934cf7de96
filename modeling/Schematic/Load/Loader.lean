import Schematic.Files.Tree
import Schematic.Json.Reader
import Schematic.Schema.Kind
import Schematic.Text.Utf8
import Schematic.Validation.Data
import Schematic.Value.Exception

/-! A schema is found by the path of a file and the name under which the file exports it. A `.json` file holds
an object of descriptors as plain data. Any other file is a module, which is imported: what running it comes
to, and what that does to the files, is left to an importer. Every way in which loading can fail is a
constructor of `LoadFailure`. Most are failures of the schema file; bytes that are no text, numbers of too
many digits, data that is nested too deep, paths of too long a name and exceptions that are passed on are not
reported as such. -/
namespace Schematic

inductive LoadFailure where
  | missingFile (path : Path)
  | notImportable (path : Path)
  | importFailed (path : Path) (e : Raised)
  | malformed (path : Path) (e : Json.ReadError)
  | missingExport (path : Path) (name : Value)
  | invalid (path : Path) (name : Value) (issues : List Issue)
  | notADescriptor (path : Path) (name : Value)
  | undecodable (e : Text.DecodeError)
  | tooManyDigits (e : Json.ReadError)
  | tooDeep (e : Json.ReadError)
  | unusablePath (e : FileError)
  | passedOn (e : Raised)

namespace LoadFailure

def blamesFile : LoadFailure → Bool
  | undecodable _ | tooManyDigits _ | tooDeep _ | unusablePath _ | passedOn _ => false
  | _ => true

def inQuotes (p : Path) : Text := "'" ++ p.toText ++ "'"

def message : LoadFailure → Text
  | missingFile path => "Schema file does not exist: " ++ path.toText
  | notImportable path => "Cannot import " ++ inQuotes path
  | importFailed path e => "Failed to import " ++ inQuotes path ++ ": " ++ e.message
  | malformed path e => "Invalid JSON in " ++ inQuotes path ++ ": " ++ e.message
  | missingExport path name => "Export '" ++ name.shown ++ "' not found in " ++ inQuotes path
  | invalid path name _ => "Export '" ++ name.shown ++ "' in " ++ inQuotes path ++ " is not a valid descriptor"
  | notADescriptor path name => "Export '" ++ name.shown ++ "' in " ++ inQuotes path ++ " is not a schema descriptor"
  | undecodable e => e.message
  | tooManyDigits e | tooDeep e => e.message
  | unusablePath e => e.message
  | passedOn e => e.message

/-- The class of the exception behind a failure of the file. -/
def cause? : LoadFailure → Option Text
  | importFailed _ e => some e.className
  | malformed _ _ => some "JSONDecodeError"
  | invalid _ _ _ => some "ValidationError"
  | _ => none

def className : LoadFailure → Text
  | undecodable _ => "UnicodeDecodeError"
  | tooManyDigits _ => "ValueError"
  | tooDeep _ => "RecursionError"
  | unusablePath _ => "OSError"
  | passedOn e => e.className
  | _ => "SchemaLoadError"

end LoadFailure

def unifyLines : Text → Text
  | [] => []
  | .char '\r' :: .char '\n' :: rest => .char '\n' :: unifyLines rest
  | .char '\r' :: rest => .char '\n' :: unifyLines rest
  | c :: rest => c :: unifyLines rest

def textOfBytes (bytes : List UInt8) : Except Text.DecodeError Text := (Text.decode bytes).map unifyLines

structure Schema where
  definitions : Definitions
  value : Value

/-- The export of a JSON file; the stack has room for `room` arrays and objects one inside the other. -/
def loadData (room : Nat) (path : Path) (bytes : List UInt8) (name : Value) : Except LoadFailure Descriptor :=
  match textOfBytes bytes with
  | .error e => .error (.undecodable e)
  | .ok t =>
    match Json.readWithin (some room) t with
    | .error (.tooManyDigits n) => .error (.tooManyDigits (.tooManyDigits n))
    | .error (.tooDeep isList) => .error (.tooDeep (.tooDeep isList))
    | .error e => .error (.malformed path e)
    | .ok data =>
      match data.entries?, name.keyFailure? with
      | none, _ => .error (.missingExport path name)
      | some _, some e => .error (.passedOn e)
      | some entries, none =>
        match Entries.get? name entries with
        | none => .error (.missingExport path name)
        | some v =>
          match v.toDescriptor default with
          | .ok d => .ok d
          | .faulty issues => .error (.invalid path name issues)

inductive Export where
  | missing
  | schema (v : Value)
  /-- Something that is no schema. -/
  | other
  /-- Looking it up raises an exception. -/
  | raised (e : Raised)

structure Module where
  definitions : Definitions
  lookUp : Text → Export

inductive Imported where
  /-- No file of such a name can be imported. -/
  | unsupported
  | module (m : Module)
  | failed (e : Raised)
  /-- A stop that is no error. -/
  | stopped (e : Raised)

/-- How files are imported: running a module may change the files too. -/
abbrev Importer := FileTree → Path → FileTree × Imported

structure Surroundings where
  workingDirectory : Path
  importer : Importer
  /-- How many arrays and objects of a data file the stack has room for, one inside the other. -/
  readingRoom : Nat
  /-- How many containers of a value that is shown the stack has room for, one inside the other. -/
  showingRoom : Nat

/-- The schema that an imported file exports under a name. -/
def Imported.export (path : Path) (name : Value) : Imported → Except LoadFailure Schema
  | unsupported => .error (.notImportable path)
  | stopped e => .error (.passedOn e)
  | failed e =>
    match e.message.obstacle? with
    | none => .error (.importFailed path e)
    | some why => .error (.passedOn (.ofObstacle why))
  | module m =>
    match name with
    | .text t =>
      match m.lookUp t with
      | .missing => .error (.missingExport path name)
      | .schema v => .ok ⟨m.definitions, v⟩
      | .other => .error (.notADescriptor path name)
      | .raised e => .error (.passedOn e)
    | v => .error (.passedOn (.noAttributeName v.typeName))

/-- The path that a value names, or what is raised where it names none. -/
def Path.ofValue (workingDirectory : Path) (v : Value) : Except Raised Path :=
  match v with
  | .text t =>
    match Path.unusable? t with
    | none => .ok (.ofText workingDirectory t)
    | some u => .error (.mk u.className [.text u.message])
  | v => .error (.mk "TypeError" [.text ("expected str, bytes or os.PathLike object, not " ++ v.typeName)])

/-- The schema that the file at a path exports under `name`, with the files as they are then. -/
def FileTree.exported (t : FileTree) (here : Surroundings) (path : Path) (name : Value) :
    FileTree × Except LoadFailure Schema :=
  match t.status path with
  | .nameTooLong => (t, .error (.unusablePath ⟨.nameTooLong, path⟩))
  | _ =>
    match t.content? path with
    | none => (t, .error (.missingFile path))
    | some bytes =>
      if path.suffix = (".json" : Text) then
        (t, (loadData here.readingRoom path bytes name).map fun d => ⟨[], .node d⟩)
      else
        let (after, imported) := here.importer t path
        (after, imported.export path name)

/-- The schema that the file at `place` exports under `name`, with the files as they are then. -/
def FileTree.load (t : FileTree) (here : Surroundings) (place name : Value) : FileTree × Except LoadFailure Schema :=
  match Path.ofValue here.workingDirectory place with
  | .error e => (t, .error (.passedOn e))
  | .ok path => t.exported here path name

end Schematic
