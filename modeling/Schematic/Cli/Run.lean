import Schematic.Cli.Arguments
import Schematic.Load.Loader
import Schematic.Markdown.Document
import Schematic.Markdown.Session

/-! A run loads a schema, renders it, and prints the document or writes it to a file. It is a function of the
file tree, what is around it, the arguments and what log lines can show; it gives the tree that it leaves,
what it writes to both streams, and how it ends. Apart from what an imported module does, only a run that
writes a document changes the tree, and only at the path of its output. -/
namespace Schematic.Cli

inductive Ending where
  | exit (code : Nat)
  /-- A stop that was asked for, with the number or the word that was given; null where there was none. -/
  | stopped (word : Value)
  /-- An exception that nothing handles. -/
  | raised (className message : Text)

def Ending.ofRaised (e : Raised) : Ending :=
  if e.className = ("SystemExit" : Text) then
    .stopped (match e.arguments with
      | [] => .null
      | [v] => v
      | vs => .tuple vs)
  else .raised e.className e.message

structure Result where
  tree : FileTree
  stdout : Text
  stderr : Text
  ending : Ending

/-- A text as the error stream shows it: a half that cannot be written is shown as its escape. -/
def escapeHalves (t : Text) : Text := t.flatMap fun c => if c.isHalf then Text.numbered c.toNat else [c]

def unwritable (e : Text.EncodeError) : Ending := .raised "UnicodeEncodeError" e.message

inductive WriteFailure where
  | file (e : FileError)
  | text (e : Text.EncodeError)

def bytesOf (s : String) : List UInt8 := s.toUTF8.toList

def separator : Text := "\n\n"

/-- Write a document to a file, or add it at the end of one. A file that is written anew is emptied
before anything can go wrong with the text. -/
def writeDocument (t : FileTree) (p : Path) (append : Bool) (document : Text) :
    FileTree × Except WriteFailure Text :=
  match t.makeDirectory p.dropLast with
  | (made, some e) => (made, .error (.file e))
  | (made, none) =>
    match made.status p with
    | .directory => (made, .error (.file ⟨.isADirectory, p⟩))
    | .nameTooLong => (made, .error (.file ⟨.nameTooLong, p⟩))
    | _ =>
      match append, made.content? p with
      | true, some old =>
        match Text.encodable (separator ++ document) with
        | .ok s => (made.write p (old ++ bytesOf s), .ok "Appended to")
        | .error e => (made, .error (.text e))
      | _, _ =>
        match Text.encodable document with
        | .ok s => (made.write p (bytesOf s), .ok "Written to")
        | .error e => (made.write p [], .error (.text e))

namespace Arguments

def level (a : Arguments) : Level := if a.verbose then .info else .warning

def config (a : Arguments) (maxDepth : Int) : Config :=
  { Config.standard with maxDepth := maxDepth, logLevel := a.level.number }

def schemaName (a : Arguments) : Text := (a.name.bind Given.text?).getD a.exportName.shown

def outputPath (workingDirectory : Path) (a : Arguments) : Option (Except Raised Path) :=
  (a.output.bind Given.text?).map fun t => Path.ofValue workingDirectory (.text t)

end Arguments

def cliLogger : Text := "schemadoc.cli"

def loggers (a : Arguments) : Registry :=
  Registry.initial.configure { LoggerConfig.standard with name := cliLogger, level := a.level.number }

def renderingLoggers (a : Arguments) : Registry := (loggers a).configure (a.config 0).loggerConfig

/-- The document of a schema. A depth cannot be compared with nothing. -/
def Arguments.document (a : Arguments) (room : Nat) (schema : Schema) : Rendering :=
  match a.maxDepth with
  | some n => documentWithin room schema.definitions (a.config n) a.title.shown (some a.schemaName) schema.value
  | none => .error (.mk "TypeError" [.text "'>' not supported between instances of 'int' and 'list'"])

def loadedRecord (a : Arguments) : Record :=
  ⟨.info, "Loaded '" ++ a.exportName.shown ++ "' from " ++ a.schema.shown⟩

def errorLine (message : Text) : Text := "Error: " ++ message ++ "\n"

/-- Print or write a document; `log` is what was logged before. -/
def deliver (workingDirectory : Path) (t : FileTree) (a : Arguments) (log document : Text) : Result :=
  let print (tree : FileTree) (line : Text) : Result :=
    match Text.encodable line with
    | .ok _ => ⟨tree, line ++ "\n", log, .exit 0⟩
    | .error e => ⟨tree, [], log, unwritable e⟩
  match a.outputPath workingDirectory with
  | none => print t document
  | some (.error e) => ⟨t, [], log, .raised e.className e.message⟩
  | some (.ok p) =>
    match writeDocument t p a.append document with
    | (tree, .ok action) => print tree (action ++ " " ++ p.toText)
    | (tree, .error (.file e)) => ⟨tree, [], log ++ errorLine e.message, .exit 1⟩
    | (tree, .error (.text e)) => ⟨tree, [], log, unwritable e⟩

def execute (scene : Scene) (here : Surroundings) (t : FileTree) (a : Arguments) : Result :=
  match t.load here a.schema.toValue a.exportName.toValue with
  | (made, .error (.unusablePath e)) => ⟨made, [], errorLine e.message, .exit 1⟩
  | (made, .error (.passedOn e)) => ⟨made, [], [], Ending.ofRaised e⟩
  | (made, .error failure) =>
    if failure.blamesFile then ⟨made, [], errorLine failure.message, .exit 1⟩
    else ⟨made, [], [], .raised failure.className failure.message⟩
  | (made, .ok schema) =>
    let opening := (loggers a).written scene cliLogger (loadedRecord a).entry
    match a.document here.showingRoom schema with
    | .error e => ⟨made, [], opening, .raised e.className e.message⟩
    | .ok page =>
      let log := opening ++ page.records.flatMap fun r => (renderingLoggers a).written scene rendererLogger r.entry
      deliver here.workingDirectory made a log page.text

def run (scene : Scene) (here : Surroundings) (t : FileTree) (texts : List Text) : Result :=
  let result : Result := match Arguments.ofTexts texts with
    | .error .helpWanted => ⟨t, help, [], .exit 0⟩
    | .error (.refused r) => ⟨t, [], usage ++ programName ++ ": error: " ++ r.message ++ "\n", .exit 2⟩
    | .ok a => execute scene here t a
  { result with stderr := escapeHalves result.stderr }

end Schematic.Cli
