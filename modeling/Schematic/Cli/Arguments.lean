import Schematic.Decimal.Numeral
import Schematic.Markdown.Config
import Schematic.Value.Written

/-! Switches have a short and a long spelling. The long one may be cut short where no other switch begins like
that, and may be followed by `=` and a value; the short one may be followed by a value directly, or by further
short switches if it takes none. The last value of a switch wins. Texts that look like a number or hold a
blank are values even if they begin with a dash. Two dashes alone are never a value: where they stand in the
argument of a switch, the switch is given nothing. -/
namespace Schematic.Cli

inductive Switch where
  | help
  | schema
  | exportName
  | title
  | name
  | output
  | append
  | maxDepth
  | verbose
deriving DecidableEq, Repr

namespace Switch

def all : List Switch := [help, schema, exportName, title, name, output, append, maxDepth, verbose]

def spellings : Switch → List Text
  | help => ["-h", "--help"]
  | schema => ["-s", "--schema"]
  | exportName => ["-e", "--export"]
  | title => ["-t", "--title"]
  | name => ["-n", "--name"]
  | output => ["-o", "--output"]
  | append => ["-a", "--append"]
  | maxDepth => ["--max-depth"]
  | verbose => ["-v", "--verbose"]

def takesValue : Switch → Bool
  | help | append | verbose => false
  | _ => true

def isRequired : Switch → Bool
  | schema | exportName | title => true
  | _ => false

def shown (s : Switch) : Text := Text.join "/" s.spellings

def spelled : List (Text × Switch) := all.flatMap fun s => s.spellings.map fun t => (t, s)

def ofSpelling? (t : Text) : Option Switch := (spelled.find? (·.1 = t)).map (·.2)

end Switch

inductive Refusal where
  | ambiguous (given : Text) (candidates : List Text)
  | valueExpected (s : Switch)
  | valueIgnored (s : Switch) (value : Text)
  | notAnInteger (s : Switch) (value : Text)
  | missing (switches : List Switch)
  | unrecognized (arguments : List Text)
deriving DecidableEq, Repr

namespace Refusal

def about (s : Switch) (message : Text) : Text := "argument " ++ s.shown ++ ": " ++ message

def message : Refusal → Text
  | ambiguous given candidates => "ambiguous option: " ++ given ++ " could match " ++ Text.join ", " candidates
  | valueExpected s => about s "expected one argument"
  | valueIgnored s value => about s ("ignored explicit argument " ++ value.quoted)
  | notAnInteger s value => about s ("invalid int value: " ++ value.quoted)
  | missing switches => "the following arguments are required: " ++ Text.join ", " (switches.map Switch.shown)
  | unrecognized arguments => "unrecognized arguments: " ++ Text.join " " arguments

end Refusal

/-- What one argument is. A switch may have a text attached, behind `=` or directly. -/
inductive Word where
  | value
  /-- Two dashes, after which there are only values. -/
  | separator
  | switch (s : Switch) (long : Bool) (attached : Option Text)
  | unknownSwitch
deriving DecidableEq, Repr

def isAnyDigit (c : CodePoint) : Bool := c.decimalValue?.isSome

/-- A dash and a number without an exponent, in digits of any script; a line feed may follow. -/
def isNegativeNumber (t : Text) : Bool :=
  match Text.removeTail "\n" t with
  | .char '-' :: rest =>
    match rest.dropWhile isAnyDigit with
    | [] => !rest.isEmpty
    | .char '.' :: digits => !digits.isEmpty && digits.all isAnyDigit
    | _ => false
  | _ => false

def isLong (t : Text) : Bool := (Text.after? "--" t).isSome

/-- An argument before the first `=`, and what follows it. -/
def cutAtEquals (t : Text) : Text × Option Text :=
  match t.cut? (CodePoint.char '=') with
  | some (before, after) => (before, some after)
  | none => (t, none)

/-- The switches that an argument may mean, by their spelling. -/
def candidates (t : Text) : List (Text × Word) :=
  if isLong t then
    let (start, attached) := cutAtEquals t
    Switch.spelled.filterMap fun (spelling, s) =>
      if start.isPrefixOf spelling then some (spelling, .switch s true attached) else none
  else
    Switch.spelled.filterMap fun (spelling, s) =>
      if spelling = t.take 2 then some (spelling, .switch s false (some (t.drop 2))) else none

def Word.ofText (t : Text) : Except Refusal Word :=
  if t.head? ≠ some (CodePoint.char '-') then .ok .value
  else match Switch.ofSpelling? t with
    | some s => .ok (.switch s (isLong t) none)
    | none =>
      let (start, attached) := cutAtEquals t
      match if t.length = 1 then none else if attached.isSome then Switch.ofSpelling? start else none with
      | some s => .ok (.switch s (isLong t) attached)
      | none =>
        if t.length = 1 then .ok .value
        else match candidates t with
          | [(_, word)] => .ok word
          | [] =>
            .ok (if isNegativeNumber t || t.contains (CodePoint.char ' ') then .value else .unknownSwitch)
          | several => .error (.ambiguous t (several.map (·.1)))

def words : List Text → Except Refusal (List (Text × Word))
  | [] => .ok []
  | t :: rest =>
    if t = ("--" : Text) then .ok ((t, .separator) :: rest.map fun v => (v, .value))
    else match Word.ofText t with
      | .error e => .error e
      | .ok w => (words rest).map ((t, w) :: ·)

structure Demand where
  settings : List (Switch × Text)
  /-- The switch whose value is the next argument. -/
  awaiting : Option Switch
deriving DecidableEq, Repr

namespace Demand

def before (s : Switch) (d : Demand) : Demand := { d with settings := (s, []) :: d.settings }

def bare (s : Switch) : Demand := if s.takesValue then ⟨[], some s⟩ else ⟨[(s, [])], none⟩

/-- A short switch with a text attached, which is its value, or further short switches. -/
def chain (s : Switch) (attached : Text) : Except Refusal Demand :=
  if s.takesValue then .ok ⟨[(s, attached)], none⟩
  else match attached with
    | [] => .error (.valueIgnored s [])
    | c :: rest =>
      match Switch.ofSpelling? [.char '-', c] with
      | none => .error (.valueIgnored s (c :: rest))
      | some next => (if rest.isEmpty then .ok (bare next) else chain next rest).map (before s)

def ofSwitch (s : Switch) (long : Bool) (attached : Option Text) : Except Refusal Demand :=
  match attached with
  | none => .ok (bare s)
  | some t =>
    if !long then chain s t
    else if s.takesValue then .ok ⟨[(s, t)], none⟩
    else .error (.valueIgnored s t)

end Demand

inductive Given where
  | text (t : Text)
  | nothing
deriving DecidableEq, Repr

namespace Given

def ofText (t : Text) : Given := if t = ("--" : Text) then nothing else text t

def toValue : Given → Value
  | text t => .text t
  | nothing => .list []

def shown (g : Given) : Text := g.toValue.shown

def text? : Given → Option Text
  | text (c :: rest) => some (c :: rest)
  | _ => none

end Given

/-- The settings collected so far; no depth where the switch for it was given nothing. -/
structure Collected where
  settings : List (Switch × Text)
  maxDepth : Option Int
  extras : List Text
deriving Repr

inductive Stop where
  | helpWanted
  | refused (r : Refusal)
deriving DecidableEq, Repr

namespace Collected

def take (c : Collected) (s : Switch) (value : Text) : Except Stop Collected :=
  match s with
  | .help => .error .helpWanted
  | .maxDepth =>
    match Given.ofText value, Numeral.integer? value with
    | .nothing, _ => .ok { c with settings := (s, value) :: c.settings, maxDepth := none }
    | .text _, some n => .ok { c with settings := (s, value) :: c.settings, maxDepth := some n }
    | .text _, none => .error (.refused (.notAnInteger s value))
  | s => .ok { c with settings := (s, value) :: c.settings }

def takeAll (c : Collected) : List (Switch × Text) → Except Stop Collected
  | [] => .ok c
  | (s, value) :: rest =>
    match c.take s value with
    | .ok c => takeAll c rest
    | .error e => .error e

def given? (c : Collected) (s : Switch) : Option Given :=
  (c.settings.find? (·.1 = s)).map fun setting => .ofText setting.2

end Collected

/-- Go through the arguments. What no switch asks for is kept apart. -/
def collect (c : Collected) : List (Text × Word) → Except Stop Collected
  | [] => .ok c
  | (t, w) :: rest =>
    match w with
    | .value | .separator | .unknownSwitch => collect { c with extras := c.extras ++ [t] } rest
    | .switch s long attached =>
      match Demand.ofSwitch s long attached with
      | .error e => .error (.refused e)
      | .ok d =>
        match d.awaiting with
        | none =>
          match c.takeAll d.settings with
          | .ok c => collect c rest
          | .error e => .error e
        | some s =>
          match rest with
          | (value, .value) :: rest =>
            match c.takeAll (d.settings ++ [(s, value)]) with
            | .ok c => collect c rest
            | .error e => .error e
          | _ => .error (.refused (.valueExpected s))

structure Arguments where
  schema : Given
  exportName : Given
  title : Given
  name : Option Given
  output : Option Given
  append : Bool
  maxDepth : Option Int
  verbose : Bool
deriving DecidableEq, Repr

namespace Arguments

def ofTexts (texts : List Text) : Except Stop Arguments := do
  let all ← (words texts).mapError .refused
  let c ← collect ⟨[], some Config.standard.maxDepth, []⟩ all
  let missing := Switch.all.filter fun s => s.isRequired && (c.given? s).isNone
  if !missing.isEmpty then .error (.refused (.missing missing))
  else if !c.extras.isEmpty then .error (.refused (.unrecognized c.extras))
  else
    return {
      schema := (c.given? .schema).getD .nothing
      exportName := (c.given? .exportName).getD .nothing
      title := (c.given? .title).getD .nothing
      name := c.given? .name
      output := c.given? .output
      append := (c.given? .append).isSome
      maxDepth := c.maxDepth
      verbose := (c.given? .verbose).isSome }

end Arguments

def programName : Text := "schema-to-markdown"

def usage : Text :=
  "usage: schema-to-markdown [-h] -s SCHEMA -e EXPORT -t TITLE [-n NAME]\n" ++
  "                          [-o OUTPUT] [-a] [--max-depth MAX_DEPTH] [-v]\n"

def help : Text :=
  usage ++
  "\nConvert schema descriptors to Markdown documentation.\n\noptions:\n" ++
  "  -h, --help            show this help message and exit\n" ++
  "  -s SCHEMA, --schema SCHEMA\n" ++
  "                        Path to a .py module or .json file containing the\n" ++
  "                        schema descriptor.\n" ++
  "  -e EXPORT, --export EXPORT\n" ++
  "                        Name of the exported schema.\n" ++
  "  -t TITLE, --title TITLE\n" ++
  "                        Title for the documentation.\n" ++
  "  -n NAME, --name NAME  Name for the schema section (defaults to the export\n" ++
  "                        name).\n" ++
  "  -o OUTPUT, --output OUTPUT\n" ++
  "                        Path to the output Markdown file (defaults to stdout).\n" ++
  "  -a, --append          Append to the output file instead of overwriting it.\n" ++
  "  --max-depth MAX_DEPTH\n" ++
  "                        Nesting depth after which recursive descriptors are\n" ++
  "                        truncated (default: 64).\n" ++
  "  -v, --verbose         Log progress to stderr.\n"

end Schematic.Cli
