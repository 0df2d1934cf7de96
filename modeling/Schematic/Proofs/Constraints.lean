import Schematic.Proofs.Copies
import Schematic.Proofs.Registers
import Schematic.Proofs.Serialization
import Schematic.Proofs.Warnings
import Schematic.Schema.Signature

/-! A schema is made by a chain of calls: a builder, then methods that add a constraint or set a description.
What each call adds is listed here, for texts, numbers and arrays, and a program of such calls on a workbench
is followed register by register. Chains may share their beginnings; a call on one of them leaves the others
as they are. -/
namespace Schematic

/-- The name and the arguments of a call of a method. -/
structure Link where
  name : Text
  arguments : List Value

/-- The line for a constraint on texts. A value is shown as it is validated. -/
inductive TextLine : Link → Text → Prop
  | length {name label : Text} {v : Value} {o : TextOperand} (valid : Checked.textOperand v = .ok o)
      (known : (name, label) ∈ ([("min", "Minimum length: "), ("max", "Maximum length: "),
        ("length", "Exact length: ")] : List (Text × Text))) : TextLine ⟨name, [v]⟩ (label ++ o.shown)
  | format {name line : Text}
      (known : (name, line) ∈ ([("email", "Must be a valid email"), ("url", "Must be a valid URL"),
        ("uuid", "Must be a valid UUID")] : List (Text × Text))) : TextLine ⟨name, []⟩ line
  | edge {name label : Text} {v : Value} {o : TextOperand} (valid : Checked.textOperand v = .ok o)
      (known : (name, label) ∈ ([("starts_with", "Must start with: \""),
        ("ends_with", "Must end with: \"")] : List (Text × Text))) : TextLine ⟨name, [v]⟩ (label ++ o.shown ++ "\"")
  | regex {v : Value} {o : TextOperand} (valid : Checked.textOperand v = .ok o) :
      TextLine ⟨"regex", [v]⟩ ("Must match regex: /" ++ o.shown ++ "/")
  | compiled (source flags : Text) :
      TextLine ⟨"regex", [.pattern source flags]⟩ ("Must match regex: /" ++ source ++ "/" ++ flags)

/-- The line for a constraint on numbers. -/
inductive NumberLine : Link → Text → Prop
  | bound {name label : Text} {v : Value} {o : NumberOperand} (valid : Checked.numberOperand v = .ok o)
      (known : (name, label) ∈ ([("gte", "Minimum (inclusive): "), ("min", "Minimum (inclusive): "),
        ("gt", "Minimum (exclusive): "), ("lte", "Maximum (inclusive): "), ("max", "Maximum (inclusive): "),
        ("lt", "Maximum (exclusive): "), ("multiple_of", "Must be a multiple of ")] : List (Text × Text))) :
      NumberLine ⟨name, [v]⟩ (label ++ o.token)
  | plain {name line : Text}
      (known : (name, line) ∈ ([("positive", "Minimum (exclusive): 0"), ("nonnegative", "Minimum (inclusive): 0"),
        ("negative", "Maximum (exclusive): 0"), ("nonpositive", "Maximum (inclusive): 0"),
        ("integer", "Must be an integer")] : List (Text × Text))) : NumberLine ⟨name, []⟩ line

/-- The length that a call with an integer sets on an array. -/
def Link.length? (link : Link) : Option (LengthBound × Int) :=
  match link.arguments with
  | [.int n] =>
    if link.name = "min" then some (.min, n)
    else if link.name = "max" then some (.max, n)
    else if link.name = "length" then some (.exact, n)
    else none
  | [] => if link.name = "nonempty" then some (.min, 1) else none
  | _ => none

section Calls

variable {defs : Definitions} {copy : Nat} {i j : Identity} {description : Value} {link : Link}
  {name line : Text} {arguments : List Value}

/-- A text check with a valid operand comes behind the others. -/
theorem call_of_textCheck {checks : List TextCheck} {rule : TextRule} {v : Value} {flags : Text} {o : TextOperand}
    (hcall : (Value.node (.mk j description (.string checks))).call defs copy i name arguments =
      ((TextCheck.make rule v flags).map fun c =>
        (Descriptor.mk j description (.string checks)).withTextCheck i c).outcome.map .node)
    (valid : Checked.textOperand v = .ok o) :
    (Value.node (.mk j description (.string checks))).call defs copy i name arguments =
      .ok (.node (.mk i description (.string (checks ++ [⟨rule, o, flags⟩])))) := by
  rw [hcall, TextCheck.make, valid]
  rfl

theorem call_of_numberCheck {checks : List NumberCheck} {rule : NumberRule} {v : Value} {inclusive : Bool}
    {o : NumberOperand}
    (hcall : (Value.node (.mk j description (.number checks))).call defs copy i name arguments =
      ((NumberCheck.make rule v inclusive).map fun c =>
        (Descriptor.mk j description (.number checks)).withNumberCheck i c).outcome.map .node)
    (valid : Checked.numberOperand v = .ok o) :
    (Value.node (.mk j description (.number checks))).call defs copy i name arguments =
      .ok (.node (.mk i description (.number (checks ++ [⟨rule, o, inclusive⟩])))) := by
  rw [hcall, NumberCheck.make, valid]
  rfl

/-- A call for a constraint on texts adds one check with its line. -/
theorem TextLine.exists_check (h : TextLine link line) (checks : List TextCheck) (defs : Definitions) (copy : Nat)
    (i j : Identity) (description : Value) :
    ∃ c : TextCheck, c.line = line ∧
      (Value.node (.mk j description (.string checks))).call defs copy i link.name link.arguments =
        .ok (.node (.mk i description (.string (checks ++ [c])))) := by
  cases h with
  | @length name label v o valid known =>
    simp only [List.mem_cons, Prod.mk.injEq, List.not_mem_nil, or_false] at known
    rcases known with ⟨rfl, rfl⟩ | ⟨rfl, rfl⟩ | ⟨rfl, rfl⟩
    · exact ⟨⟨.min, o, []⟩, rfl, call_of_textCheck rfl valid⟩
    · exact ⟨⟨.max, o, []⟩, rfl, call_of_textCheck rfl valid⟩
    · exact ⟨⟨.length, o, []⟩, rfl, call_of_textCheck rfl valid⟩
  | format known =>
    simp only [List.mem_cons, Prod.mk.injEq, List.not_mem_nil, or_false] at known
    rcases known with ⟨rfl, rfl⟩ | ⟨rfl, rfl⟩ | ⟨rfl, rfl⟩
    · exact ⟨⟨.email, .none, []⟩, rfl, rfl⟩
    · exact ⟨⟨.url, .none, []⟩, rfl, rfl⟩
    · exact ⟨⟨.uuid, .none, []⟩, rfl, rfl⟩
  | @edge name label v o valid known =>
    simp only [List.mem_cons, Prod.mk.injEq, List.not_mem_nil, or_false] at known
    rcases known with ⟨rfl, rfl⟩ | ⟨rfl, rfl⟩
    · exact ⟨⟨.startsWith, o, []⟩, rfl, call_of_textCheck rfl valid⟩
    · exact ⟨⟨.endsWith, o, []⟩, rfl, call_of_textCheck rfl valid⟩
  | @regex v o valid =>
    have hmatching : (Descriptor.mk j description (.string checks)).matching v i =
        (Descriptor.mk j description (.string checks)).checkText .regex v i := by
      cases v with
      | pattern source flags => cases valid
      | _ => rfl
    have hcall : (Value.node (.mk j description (.string checks))).call defs copy i "regex" [v] =
        ((Descriptor.mk j description (.string checks)).matching v i).outcome.map .node := rfl
    rw [hmatching] at hcall
    exact ⟨⟨.regex, o, []⟩, List.append_nil _, call_of_textCheck hcall valid⟩
  | compiled source flags =>
    exact ⟨⟨.regex, .text source, flags⟩, rfl, call_of_textCheck (v := .text source) rfl rfl⟩

/-- A call for a constraint on numbers adds one check with its line. -/
theorem NumberLine.exists_check (h : NumberLine link line) (checks : List NumberCheck) (defs : Definitions) (copy : Nat)
    (i j : Identity) (description : Value) :
    ∃ c : NumberCheck, c.line = line ∧
      (Value.node (.mk j description (.number checks))).call defs copy i link.name link.arguments =
        .ok (.node (.mk i description (.number (checks ++ [c])))) := by
  cases h with
  | @bound name label v o valid known =>
    simp only [List.mem_cons, Prod.mk.injEq, List.not_mem_nil, or_false] at known
    rcases known with ⟨rfl, rfl⟩ | ⟨rfl, rfl⟩ | ⟨rfl, rfl⟩ | ⟨rfl, rfl⟩ | ⟨rfl, rfl⟩ | ⟨rfl, rfl⟩ | ⟨rfl, rfl⟩
    · exact ⟨⟨.min, o, true⟩, rfl, call_of_numberCheck rfl valid⟩
    · exact ⟨⟨.min, o, true⟩, rfl, call_of_numberCheck rfl valid⟩
    · exact ⟨⟨.min, o, false⟩, rfl, call_of_numberCheck rfl valid⟩
    · exact ⟨⟨.max, o, true⟩, rfl, call_of_numberCheck rfl valid⟩
    · exact ⟨⟨.max, o, true⟩, rfl, call_of_numberCheck rfl valid⟩
    · exact ⟨⟨.max, o, false⟩, rfl, call_of_numberCheck rfl valid⟩
    · exact ⟨⟨.multipleOf, o, true⟩, rfl, call_of_numberCheck rfl valid⟩
  | plain known =>
    simp only [List.mem_cons, Prod.mk.injEq, List.not_mem_nil, or_false] at known
    rcases known with ⟨rfl, rfl⟩ | ⟨rfl, rfl⟩ | ⟨rfl, rfl⟩ | ⟨rfl, rfl⟩ | ⟨rfl, rfl⟩
    · exact ⟨⟨.min, .int 0, false⟩, congrArg (Text.ofString "Minimum (exclusive): " ++ ·) Text.ofInt_zero,
        call_of_numberCheck (v := .int 0) rfl rfl⟩
    · exact ⟨⟨.min, .int 0, true⟩, congrArg (Text.ofString "Minimum (inclusive): " ++ ·) Text.ofInt_zero,
        call_of_numberCheck (v := .int 0) rfl rfl⟩
    · exact ⟨⟨.max, .int 0, false⟩, congrArg (Text.ofString "Maximum (exclusive): " ++ ·) Text.ofInt_zero,
        call_of_numberCheck (v := .int 0) rfl rfl⟩
    · exact ⟨⟨.max, .int 0, true⟩, congrArg (Text.ofString "Maximum (inclusive): " ++ ·) Text.ofInt_zero,
        call_of_numberCheck (v := .int 0) rfl rfl⟩
    · exact ⟨⟨.int, .none, true⟩, rfl, call_of_numberCheck (v := .null) rfl rfl⟩

/-- There is one line for a constraint, for it is told by the check that the call adds. -/
theorem TextLine.unique {line' : Text} (h : TextLine link line) (h' : TextLine link line') : line = line' := by
  obtain ⟨c, rfl, hcall⟩ := h.exists_check [] [] 0 default default .null
  obtain ⟨c', rfl, hcall'⟩ := h'.exists_check [] [] 0 default default .null
  cases hcall.symm.trans hcall'
  rfl

theorem NumberLine.unique {line' : Text} (h : NumberLine link line) (h' : NumberLine link line') : line = line' := by
  obtain ⟨c, rfl, hcall⟩ := h.exists_check [] [] 0 default default .null
  obtain ⟨c', rfl, hcall'⟩ := h'.exists_check [] [] 0 default default .null
  cases hcall.symm.trans hcall'
  rfl

/-- A call that sets a length of an array keeps its other lengths. -/
theorem call_of_length? {bound : LengthBound} {n : Int} (h : link.length? = some (bound, n)) (element : Descriptor)
    (low high exact : Value) :
    (Value.node (.mk j description (.array element low high exact))).call defs copy i link.name link.arguments =
      .ok (.node ((Descriptor.mk j description (.array element low high exact)).withLength bound (.int n) i)) := by
  obtain ⟨name, arguments⟩ := link
  unfold Link.length? at h
  split at h
  · rename_i m hm
    obtain rfl : arguments = [.int m] := hm
    split_ifs at h with hmin hmax hexact
    · obtain ⟨rfl, rfl⟩ := Prod.mk.inj (Option.some.inj h)
      obtain rfl : name = "min" := hmin
      rfl
    · obtain ⟨rfl, rfl⟩ := Prod.mk.inj (Option.some.inj h)
      obtain rfl : name = "max" := hmax
      rfl
    · obtain ⟨rfl, rfl⟩ := Prod.mk.inj (Option.some.inj h)
      obtain rfl : name = "length" := hexact
      rfl
  · rename_i hnone
    obtain rfl : arguments = [] := hnone
    split_ifs at h with hnonempty
    obtain ⟨rfl, rfl⟩ := Prod.mk.inj (Option.some.inj h)
    obtain rfl : name = "nonempty" := hnonempty
    rfl
  · cases h

end Calls

def lengthValue : Option Int → Value
  | some n => .int n
  | none => .null

inductive Start where
  | text
  | number
  | array (element : Descriptor)

namespace Start

def builder : Start → Text
  | text => "string"
  | number => "number"
  | array _ => "array"

def arguments : Start → List Value
  | array element => [.node element]
  | _ => []

/-- The calls that a chain goes on with. -/
inductive Allows : Start → Link → Prop
  | describe (start : Start) (description : Value) : Allows start ⟨"describe", [description]⟩
  | text {link : Link} {line : Text} (h : TextLine link line) : Allows .text link
  | number {link : Link} {line : Text} (h : NumberLine link line) : Allows .number link
  | array {element : Descriptor} {link : Link} {given : LengthBound × Int} (h : link.length? = some given) :
      Allows (.array element) link

end Start

def constraintCalls (calls : List Link) : List Link := calls.filter fun link => link.name ≠ "describe"

def lastLength (calls : List Link) (bound : LengthBound) : Option Int :=
  (calls.filterMap fun link => link.length?.bind fun given =>
    if given.1 = bound then some given.2 else none).getLast?

/-- A chain of calls, the first of them first. -/
structure Chain where
  start : Start
  calls : List Link

namespace Chain

def add (chain : Chain) (link : Link) : Chain := ⟨chain.start, chain.calls ++ [link]⟩

/-- A body of a descriptor that the chain makes. -/
inductive Holds : Chain → Body → Prop
  | text {calls : List Link} {checks : List TextCheck}
      (h : List.Forall₂ (fun link (c : TextCheck) => TextLine link c.line) (constraintCalls calls) checks) :
      Holds ⟨.text, calls⟩ (.string checks)
  | number {calls : List Link} {checks : List NumberCheck}
      (h : List.Forall₂ (fun link (c : NumberCheck) => NumberLine link c.line) (constraintCalls calls) checks) :
      Holds ⟨.number, calls⟩ (.number checks)
  | array (element : Descriptor) (calls : List Link) :
      Holds ⟨.array element, calls⟩ (.array element (lengthValue (lastLength calls .min))
        (lengthValue (lastLength calls .max)) (lengthValue (lastLength calls .exact)))

section Steps

variable {defs : Definitions} {copy : Nat} {i : Identity} {chain : Chain} {calls : List Link} {link : Link} {line : Text}

theorem constraintCalls_append (h : link.name ≠ "describe") :
    constraintCalls (calls ++ [link]) = constraintCalls calls ++ [link] := by
  simp [constraintCalls, h]

theorem constraintCalls_append_describe (description : Value) :
    constraintCalls (calls ++ [⟨"describe", [description]⟩]) = constraintCalls calls := by
  simp [constraintCalls]

theorem lastLength_append {given : LengthBound × Int} (h : link.length? = some given) (bound : LengthBound) :
    lastLength (calls ++ [link]) bound = if given.1 = bound then some given.2 else lastLength calls bound := by
  simp only [lastLength, List.filterMap_append, List.filterMap_cons, List.filterMap_nil, h, Option.bind_some]
  split_ifs <;> simp

theorem lastLength_append_describe (description : Value) (bound : LengthBound) :
    lastLength (calls ++ [⟨"describe", [description]⟩]) bound = lastLength calls bound := by
  have hnone : (Link.mk "describe" [description]).length? = none := by
    cases description <;> rfl
  simp [lastLength, hnone]

/-- A call for a constraint sets no description, and its name is a public one. -/
theorem name_of_textLine (h : TextLine link line) :
    link.name ≠ "describe" ∧ link.name.head? ≠ some (CodePoint.char '_') := by
  cases h with
  | length _ known | format known | edge _ known =>
    refine (?_ : ∀ entry ∈ _, entry.1 ≠ _ ∧ entry.1.head? ≠ _) _ known
    decide
  | regex | compiled =>
    refine (?_ : ("regex" : Text) ≠ "describe" ∧ ("regex" : Text).head? ≠ some (CodePoint.char '_'))
    decide

theorem name_of_numberLine (h : NumberLine link line) :
    link.name ≠ "describe" ∧ link.name.head? ≠ some (CodePoint.char '_') := by
  cases h with
  | bound _ known | plain known =>
    refine (?_ : ∀ entry ∈ _, entry.1 ≠ _ ∧ entry.1.head? ≠ _) _ known
    decide

/-- Setting a length of an array changes the last value for that bound. -/
theorem holds_withLength {j : Identity} {description : Value} {element : Descriptor} {bound : LengthBound} {n : Int}
    (h : link.length? = some (bound, n)) :
    Holds ⟨.array element, calls ++ [link]⟩
      ((Descriptor.mk j description (.array element (lengthValue (lastLength calls .min))
        (lengthValue (lastLength calls .max)) (lengthValue (lastLength calls .exact)))).withLength bound (.int n) i).body := by
  have hholds := Holds.array element (calls ++ [link])
  rw [lastLength_append h, lastLength_append h, lastLength_append h] at hholds
  cases bound <;> exact hholds

/-- Each call that a chain allows has a result, and the chain that goes on with it makes that. -/
theorem Holds.exists_call {d : Descriptor} (h : chain.Holds d.body) (hallows : chain.start.Allows link)
    (defs : Definitions) (copy : Nat) (i : Identity) :
    ∃ e, (Value.node d).call defs copy i link.name link.arguments = .ok (.node e) ∧ (chain.add link).Holds e.body := by
  obtain ⟨j, description, body⟩ := d
  cases h with
  | @text calls checks hlines =>
    cases hallows with
    | describe _ given => exact ⟨_, rfl, .text ((constraintCalls_append_describe given).symm ▸ hlines)⟩
    | text hline =>
      obtain ⟨c, hc, hcall⟩ := hline.exists_check checks defs copy i j description
      refine ⟨_, hcall, .text ?_⟩
      rw [constraintCalls_append (name_of_textLine hline).1]
      exact List.rel_append hlines (.cons (hc ▸ hline) .nil)
  | @number calls checks hlines =>
    cases hallows with
    | describe _ given => exact ⟨_, rfl, .number ((constraintCalls_append_describe given).symm ▸ hlines)⟩
    | number hline =>
      obtain ⟨c, hc, hcall⟩ := hline.exists_check checks defs copy i j description
      refine ⟨_, hcall, .number ?_⟩
      rw [constraintCalls_append (name_of_numberLine hline).1]
      exact List.rel_append hlines (.cons (hc ▸ hline) .nil)
  | array element calls =>
    cases hallows with
    | describe _ given =>
      have hholds := Holds.array element (calls ++ [⟨"describe", [given]⟩])
      rw [lastLength_append_describe, lastLength_append_describe, lastLength_append_describe] at hholds
      exact ⟨_, rfl, hholds⟩
    | array hlength => exact ⟨_, call_of_length? hlength _ _ _ _, holds_withLength hlength⟩

end Steps
end Chain

/-- The program makes the chains `chains'` of registers from the chains `chains`. -/
inductive Writes : (Text → Option Chain) → List Command → (Text → Option Chain) → Prop
  | nil (chains : Text → Option Chain) : Writes chains [] chains
  | build {chains chains' : Text → Option Chain} {program : List Command} (target : Text) (i : Identity) (copy : Nat)
      (start : Start) (rest : Writes (Function.update chains target (some ⟨start, []⟩)) program chains') :
      Writes chains (⟨target, i, copy, .build start.builder start.arguments⟩ :: program) chains'
  | call {chains chains' : Text → Option Chain} {program : List Command} (target : Text) (i : Identity) (copy : Nat)
      {register : Text} {chain : Chain} {link : Link} (known : chains register = some chain)
      (allowed : chain.start.Allows link)
      (rest : Writes (Function.update chains target (some (chain.add link))) program chains') :
      Writes chains (⟨target, i, copy, .call register link.name link.arguments⟩ :: program) chains'

namespace Workbench

variable {defs : Definitions} {w : Workbench} {chains chains' : Text → Option Chain} {program : List Command}

/-- In each register that has a chain there is a node that the chain makes. -/
def Fits (w : Workbench) (chains : Text → Option Chain) : Prop :=
  ∀ register chain, chains register = some chain → ∃ d, w.get? register = some (.node d) ∧ chain.Holds d.body

end Workbench

def boundLine (label : Text) : Option Int → List Text
  | some n => [label ++ Text.ofInt n]
  | none => []

/-- The value of a constraint on texts is not written: it is an integer of too many digits. -/
inductive Link.TextUnwritten : Link → Prop
  | operand {name : Text} {v : Value} {o : TextOperand} (valid : Checked.textOperand v = .ok o)
      (gap : o.shown.hasGap = true) : TextUnwritten ⟨name, [v]⟩
  | pattern {name source flags : Text} (gap : (source ++ flags).hasGap = true) :
      TextUnwritten ⟨name, [.pattern source flags]⟩

inductive Link.NumberUnwritten : Link → Prop
  | operand {name : Text} {v : Value} {o : NumberOperand} (valid : Checked.numberOperand v = .ok o)
      (gap : o.token.hasGap = true) : NumberUnwritten ⟨name, [v]⟩

section Gaps

variable {link : Link} {name line : Text} {v : Value}

theorem textUnwritten_iff {o : TextOperand} (valid : Checked.textOperand v = .ok o) :
    (Link.mk name [v]).TextUnwritten ↔ o.shown.hasGap = true := by
  constructor
  · intro h
    cases h with
    | operand valid' gap =>
      cases valid.symm.trans valid'
      exact gap
    | pattern => cases valid
  · exact .operand valid

theorem textUnwritten_int {n : Int} : (Link.mk name [.int n]).TextUnwritten ↔ Text.integerBound ≤ n.natAbs :=
  (textUnwritten_iff (o := .int n) rfl).trans (hasGap_ofInt n)

end Gaps

namespace Chain

/-- The type of what a chain makes, without its constraints. -/
def token? (chain : Chain) : Option Text :=
  match chain.start with
  | .text => some "string"
  | .number => some "number"
  | .array _ => none

/-- The constraint lines of what a chain makes: one for each call in order, or those of the last lengths that are set. -/
def Lines (chain : Chain) (lines : List Text) : Prop :=
  match chain.start with
  | .text => List.Forall₂ TextLine (constraintCalls chain.calls) lines
  | .number => List.Forall₂ NumberLine (constraintCalls chain.calls) lines
  | .array _ =>
    lines = boundLine "Minimum length: " (lastLength chain.calls .min) ++
      boundLine "Maximum length: " (lastLength chain.calls .max) ++
      boundLine "Exact length: " (lastLength chain.calls .exact)

/-- The values that are shown of a chain are written: there are no integers of too many digits among them. -/
def Written (chain : Chain) : Prop :=
  match chain.start with
  | .text => ∀ link ∈ constraintCalls chain.calls, ¬ link.TextUnwritten
  | .number => ∀ link ∈ constraintCalls chain.calls, ¬ link.NumberUnwritten
  | .array _ => ∀ bound n, lastLength chain.calls bound = some n → n.natAbs < Text.integerBound

/-- What is shown of a descriptor that a chain makes. -/
structure Shows (chain : Chain) (d : Descriptor) : Prop where
  lines : chain.Lines d.constraintLines
  shown : d.shownLines = .ok d.constraintLines ↔ chain.Written
  type : ∀ token, chain.token? = some token → ∀ maxDepth marker, 0 ≤ maxDepth →
    (Value.node d).signature maxDepth marker =
      if d.constraintLines = [] then token else token ++ " (" ++ Text.join ", " d.constraintLines ++ ")"

end Chain

def overlongLink : Link := ⟨"min", [.int Text.integerBound]⟩

def overlong : List Command :=
  [⟨"a", ⟨0, [0], 0⟩, 0, .build "string" []⟩, ⟨"b", ⟨0, [1], 0⟩, 1, .call "a" "min" overlongLink.arguments⟩]

end Schematic
