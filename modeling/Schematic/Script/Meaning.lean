import Schematic.Fluent.Builder
import Schematic.Fluent.Method
import Schematic.Value.Exception

namespace Schematic.Script

inductive Meaning where
  | value (v : Value)
  /-- The package of the builders, with them or without them. -/
  | package (withBuilders : Bool)
  | builders
  | builder (name : Text)
  | method (v : Value) (name : Text)
  | exceptionClass (name : Text)
  | exception (e : Raised)
  /-- A function or a type that every script has. -/
  | given (isType : Bool) (name : Text)
  /-- A function of the script, by its number. -/
  | function (number : Nat)

/-- Exceptions that are passed on instead of being reported. -/
def passedOnNames : List Text :=
  ["BaseException", "BaseExceptionGroup", "GeneratorExit", "KeyboardInterrupt", "SystemExit"]

def isPassedOn (e : Raised) : Bool := passedOnNames.contains e.className

/-- The classes of exceptions that a script can raise. -/
def exceptionNames : List Text :=
  passedOnNames ++
  ["Exception", "ArithmeticError", "AssertionError", "AttributeError", "BlockingIOError", "BrokenPipeError",
   "BufferError", "BytesWarning", "ChildProcessError", "ConnectionAbortedError", "ConnectionError",
   "ConnectionRefusedError", "ConnectionResetError", "DeprecationWarning", "EOFError", "EncodingWarning",
   "ExceptionGroup", "FileExistsError", "FileNotFoundError", "FloatingPointError", "FutureWarning", "ImportError",
   "ImportWarning", "IndentationError", "IndexError", "InterruptedError", "IsADirectoryError", "KeyError",
   "LookupError", "MemoryError", "ModuleNotFoundError", "NameError", "NotADirectoryError", "NotImplementedError",
   "OSError", "OverflowError", "PendingDeprecationWarning", "PermissionError", "ProcessLookupError",
   "RecursionError", "ReferenceError", "ResourceWarning", "RuntimeError", "RuntimeWarning", "StopAsyncIteration",
   "StopIteration", "SyntaxError", "SyntaxWarning", "SystemError", "TabError", "TimeoutError", "TypeError",
   "UnboundLocalError", "UnicodeDecodeError", "UnicodeEncodeError", "UnicodeError", "UnicodeTranslateError",
   "UnicodeWarning", "UserWarning", "ValueError", "Warning", "ZeroDivisionError"].map Text.ofString

def givenTypes : List Text :=
  ["bool", "bytearray", "bytes", "classmethod", "complex", "dict", "enumerate", "filter", "float", "frozenset",
   "int", "list", "map", "memoryview", "object", "property", "range", "reversed", "set", "slice", "staticmethod",
   "str", "super", "tuple", "type", "zip"].map Text.ofString

def givenFunctions : List Text :=
  ["__build_class__", "__import__", "abs", "aiter", "all", "anext", "any", "ascii", "bin", "breakpoint",
   "callable", "chr", "compile", "delattr", "dir", "divmod", "eval", "exec", "format", "getattr", "globals",
   "hasattr", "hash", "hex", "id", "input", "isinstance", "issubclass", "iter", "len", "locals", "max", "min",
   "next", "oct", "open", "ord", "pow", "print", "repr", "round", "setattr", "sorted", "sum", "vars"].map Text.ofString

def ownNames : List Text :=
  ["__name__", "__doc__", "__package__", "__loader__", "__spec__", "__file__", "__cached__", "__builtins__"]

/-- The names under which something is found in every script. -/
def givenNames : List Text :=
  ownNames ++
  ["__annotations__", "__class__", "__delattr__", "__dict__", "__dir__", "__eq__", "__format__", "__ge__",
   "__getattribute__", "__getstate__", "__gt__", "__hash__", "__init__", "__init_subclass__", "__le__", "__lt__",
   "__ne__", "__new__", "__reduce__", "__reduce_ex__", "__repr__", "__setattr__", "__sizeof__", "__str__",
   "__subclasshook__"].map Text.ofString

/-- What a name stands for that a script does not define itself. -/
def given? (name : Text) : Option Meaning :=
  if name = ("__debug__" : Text) then some (.value (.bool true))
  else if ownNames.contains name then some (.value .null)
  else if exceptionNames.contains name || systemErrorNames.contains name then some (.exceptionClass name)
  else if givenTypes.contains name then some (.given true name)
  else if givenFunctions.contains name then some (.given false name)
  else none

def undefinedName (name : Text) : Raised := .mk "NameError" [.text ("name '" ++ name ++ "' is not defined")]

def lacks (thing name : Text) : Raised := .mk "AttributeError" [.text (thing ++ " has no attribute '" ++ name ++ "'")]

namespace Integer

def bitLength (n : Int) : Nat := if n = 0 then 0 else n.natAbs.log2 + 1

/-- How many ones the binary form of a number has; `fuel` bounds its length. -/
def bitCount : (fuel : Nat) → Nat → Nat
  | 0, _ => 0
  | fuel + 1, n => n % 2 + bitCount fuel (n / 2)

def toByte (n : Int) : Except Raised Value :=
  if n < 0 then .error (.mk "OverflowError" [.text "can't convert negative int to unsigned"])
  else if 255 < n then .error (.mk "OverflowError" [.text "int too big to convert"])
  else .ok (.bytes [UInt8.ofNat n.toNat])

def part? (n : Int) (name : Text) : Option Int :=
  (([("real", n), ("imag", 0), ("numerator", n), ("denominator", 1)] : List (Text × Int)).find? (·.1 = name)).map (·.2)

def method? (n : Int) (name : Text) : Option (Except Raised Value) :=
  (([("bit_length", .ok (.int (bitLength n))), ("bit_count", .ok (.int (bitCount (bitLength n) n.natAbs))),
     ("conjugate", .ok (.int n)), ("as_integer_ratio", .ok (.tuple [.int n, .int 1])), ("to_bytes", toByte n)] :
     List (Text × Except Raised Value)).find? (·.1 = name)).map (·.2)

end Integer

/-- The exception that is raised where something is to be raised. -/
def raisedBy (m : Meaning) : Raised :=
  match m with
  | .exception e => e
  | .exceptionClass name =>
    match Raised.make name [] with
    | .ok e | .error e => e
  | _ => .typeFailure "exceptions must derive from BaseException"

/-- Whether something can be the cause of an exception. -/
def isCause : Meaning → Bool
  | .exception _ | .exceptionClass _ | .value .null => true
  | _ => false

namespace Meaning

def attributeOf (v : Value) (name : Text) : Except Raised Meaning :=
  match v with
  | .node d =>
    match Method.named? d.toKind name, d.field? name with
    | some _, _ => .ok (.method v name)
    | none, some field => .ok (.value field)
    | none, none => .error (.noAttribute v name)
  | v =>
    match v.integer? with
    | none => .error (.noAttribute v name)
    | some n =>
      match Integer.part? n name, Integer.method? n name with
      | some part, _ => .ok (.value (.int part))
      | none, some _ => .ok (.method v name)
      | none, none => .error (.noAttribute v name)

def getAttribute (m : Meaning) (name : Text) : Except Raised Meaning :=
  match m with
  | .value v => attributeOf v name
  | .package withBuilders =>
    if withBuilders && name = ("builders" : Text) then .ok .builders else .error (lacks "module 'schemadoc'" name)
  | .builders =>
    let isBuilder := (Builder.named? name).isSome || Builder.classes.any (·.className = name) ||
      Builder.uncallable.any (·.1 = name)
    if isBuilder then .ok (.builder name)
    else .error (Builder.unknown name)
  | .builder _ => .error (lacks "'function' object" name)
  | .method v _ => .error (lacks (match v with
    | .node _ => "'method' object"
    | _ => "'builtin_function_or_method' object") name)
  | .exceptionClass c => .error (lacks ("type object '" ++ c ++ "'") name)
  | .exception e =>
    if name = ("args" : Text) then .ok (.value (.tuple e.kept))
    else .error (lacks ("'" ++ e.className ++ "' object") name)
  | .given true t => .error (lacks ("type object '" ++ t ++ "'") name)
  | .given false _ => .error (lacks "'builtin_function_or_method' object" name)
  | .function _ => .error (lacks "'function' object" name)

def className : Meaning → Text
  | .value v => v.typeName
  | .package _ | .builders => "module"
  | .builder _ | .function _ => "function"
  | .method (.node _) _ => "method"
  | .method _ _ | .given false _ => "builtin_function_or_method"
  | .exception e => e.className
  | .exceptionClass _ | .given true _ => "type"

def negated (x : Binary64) : Binary64 := ⟨x.bits ^^^ UInt64.ofNat (Binary64.signBit true)⟩

def signed (sign : CodePoint) (m : Meaning) : Except Raised Meaning :=
  let refused : Except Raised Meaning :=
    .error (.typeFailure ("bad operand type for unary " ++ [sign] ++ ": '" ++ m.className ++ "'"))
  match m with
  | .value (.float x) =>
    match sign with
    | .char '~' => refused
    | .char '-' => .ok (.value (.float (negated x)))
    | _ => .ok (.value (.float x))
  | .value v =>
    match v.integer?, sign with
    | some n, .char '-' => .ok (.value (.int (-n)))
    | some n, .char '~' => .ok (.value (.int (-n - 1)))
    | some n, _ => .ok (.value (.int n))
    | none, _ => refused
  | _ => refused

end Meaning
end Schematic.Script
