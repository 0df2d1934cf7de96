/-! A text read from a schema file may hold one half of a surrogate pair on its own, which no character stands
for, so texts are lists of code points and not of characters. Order, joining and splitting are those of lists.
Which texts can be written to a file is said in `Schematic.Text.Utf8`. Where something has no text, there is a
gap: a text with a gap cannot be put together, and its first gap names the exception that is raised in place
of it. -/
namespace Schematic

/-- The exception that is raised in place of a text, by its class and what it says. -/
structure Obstacle where
  className : String
  message : String
deriving DecidableEq, Inhabited, Repr

namespace Obstacle

def tooManyDigits : Obstacle :=
  ⟨"ValueError", "Exceeds the limit (4300 digits) for integer string conversion; " ++
    "use sys.set_int_max_str_digits() to increase the limit"⟩

end Obstacle

/-- A character, or one half of a surrogate pair standing alone (0xD800 + `offset`), or a gap. -/
inductive CodePoint where
  | char (c : Char)
  | half (offset : Fin 0x800)
  | gap (why : Obstacle)
deriving DecidableEq, Inhabited, Repr

namespace CodePoint

def toNat : CodePoint → Nat
  | char c => c.toNat
  | half offset => 0xD800 + offset.val
  | gap _ => 0x110000

def ofNat (n : Nat) : CodePoint :=
  if h : 0xD800 ≤ n ∧ n < 0xE000 then half ⟨n - 0xD800, by omega⟩ else char (Char.ofNat n)

/-- The two halves of a surrogate pair make one character. -/
def pair (high low : Nat) : CodePoint := ofNat (0x10000 + (high - 0xD800) * 0x400 + (low - 0xDC00))

def isHalf : CodePoint → Bool
  | half _ => true
  | _ => false

def obstacle? : CodePoint → Option Obstacle
  | gap why => some why
  | _ => none

@[simp] theorem obstacle?_char (c : Char) : (char c).obstacle? = none := rfl

@[simp] theorem obstacle?_half (offset : Fin 0x800) : (half offset).obstacle? = none := rfl

@[simp] theorem obstacle?_gap (why : Obstacle) : (gap why).obstacle? = some why := rfl

/-- Whether a half stands for a byte that could not be read. -/
def isByte : CodePoint → Bool
  | half offset => 0x480 ≤ offset.val && offset.val < 0x500
  | _ => false

/-- The number of bytes of a code point in the name of a file. -/
def byteCount (c : CodePoint) : Nat :=
  if c.isByte || c.toNat < 0x80 then 1 else if c.toNat < 0x800 then 2 else if c.toNat < 0x10000 then 3 else 4

instance : Coe Char CodePoint := ⟨char⟩

def isAscii (c : CodePoint) : Bool := c.toNat < 0x80

def isAsciiBlank (c : CodePoint) : Bool := c.toNat = 0x20 || (0x09 ≤ c.toNat && c.toNat ≤ 0x0d)

def isDigit (c : CodePoint) : Bool := 0x30 ≤ c.toNat && c.toNat ≤ 0x39

def isAsciiLetter (c : CodePoint) : Bool := (0x41 ≤ c.toNat && c.toNat ≤ 0x5a) || (0x61 ≤ c.toNat && c.toNat ≤ 0x7a)

def digitValue (c : CodePoint) : Nat := c.toNat - 0x30

def hexValue? (c : CodePoint) : Option Nat :=
  let n := c.toNat
  if 0x30 ≤ n && n ≤ 0x39 then some (n - 0x30)
  else if 0x61 ≤ n && n ≤ 0x66 then some (n - 0x61 + 10)
  else if 0x41 ≤ n && n ≤ 0x46 then some (n - 0x41 + 10)
  else none

end CodePoint

abbrev Text := List CodePoint

namespace Text

def ofString (s : String) : Text := s.toList.map CodePoint.char

instance : Coe String Text := ⟨ofString⟩

def ofNat (n : Nat) : Text := (Nat.toDigits 10 n).map CodePoint.char

/-- Integers from here on have too many digits: more than 4300. -/
def integerBound : Nat := Nat.pow 10 4300

/-- The digits of an integer after its sign, or a gap. -/
def ofInt (n : Int) : Text :=
  if integerBound ≤ n.natAbs then [CodePoint.gap .tooManyDigits]
  else if n < 0 then CodePoint.char '-' :: ofNat n.natAbs
  else ofNat n.natAbs

theorem ofInt_of_le {n : Int} (h : integerBound ≤ n.natAbs) : ofInt n = [CodePoint.gap .tooManyDigits] := if_pos h

theorem ofInt_zero : ofInt 0 = "0" := by
  have hpow : ∀ n, 0 < Nat.pow 10 n := fun n => Nat.pow_pos (by decide)
  have hbound : 0 < integerBound := by
    unfold integerBound
    exact hpow 4300
  rw [ofInt, Int.natAbs_zero, if_neg (by omega)]
  rfl

def obstacle? (t : Text) : Option Obstacle := t.findSome? CodePoint.obstacle?

def hasGap (t : Text) : Bool := t.obstacle?.isSome

@[simp] theorem obstacle?_nil : obstacle? [] = none := rfl

@[simp] theorem obstacle?_cons (c : CodePoint) (t : Text) : obstacle? (c :: t) = c.obstacle?.or (obstacle? t) := by
  cases c <;> rfl

@[simp] theorem obstacle?_append (t u : Text) : (t ++ u).obstacle? = t.obstacle?.or u.obstacle? :=
  List.findSome?_append

theorem obstacle?_map_char (cs : List Char) : obstacle? (cs.map CodePoint.char) = none := by
  induction cs with
  | nil => rfl
  | cons c cs ih => simp [ih]

@[simp] theorem obstacle?_ofString (s : String) : (ofString s).obstacle? = none := obstacle?_map_char _

@[simp] theorem obstacle?_ofNat (n : Nat) : (ofNat n).obstacle? = none := obstacle?_map_char _

@[simp] theorem hasGap_ofString (s : String) : (ofString s).hasGap = false := by simp [hasGap]

def byteCount (t : Text) : Nat := t.foldl (fun n c => n + c.byteCount) 0

/-- `parts` one after another with `separator` between neighbours. -/
def join (separator : Text) : List Text → Text
  | [] => []
  | [part] => part
  | part :: next :: rest => part ++ separator ++ join separator (next :: rest)

def le : Text → Text → Bool
  | [], _ => true
  | _ :: _, [] => false
  | a :: as, b :: bs => a.toNat < b.toNat || (a.toNat == b.toNat && le as bs)

/-- The rest of `t` after `lead`, if `t` starts with it. -/
def after? (lead t : Text) : Option Text :=
  if lead.isPrefixOf t then some (t.drop lead.length) else none

/-- `t` without `tail` at its end, if it ends with it. -/
def removeTail (tail t : Text) : Text :=
  if tail.isSuffixOf t then t.take (t.length - tail.length) else t

/-- The parts of `t` before and after the first `mark`, if there is one. -/
def cut? (mark : CodePoint) (t : Text) : Option (Text × Text) :=
  match t.dropWhile (· != mark) with
  | [] => none
  | _ :: rest => some (t.takeWhile (· != mark), rest)

/-- The pieces of `t` between the occurrences of `mark`; always at least one piece. -/
def splitOn (mark : CodePoint) : Text → List Text
  | [] => [[]]
  | c :: rest =>
    if c = mark then [] :: splitOn mark rest
    else match splitOn mark rest with
      | [] => [[c]]
      | piece :: pieces => (c :: piece) :: pieces

/-- `t` without the code points that `blank` accepts at both ends. -/
def trim (blank : CodePoint → Bool) (t : Text) : Text :=
  ((t.dropWhile blank).reverse.dropWhile blank).reverse

/-- The number written by decimal digits alone, with nothing before, between or after. -/
def digits? (t : Text) : Option Nat :=
  if t.isEmpty || !t.all CodePoint.isDigit then none
  else some (t.foldl (fun n c => n * 10 + c.digitValue) 0)

/-- `n` in exactly `width` lower-case hexadecimal digits. -/
def hex : (width : Nat) → (n : Nat) → Text
  | 0, _ => []
  | width + 1, n => hex width (n / 16) ++ [CodePoint.char (Nat.digitChar (n % 16))]

/-- `t` with each half by the three marks that stand for its unreadable bytes. -/
def withoutHalves (t : Text) : Text :=
  t.flatMap fun
    | .half _ => List.replicate 3 (.char '\ufffd')
    | c => [c]

/-- The characters of `t`, with U+FFFD for what no character stands for. -/
def toString (t : Text) : String :=
  String.ofList (t.map fun
    | .char c => c
    | _ => '\ufffd')

end Text
end Schematic
