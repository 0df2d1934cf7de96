import Schematic.Text.Utf8

namespace Schematic.Text

inductive ByteOrder where
  | lowFirst
  | highFirst
deriving DecidableEq, Repr

/-- How an order of bytes is told in the name of an encoding. -/
def ByteOrder.suffix : ByteOrder → Text
  | lowFirst => "le"
  | highFirst => "be"

def ByteOrder.pair (order : ByteOrder) (a b : UInt8) : Nat :=
  match order with
  | lowFirst => a.toNat + 0x100 * b.toNat
  | highFirst => 0x100 * a.toNat + b.toNat

/-- Why some bytes are no text: where they begin, which they are, and the words for it. -/
structure UnitFlaw where
  start : Nat
  bytes : List UInt8
  words : Text
deriving DecidableEq, Repr

def UnitFlaw.message (codec : Text) (e : UnitFlaw) : Text :=
  "'" ++ codec ++ "' codec can't decode " ++
    (match e.bytes with
     | [b] => "byte 0x" ++ hex 2 b.toNat ++ " in position " ++ ofNat e.start
     | bytes => "bytes in position " ++ ofNat e.start ++ "-" ++ ofNat (e.start + bytes.length - 1)) ++
    ": " ++ e.words

def isHighSurrogate (unit : Nat) : Bool := 0xd800 ≤ unit && unit < 0xdc00
def isLowSurrogate (unit : Nat) : Bool := 0xdc00 ≤ unit && unit < 0xe000

/-- The code points of units of two bytes, which stand at `position` in the whole. -/
def ofUnits (order : ByteOrder) (position : Nat) : List UInt8 → Except UnitFlaw Text
  | [] => .ok []
  | [a] => .error ⟨position, [a], "truncated data"⟩
  | a :: b :: rest =>
    let unit := order.pair a b
    if isLowSurrogate unit then .error ⟨position, [a, b], "illegal encoding"⟩
    else if isHighSurrogate unit then
      match rest with
      | c :: d :: more =>
        let low := order.pair c d
        if isLowSurrogate low then
          (ofUnits order (position + 4) more).map
            (CodePoint.ofNat (0x10000 + 0x400 * (unit - 0xd800) + (low - 0xdc00)) :: ·)
        else .error ⟨position, [a, b], "illegal UTF-16 surrogate"⟩
      | few => .error ⟨position, a :: b :: few, "unexpected end of data"⟩
    else (ofUnits order (position + 2) rest).map (CodePoint.ofNat unit :: ·)

/-- The code points of numbers of four bytes, which stand at `position` in the whole. -/
def ofNumbers (order : ByteOrder) (position : Nat) : List UInt8 → Except UnitFlaw Text
  | [] => .ok []
  | a :: b :: c :: d :: rest =>
    let number :=
      match order with
      | .lowFirst => order.pair a b + 0x10000 * order.pair c d
      | .highFirst => 0x10000 * order.pair a b + order.pair c d
    if number ≥ 0x110000 then .error ⟨position, [a, b, c, d], "code point not in range(0x110000)"⟩
    else if isHighSurrogate number || isLowSurrogate number then
      .error ⟨position, [a, b, c, d], "code point in surrogate code point range(0xd800, 0xe000)"⟩
    else (ofNumbers order (position + 4) rest).map (CodePoint.ofNat number :: ·)
  | few => .error ⟨position, few, "truncated data"⟩

end Schematic.Text
