import Schematic.Text.Quoted

namespace Schematic.Text

inductive DecodeReason where
  | invalidStart
  | invalidContinuation
  | endOfData
deriving DecidableEq, Repr

/-- Bytes `start` to `start + length - 1` cannot be read; `first` is the byte at `start`. -/
structure DecodeError where
  first : UInt8
  start : Nat
  length : Nat
  reason : DecodeReason
deriving DecidableEq, Repr

def DecodeReason.words : DecodeReason → Text
  | invalidStart => "invalid start byte"
  | invalidContinuation => "invalid continuation byte"
  | endOfData => "unexpected end of data"

def DecodeError.message (e : DecodeError) : Text :=
  (if e.length = 1 then "'utf-8' codec can't decode byte 0x" ++ hex 2 e.first.toNat ++ " in position " ++ ofNat e.start
   else "'utf-8' codec can't decode bytes in position " ++ ofNat e.start ++ "-" ++ ofNat (e.start + e.length - 1)) ++
    ": " ++ e.reason.words

/-- What follows a first byte: how many bytes, and the range of the second one. -/
def following? (first : Nat) : Option (Nat × Nat × Nat) :=
  if first < 0x80 then some (0, 0, 0)
  else if first < 0xc2 then none
  else if first < 0xe0 then some (1, 0x80, 0xbf)
  else if first < 0xf0 then
    some (2, if first = 0xe0 then 0xa0 else 0x80, if first = 0xed then 0x9f else 0xbf)
  else if first < 0xf5 then
    some (3, if first = 0xf0 then 0x90 else 0x80, if first = 0xf4 then 0x8f else 0xbf)
  else none

/-- Take `count` continuation bytes, the next one between `low` and `high`. Gives the number they
continue and the bytes left, or how many bytes fitted and why the next did not. -/
def continuation : (count low high number : Nat) → List UInt8 → Except (Nat × DecodeReason) (Nat × List UInt8)
  | 0, _, _, number, rest => .ok (number, rest)
  | _ + 1, _, _, _, [] => .error (0, .endOfData)
  | count + 1, low, high, number, b :: rest =>
    if low ≤ b.toNat && b.toNat ≤ high then
      match continuation count 0x80 0xbf (number * 0x40 + b.toNat % 0x40) rest with
      | .ok r => .ok r
      | .error (fitted, reason) => .error (fitted + 1, reason)
    else .error (0, .invalidContinuation)

/-- The bits of a first byte that belong to the code point's number. -/
def leadBits (first : Nat) : Nat :=
  if first < 0x80 then first
  else if first < 0xe0 then first % 0x20
  else if first < 0xf0 then first % 0x10
  else first % 0x08

theorem continuation_length {count low high number : Nat} {bytes rest : List UInt8} {n : Nat}
    (h : continuation count low high number bytes = .ok (n, rest)) : rest.length ≤ bytes.length := by
  induction count generalizing low high number bytes with
  | zero => cases h; exact Nat.le_refl _
  | succ count ih =>
    cases bytes with
    | nil => cases h
    | cons b bytes =>
      simp only [continuation] at h
      split at h
      · split at h
        · rename_i hr; cases h; exact Nat.le_succ_of_le (ih hr)
        · cases h
      · cases h

/-- The code points of `bytes`, which stand at `position` in the whole. -/
def decodeFrom (position : Nat) (bytes : List UInt8) : Except DecodeError Text :=
  match bytes with
  | [] => .ok []
  | b :: more =>
    match following? b.toNat with
    | none => .error ⟨b, position, 1, .invalidStart⟩
    | some (count, low, high) =>
      match _h : continuation count low high (leadBits b.toNat) more with
      | .error (fitted, reason) => .error ⟨b, position, fitted + 1, reason⟩
      | .ok (number, rest) =>
        (decodeFrom (position + count + 1) rest).map (CodePoint.ofNat number :: ·)
termination_by bytes.length
decreasing_by
  have := continuation_length _h
  simp only [List.length_cons]
  omega

def decode (bytes : List UInt8) : Except DecodeError Text := decodeFrom 0 bytes

/-- The code points of `bytes`, with a half of a surrogate pair for each byte that belongs to none. -/
def decodeKeeping (bytes : List UInt8) : Text :=
  match bytes with
  | [] => []
  | b :: more =>
    match following? b.toNat with
    | none => kept b :: decodeKeeping more
    | some (count, low, high) =>
      match _h : continuation count low high (leadBits b.toNat) more with
      | .error _ => kept b :: decodeKeeping more
      | .ok (number, rest) => CodePoint.ofNat number :: decodeKeeping rest
termination_by bytes.length
decreasing_by
  · simp
  · simp
  · have := continuation_length _h
    simp only [List.length_cons]
    omega
where
  kept (b : UInt8) : CodePoint := .half (Fin.ofNat 0x800 (0x400 + b.toNat))

/-- The bytes of a text in which halves of surrogate pairs stand for bytes. -/
def keptBytes (t : Text) : List UInt8 :=
  t.flatMap fun
    | .char c => (String.singleton c).toUTF8.toList
    | .half offset => [UInt8.ofNat (offset.val % 0x100)]
    | .gap _ => []

/-- The place and the kind of the first halves that cannot be written. -/
structure EncodeError where
  start : Nat
  halves : Text
deriving DecidableEq, Repr

def EncodeError.message (e : EncodeError) : Text :=
  (match e.halves with
   | [c] => "'utf-8' codec can't encode character '" ++ numbered c.toNat ++ "' in position " ++ ofNat e.start
   | cs => "'utf-8' codec can't encode characters in position " ++ ofNat e.start ++ "-" ++
      ofNat (e.start + cs.length - 1)) ++ ": surrogates not allowed"

/-- The first run of halves in `t` that begins with one that is not `spared`. -/
def firstHalves (t : Text) (spared : CodePoint → Bool) : Option EncodeError :=
  match t.dropWhile fun c => !c.isHalf || spared c with
  | [] => none
  | rest => some ⟨t.length - rest.length, rest.takeWhile CodePoint.isHalf⟩

/-- `t` as characters, or the first run of halves that stand in it. -/
def encodable (t : Text) : Except EncodeError String :=
  match t.firstHalves fun _ => false with
  | none => .ok t.toString
  | some e => .error e

end Schematic.Text
