import Schematic.Text.Basic
import Schematic.Text.NameTable

namespace Schematic.CharacterName

/-- The first words of a name, each with the blank behind it. -/
def firstWords : Nat → List Char → List Char
  | 0, _ => []
  | k + 1, name => name.takeWhile (· ≠ ' ') ++ ' ' :: firstWords k ((name.dropWhile (· ≠ ' ')).drop 1)

structure Reading where
  /-- The code point of the name that is being read. -/
  code : Nat
  /-- The name before. -/
  previous : List Char
  /-- How many words are shared with the name before; none while the start of a run is being read. -/
  shared : Option Nat
  /-- What has been read of the name, backwards. -/
  backwards : List Char
  found : Option Nat

namespace Reading

def start : Reading := ⟨0, [], none, [], none⟩

def finish (name : List Char) (r : Reading) : Reading :=
  match r.shared with
  | none => r
  | some k =>
    let read := firstWords k r.previous ++ r.backwards.reverse
    ⟨r.code + 1, read, none, [], if read = name then some r.code else r.found⟩

def step (name : List Char) (r : Reading) (c : Char) : Reading :=
  if c = '\n' then r
  else if c = '@' then { r.finish name with code := 0 }
  else if c.isLower then { r.finish name with shared := some (c.toNat - 'a'.toNat) }
  else match r.shared with
    | some _ => { r with backwards := c :: r.backwards }
    | none => { r with code := r.code * 16 + ((CodePoint.char c).hexValue?).getD 0 }

end Reading

def tabled? (name : List Char) : Option Nat := ((nameTable.foldl (Reading.step name) .start).finish name).found

/-- The code point of a name in the table of other names. -/
def alias? (name : List Char) : Option Nat :=
  aliasTable.findSome? fun line => (line.splitOn "|").findSome? fun entry =>
    match entry.splitOn ":" with
    | [other, code] =>
      if other.toList = name then some (code.toList.foldl (fun n c => n * 16 + ((CodePoint.char c).hexValue?).getD 0) 0)
      else none
    | _ => none

/-- The number that is written by four or five hexadecimal digits in capitals. -/
def codeNumber? (digits : List Char) : Option Nat :=
  if (digits.length = 4 || digits.length = 5) && digits.all fun c => c.isDigit || ('A' ≤ c && c ≤ 'F') then
    some (digits.foldl (fun n c => n * 16 + ((CodePoint.char c).hexValue?).getD 0) 0)
  else none

def isWithin (ranges : List (Nat × Nat)) (n : Nat) : Bool := ranges.any fun r => r.1 ≤ n && n ≤ r.2

def ideographs : List (Nat × Nat) :=
  [(0x3400, 0x4dbf), (0x4e00, 0x9fff), (0x20000, 0x2a6df), (0x2a700, 0x2b738), (0x2b740, 0x2b81d),
   (0x2b820, 0x2cea1), (0x2ceb0, 0x2ebe0), (0x30000, 0x3134a)]

/-- Other characters that are named by their number, with the words before it. -/
def numbered : List (String × List (Nat × Nat)) :=
  [("CJK COMPATIBILITY IDEOGRAPH-", [(0xf900, 0xfa6d), (0xfa70, 0xfad9), (0x2f800, 0x2fa1d)]),
   ("KHITAN SMALL SCRIPT CHARACTER-", [(0x18b00, 0x18cd5)]), ("NUSHU CHARACTER-", [(0x1b170, 0x1b2fb)])]

/-- What follows `lead` in a name. -/
def after? (lead : String) (name : List Char) : Option (List Char) :=
  if lead.toList.isPrefixOf name then some (name.drop lead.length) else none

def numbered? (name : List Char) : Option Nat :=
  numbered.findSome? fun (lead, ranges) =>
    (after? lead name).bind fun digits => (codeNumber? digits).bind fun n =>
      if isWithin ranges n && (digits.length = 5 ↔ 0x10000 ≤ n) then some n else none

def selector? (name : List Char) : Option Nat :=
  (after? "VS" name).bind fun digits =>
    if digits.head? = some '0' then none
    else (Text.digits? (digits.map CodePoint.char)).bind fun n =>
      if 1 ≤ n && n ≤ 16 then some (0xfdff + n) else if 17 ≤ n && n ≤ 256 then some (0xe00ef + n) else none

def startSounds : List String :=
  ["G", "GG", "N", "D", "DD", "R", "M", "B", "BB", "S", "SS", "", "J", "JJ", "C", "K", "T", "P", "H"]

def middleSounds : List String :=
  ["A", "AE", "YA", "YAE", "EO", "E", "YEO", "YE", "O", "WA", "WAE", "OE", "YO", "U", "WEO", "WE", "WI", "YU", "EU",
   "YI", "I"]

def endSounds : List String :=
  ["", "G", "GG", "GS", "N", "NJ", "NH", "D", "L", "LG", "LM", "LB", "LS", "LT", "LP", "LH", "M", "B", "BS", "S", "SS",
   "NG", "J", "C", "K", "T", "P", "H"]

/-- The number of the longest sound that a name starts with, and what follows it. -/
def sound? (sounds : List String) (name : List Char) : Option (Nat × List Char) :=
  (sounds.zipIdx.foldl (fun best (sound, i) =>
    match after? sound name, best with
    | some rest, some (_, shortest) => if rest.length < shortest.length then some (i, rest) else best
    | some rest, none => some (i, rest)
    | none, _ => best) (none : Option (Nat × List Char)))

def syllable? (name : List Char) : Option Nat := do
  let (l, name) ← sound? startSounds name
  let (v, name) ← sound? middleSounds name
  let (t, name) ← sound? endSounds name
  if name.isEmpty then some (0xac00 + (l * 21 + v) * 28 + t) else none

/-- The character of a name. Small letters in it count as capitals, but not in the fixed words of syllables
and ideographs. -/
def find? (name : Text) : Option CodePoint :=
  if !name.all CodePoint.isAscii then none
  else
    let given := name.toString.toList
    let capitals := given.map Char.toUpper
    let code := match after? "HANGUL SYLLABLE " given, after? "CJK UNIFIED IDEOGRAPH-" given with
      | some sounds, _ => syllable? sounds
      | none, some digits =>
        if digits.isEmpty then none
        else (codeNumber? digits).bind fun n => if isWithin ideographs n then some n else none
      | none, none =>
        ((tabled? capitals).or (numbered? capitals)).or ((alias? capitals).or (selector? capitals))
    code.map CodePoint.ofNat

end Schematic.CharacterName
