import Schematic.Text.Utf8

/-! A path is its components from the root. A relative path is read from a base; `.` and empty components are
dropped, and `..` drops the component before it. The text of a path cannot be used if one of its components
holds a NUL, or half of a surrogate pair that does not stand for a byte. -/
namespace Schematic

abbrev Path := List Text

namespace Path

/-- Follow one component from `p`. -/
def follow (p : Path) (component : Text) : Path :=
  if component.isEmpty || component = ("." : Text) then p
  else if component = (".." : Text) then p.dropLast
  else p ++ [component]

/-- The path that `t` names where `base` is the working directory. -/
def ofText (base : Path) (t : Text) : Path :=
  let start := if t.head? = some (CodePoint.char '/') then [] else base
  (t.splitOn (CodePoint.char '/')).foldl follow start

def toText (p : Path) : Text := "/" ++ Text.join "/" p

def name (p : Path) : Text := p.getLastD []

inductive Unusable where
  | holdsNul
  | holdsHalves (e : Text.EncodeError)
deriving DecidableEq, Repr

namespace Unusable

def className : Unusable → Text
  | holdsNul => "ValueError"
  | holdsHalves _ => "UnicodeEncodeError"

def message : Unusable → Text
  | holdsNul => "embedded null byte"
  | holdsHalves e => e.message

end Unusable

/-- What lies above a path that may begin with `..`, which a path from the root does not. -/
def above (fromRoot : Bool) (p : Path) : Path :=
  if !p.isEmpty && p.name ≠ (".." : Text) then p.dropLast
  else if fromRoot then []
  else p ++ [Text.ofString ".."]

/-- What is wrong with the components of a text that follow those at `done`. -/
def unusableFrom (fromRoot : Bool) (done : Path) : List Text → Option Unusable
  | [] => none
  | component :: rest =>
    if component.isEmpty || component = ("." : Text) then unusableFrom fromRoot done rest
    else if component = (".." : Text) then unusableFrom fromRoot (above fromRoot done) rest
    else
      let next := done ++ [component]
      let text : Text := if fromRoot then next.toText else Text.join "/" next
      match text.firstHalves CodePoint.isByte with
      | some e => some (.holdsHalves e)
      | none =>
        if component.contains (CodePoint.char '\x00') then some .holdsNul else unusableFrom fromRoot next rest

def unusable? (t : Text) : Option Unusable :=
  unusableFrom (t.head? = some (CodePoint.char '/')) [] (t.splitOn (CodePoint.char '/'))

/-- The last dot of the name and what follows it; a dot at either end of the name does not count. -/
def suffix (p : Path) : Text :=
  let tail := (p.name.reverse.takeWhile (· ≠ CodePoint.char '.')).reverse
  if tail.isEmpty || p.name.length ≤ tail.length + 1 then [] else CodePoint.char '.' :: tail

end Path
end Schematic
