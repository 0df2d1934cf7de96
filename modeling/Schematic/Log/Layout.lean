import Schematic.Text.Word

namespace Schematic

namespace Layout

/-- What follows a star or digits at the start of a text. -/
def afterSize (t : Text) : Text :=
  match t with
  | .char '*' :: rest => rest
  | t => t.dropWhile fun c => c.decimalValue?.isSome

/-- What follows a point and a star or digits at the start of a text. -/
def afterPrecision (t : Text) : Text :=
  match t with
  | .char '.' :: rest => if (afterSize rest).length < rest.length then afterSize rest else t
  | t => t

/-- The letters of forms in both cases, with the letters that are equal to one of them in another case. -/
def formLetters : Text := "diouxefgcrsaDIOUXEFGCRSA%\u0130\u0131\u017f"

/-- Whether a text starts with a place: a word in parentheses, and how its value is written. -/
def startsWithPlace (t : Text) : Bool :=
  match t with
  | .char '%' :: .char '(' :: rest =>
    match rest.takeWhile CodePoint.isWordPart, rest.dropWhile CodePoint.isWordPart with
    | _ :: _, .char ')' :: more =>
      (afterPrecision (afterSize (more.dropWhile (("#0+ -" : Text).contains ·)))).head?.any formLetters.contains
    | _, _ => false
  | _ => false

def hasPlace : Text → Bool
  | [] => false
  | c :: rest => startsWithPlace (c :: rest) || hasPlace rest

def isSound (layout : Text) : Bool := layout.isEmpty || hasPlace layout

end Layout
end Schematic
