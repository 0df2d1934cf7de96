import Schematic.Files.Path
import Schematic.Text.Quoted

namespace Schematic

structure FileTree where
  directories : List Path
  files : List (Path × List UInt8)
deriving DecidableEq, Inhabited, Repr

inductive FileTrouble where
  | fileExists
  | notADirectory
  | isADirectory
  | nameTooLong
deriving DecidableEq, Repr

structure FileError where
  trouble : FileTrouble
  path : Path
deriving DecidableEq, Repr

def FileTrouble.number : FileTrouble → Nat
  | fileExists => 17
  | notADirectory => 20
  | isADirectory => 21
  | nameTooLong => 36

def FileTrouble.words : FileTrouble → Text
  | fileExists => "File exists"
  | notADirectory => "Not a directory"
  | isADirectory => "Is a directory"
  | nameTooLong => "File name too long"

def FileError.message (e : FileError) : Text :=
  "[Errno " ++ Text.ofNat e.trouble.number ++ "] " ++ e.trouble.words ++ ": " ++ e.path.toText.quoted

inductive FileStatus where
  | file
  | directory
  | missing
  /-- A file is in the way. -/
  | blocked
  | nameTooLong
deriving DecidableEq, Repr

def isLongName (name : Text) : Bool := 255 < name.byteCount

def Path.isLong (p : Path) : Bool := 4096 ≤ p.toText.byteCount

namespace FileTree

def content? (t : FileTree) (p : Path) : Option (List UInt8) := (t.files.find? (·.1 = p)).map (·.2)

def isFile (t : FileTree) (p : Path) : Bool := (t.content? p).isSome

def isDirectory (t : FileTree) (p : Path) : Bool :=
  p.isEmpty || t.directories.any (p.isPrefixOf ·) || t.files.any fun f => p.isPrefixOf f.1 && f.1 ≠ p

/-- What is met on the way from `done` down through `rest`. -/
def statusFrom (t : FileTree) (done : Path) : (rest : List Text) → FileStatus
  | [] => if t.isFile done then .file else if t.isDirectory done then .directory else .missing
  | name :: rest =>
    if t.isFile done then .blocked
    else if !t.isDirectory done then .missing
    else if isLongName name then .nameTooLong
    else statusFrom t (done ++ [name]) rest

def status (t : FileTree) (p : Path) : FileStatus := if p.isLong then .nameTooLong else t.statusFrom [] p

def write (t : FileTree) (p : Path) (bytes : List UInt8) : FileTree :=
  { t with files := (p, bytes) :: t.files.filter (·.1 ≠ p) }

/-- The tree with a directory at `p`, where nothing else may be. -/
def withDirectory (t : FileTree) (p : Path) : FileTree :=
  if t.isDirectory p then t else { t with directories := p :: t.directories }

/-- Make the directories from `done` down through `rest` that are missing, as far as that is possible, and
say what stopped it. -/
def makeFrom (t : FileTree) (done : Path) : (rest : List Text) → FileTree × Option FileError
  | [] => if t.isFile done then (t, some ⟨.fileExists, done⟩) else (t.withDirectory done, none)
  | name :: rest =>
    if t.isFile done then (t, some ⟨.notADirectory, done ++ name :: rest⟩)
    else if isLongName name then
      (t.withDirectory done, some ⟨.nameTooLong, if t.isDirectory done then done ++ name :: rest else done ++ [name]⟩)
    else makeFrom t (done ++ [name]) rest

/-- Make a directory and all that lie above it, unless they are there. -/
def makeDirectory (t : FileTree) (p : Path) : FileTree × Option FileError :=
  if p.isLong then (t, some ⟨.nameTooLong, p⟩) else t.makeFrom [] p

theorem content?_write (t : FileTree) (p q : Path) (bytes : List UInt8) :
    (t.write p bytes).content? q = if q = p then some bytes else t.content? q := by
  unfold write content?
  by_cases h : q = p
  · subst h; simp
  · have hp : p ≠ q := fun e => h e.symm
    simp only [List.find?_cons, hp, decide_false, h, if_false, List.find?_filter]
    congr 2
    funext f
    by_cases hf : f.1 = q <;> simp [hf, h]

@[simp] theorem content?_withDirectory (t : FileTree) (p q : Path) :
    (t.withDirectory p).content? q = t.content? q := by
  unfold withDirectory content?
  split <;> rfl

theorem content?_makeFrom (t : FileTree) (done rest q : List Text) :
    (t.makeFrom done rest).1.content? q = t.content? q := by
  fun_induction makeFrom t done rest <;> simp_all

/-- Making directories leaves every file as it is, also where it stops on the way. -/
@[simp] theorem content?_makeDirectory (t : FileTree) (p q : Path) :
    (t.makeDirectory p).1.content? q = t.content? q := by
  unfold makeDirectory
  split
  · rfl
  · exact content?_makeFrom t [] p q

end FileTree
end Schematic
