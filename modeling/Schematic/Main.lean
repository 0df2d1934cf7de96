import Schematic.Cli.Run
import Schematic.Script.Import
import Std.Time.Format

open Schematic

/-- The texts of the path and of all that lies above it. -/
def pathsDownTo (p : Path) : List Path := (List.range (p.length + 1)).map p.take

def observe (t : FileTree) (p : Path) : IO FileTree := do
  let place := (← IO.currentDir) / p.toText.toString
  if ← place.isDir then return { t with directories := p :: t.directories }
  else if ← place.pathExists then
    return t.write p (← IO.FS.readBinFile place).toList
  else return t

def relevantPaths (workingDirectory : Path) (texts : List Text) : List Path :=
  match Cli.Arguments.ofTexts texts with
  | .error _ => []
  | .ok a =>
    let paths := [Path.ofValue workingDirectory a.schema.toValue] ++ (a.outputPath workingDirectory).toList
    paths.flatMap fun p => (p.toOption.map pathsDownTo).getD []

/-- Bring the file system from the tree `before` to the tree `after`. -/
def writeBack (before after : FileTree) : IO Unit := do
  for p in after.directories do
    if !before.directories.contains p then
      IO.FS.createDirAll ((← IO.currentDir) / p.toText.toString)
  for (p, bytes) in after.files do
    if before.content? p ≠ some bytes then
      IO.FS.writeBinFile ((← IO.currentDir) / p.toText.toString) (ByteArray.mk bytes.toArray)

def main (arguments : List String) : IO UInt32 := do
  let here ← IO.currentDir
  let workingDirectory := Path.ofText [] (Text.ofString here.toString)
  let texts := arguments.map Text.ofString
  let time := (← Std.Time.PlainDateTime.now).format "uuuu-MM-dd HH:mm:ss,SSS"
  let tree ← (relevantPaths workingDirectory texts).foldlM observe ⟨[workingDirectory], []⟩
  let result := Cli.run (.ofTime (Text.ofString time)) ⟨workingDirectory, Script.importer, 990, 980⟩ tree texts
  writeBack tree result.tree
  (← IO.getStderr).putStr result.stderr.toString
  (← IO.getStdout).putStr result.stdout.toString
  match result.ending with
  | .exit code => return UInt32.ofNat code
  | .stopped .null => return 0
  | .stopped (.int code) => return UInt32.ofNat (code % 256).toNat
  | .stopped word =>
    (← IO.getStderr).putStrLn word.shown.toString
    return 1
  | .raised className message =>
    (← IO.getStderr).putStrLn (className ++ ": " ++ message).toString
    return 1
