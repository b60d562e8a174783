import CrateGraph.CommandLine.Run
import Std.Time

/-!
The command itself: it looks at the files that its words name, runs, and prints and stores what the
run leaves. No other program is started from here, so the toolchain counts as not installed.
-/

namespace CrateGraph.CommandLine

/-- The file or directory at a place. What is neither counts as an empty file. -/
def probe (place : List String) : IO (Option FileNode) := do
  let path := (← IO.currentDir) / ("/" ++ String.intercalate "/" place)
  if !(← path.pathExists) then return none
  match (← path.metadata).type with
  | .dir => return some .directory
  | .file => return some (.file (← IO.FS.readBinFile path).toList)
  | _ => return some (.file [])

def gather (tree : FileTree) (text : String) : IO FileTree := do
  let path := Path.ofString text
  let start := if path.isAbsolute then [] else tree.home
  let places := (List.range (path.parts.length + 1)).map fun count =>
    Path.collapse (start ++ path.parts.take count)
  places.foldlM (fun tree place => do
    match ← probe place with
    | none => return tree
    | some node => return { tree with nodes := Entries.insert place node tree.nodes }) tree

def surroundings (words : List String) : IO Surroundings := do
  let home := (Path.ofString (← IO.currentDir).toString).parts
  let paths := match Arguments.ofTexts words with
    | .ok arguments => arguments.paths
    | .error _ => []
  let tree ← paths.foldlM gather ⟨home, []⟩
  let time ← Std.Time.PlainDateTime.now
  return ⟨tree, none, time.format "uuuu-MM-dd HH:mm:ss"⟩

def store (earlier later : FileTree) : IO Unit :=
  later.nodes.forM fun (place, node) => do
    match node with
    | .directory => pure ()
    | .file content =>
        if Entries.get? place earlier.nodes ≠ some node then
          IO.FS.writeBinFile ("/" ++ String.intercalate "/" place) ⟨content.toArray⟩

end CrateGraph.CommandLine

open CrateGraph.CommandLine in
def main (words : List String) : IO UInt32 := do
  let found ← surroundings words
  let (ending, session) := CrateGraph.CommandLine.run found words
  store found.tree session.tree
  IO.print session.output
  IO.eprint session.errors
  match ending with
  | .aborted error =>
      IO.eprintln error.message
      return 1
  | ending => return ((ending.code?).getD 1).toUInt32
