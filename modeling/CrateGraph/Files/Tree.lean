import CrateGraph.Entries
import CrateGraph.Files.Path
import CrateGraph.Text.Quoted

/-!
A tree of files with a place in it that relative paths start from.

Every name in the middle of a path has to be that of a directory. Two dots lead to the directory
above, and the top directory is above itself. A name has at most 255 bytes and a path at most 4095.
-/

namespace CrateGraph

inductive FileNode where
  | file (content : List UInt8)
  | directory
deriving DecidableEq

inductive FileFault where
  | notFound
  | notADirectory
  | isADirectory
  | nameTooLong
deriving DecidableEq

def FileFault.message : FileFault → String
  | .notFound => "[Errno 2] No such file or directory"
  | .notADirectory => "[Errno 20] Not a directory"
  | .isADirectory => "[Errno 21] Is a directory"
  | .nameTooLong => "[Errno 36] File name too long"

def FileFault.messageFor (fault : FileFault) (path : String) : String :=
  fault.message ++ ": " ++ Text.quoted path

structure OverlongPath where
  path : String
deriving DecidableEq

def OverlongPath.message (error : OverlongPath) : String :=
  FileFault.nameTooLong.messageFor error.path

/-- Files and directories by their names from the top; a directory above a listed one need not be
listed. -/
structure FileTree where
  home : List String
  nodes : Entries (List String) FileNode

namespace FileTree

def node? (tree : FileTree) (place : List String) : Option FileNode :=
  match Entries.get? place tree.nodes with
  | some node => some node
  | none =>
      if place.isPrefixOf tree.home || tree.nodes.any fun (other, _) => place.isPrefixOf other then
        some .directory
      else none

/-- Follows names from a place on. The last name need not belong to anything. -/
def resolveFrom (tree : FileTree) (place : List String) :
    List String → Except FileFault (List String)
  | [] => .ok place
  | part :: rest =>
      match tree.node? place with
      | none => .error .notFound
      | some (.file _) => .error .notADirectory
      | some .directory =>
          if part = "." then tree.resolveFrom place rest
          else if part = ".." then tree.resolveFrom place.dropLast rest
          else if 255 < part.utf8ByteSize then .error .nameTooLong
          else tree.resolveFrom (place ++ [part]) rest

def resolve (tree : FileTree) (text : String) (pieces : List String) :
    Except FileFault (List String) :=
  if 4095 < text.utf8ByteSize then .error .nameTooLong
  else tree.resolveFrom (if (Path.ofString text).isAbsolute then [] else tree.home) pieces

/-- What stands at a path, if there is anything. Of the ways to find nothing, only an overlong path
is a fault. -/
def find (tree : FileTree) (path : Path) : Except OverlongPath (Option FileNode) :=
  if Path.holdsZero path.toString then .ok none
  else
    match tree.resolve path.toString path.parts with
    | .ok place => .ok (tree.node? place)
    | .error .nameTooLong => .error ⟨path.toString⟩
    | .error _ => .ok none

def content? (tree : FileTree) (path : Path) : Except OverlongPath (Option (List UInt8)) :=
  (tree.find path).map fun
    | some (.file content) => some content
    | _ => none

/-- The place of a file that can be written at a path given as text. A path that ends in a slash
means a directory, whose own name is not looked at; and a name before a single dot has to be that
of a directory. -/
def writable (tree : FileTree) (text : String) : Except FileFault (List String) := do
  let pieces := (Path.piecesFrom [] text.toList).filter (· != "")
  if text.toList.getLast? = some '/' then
    match tree.node? (← tree.resolve text pieces.dropLast) with
    | none => throw .notFound
    | some (.file _) => throw .notADirectory
    | some .directory => throw .isADirectory
  let place ← tree.resolve text pieces
  if tree.node? place = some .directory then throw .isADirectory
  pure place

def write (tree : FileTree) (place : List String) (content : List UInt8) : FileTree :=
  { tree with nodes := Entries.insert place (.file content) tree.nodes }

def append (tree : FileTree) (place : List String) (content : List UInt8) : FileTree :=
  match tree.node? place with
  | some (.file present) => tree.write place (present ++ content)
  | _ => tree.write place content

/-- Writes over a file from its start on; what it holds further on stays. -/
def overwrite (tree : FileTree) (place : List String) (content : List UInt8) : FileTree :=
  match tree.node? place with
  | some (.file present) => tree.write place (content ++ present.drop content.length)
  | _ => tree.write place content

def absolutePath (tree : FileTree) (text : String) : Path :=
  let path := Path.ofString text
  if path.isAbsolute then ⟨path.root, Path.collapse path.parts⟩
  else ⟨"/", Path.collapse (tree.home ++ path.parts)⟩

end FileTree

end CrateGraph
