/-!
Paths of files, as texts and taken apart.

Taking a path apart forgets repeated slashes, single dots and a slash at the end; two dots are kept,
since what they lead to depends on the files.
-/

namespace CrateGraph

/-- The slashes that an absolute path starts with, and the names after them. -/
structure Path where
  root : String
  parts : List String
deriving DecidableEq

namespace Path

/-- The pieces of a text between its slashes; `piece` holds in reverse what precedes. -/
def piecesFrom (piece : List Char) : List Char → List String
  | [] => [String.ofList piece.reverse]
  | '/' :: rest => String.ofList piece.reverse :: piecesFrom [] rest
  | character :: rest => piecesFrom (character :: piece) rest

/-- Exactly two slashes at the start stand for a root of their own. -/
def rootOf : List Char → String
  | '/' :: '/' :: '/' :: _ => "/"
  | '/' :: '/' :: _ => "//"
  | '/' :: _ => "/"
  | _ => ""

def ofString (text : String) : Path where
  root := rootOf text.toList
  parts := (piecesFrom [] text.toList).filter fun part => part != "" && part != "."

def holdsZero (text : String) : Bool :=
  text.toList.contains '\x00'

def isAbsolute (path : Path) : Bool :=
  path.root != ""

def toString (path : Path) : String :=
  if path.root = "" && path.parts.isEmpty then "."
  else path.root ++ String.intercalate "/" path.parts

def append (directory path : Path) : Path :=
  if path.isAbsolute then path else ⟨directory.root, directory.parts ++ path.parts⟩

def child (directory : Path) (text : String) : Path :=
  directory.append (ofString text)

def fileName (path : Path) : String :=
  path.parts.getLast?.getD ""

/-- The end of the file name from its last dot on, unless that dot is its first or last
character. -/
def suffix (path : Path) : String :=
  let reversed := path.fileName.toList.reverse
  let after := reversed.takeWhile (· != '.')
  match reversed.dropWhile (· != '.') with
  | _ :: _ :: _ => if after.isEmpty then "" else "." ++ String.ofList after.reverse
  | _ => ""

def collapse (parts : List String) : List String :=
  (parts.foldl (fun kept part => if part = ".." then kept.tail else part :: kept) []).reverse

example : (ofString "./x//a.json").toString = "x/a.json" := by decide +kernel

example : (ofString "").toString = "." ∧ (ofString "k/..").toString = "k/.." := by decide +kernel

example : (ofString "a/b.tar.gz").suffix = ".gz" ∧ (ofString "a/.json").suffix = "" ∧
    (ofString "a/b.").suffix = "" := by
  decide +kernel

end Path

end CrateGraph
