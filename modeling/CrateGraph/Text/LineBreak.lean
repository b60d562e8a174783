/-!
Where a text breaks into lines.

Two notions are used. A file read as text has its carriage returns turned into line feeds, alone or
before a line feed. Independently, a text splits into lines at any character that Unicode counts as
a line boundary, and a carriage return with a line feed after it is one boundary.
-/

namespace CrateGraph.Text

def isLineBoundary (character : Char) : Bool :=
  let code := character.toNat
  (0x0A ≤ code && code ≤ 0x0D) || (0x1C ≤ code && code ≤ 0x1E) || code == 0x85 ||
    code == 0x2028 || code == 0x2029

/-- Turns each carriage return, together with a line feed that follows it, into one line feed;
`unified` holds in reverse what precedes. -/
def unifyLineEndsFrom (unified : List Char) : List Char → List Char
  | [] => unified.reverse
  | '\r' :: '\n' :: rest => unifyLineEndsFrom ('\n' :: unified) rest
  | '\r' :: rest => unifyLineEndsFrom ('\n' :: unified) rest
  | character :: rest => unifyLineEndsFrom (character :: unified) rest

def unifyLineEnds (text : String) : String :=
  String.ofList (unifyLineEndsFrom [] text.toList)

/-- The lines of a text, `line` holding in reverse what precedes on the current one. A boundary at
the very end opens no further line. -/
def linesFrom (line : List Char) : List Char → List (List Char)
  | [] => if line.isEmpty then [] else [line.reverse]
  | '\r' :: '\n' :: rest => line.reverse :: linesFrom [] rest
  | character :: rest =>
      if isLineBoundary character then line.reverse :: linesFrom [] rest
      else linesFrom (character :: line) rest

def splitLines (text : String) : List String :=
  (linesFrom [] text.toList).map String.ofList

example : splitLines "a\r\nb\u2028\n c" = ["a", "b", "", " c"] := by decide +kernel

example : unifyLineEnds "a\r\nb\rc\n\r" = "a\nb\nc\n\n" := by decide +kernel

example : splitLines "a\n" = ["a"] := by decide +kernel

end CrateGraph.Text
