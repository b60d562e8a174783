/-!
Blank characters and the trimming of text at both ends.
-/

namespace CrateGraph.Text

/-- White space in the wide sense: the ASCII controls that separate fields and lines, the no-break
space and the spaces and separators of Unicode. -/
def isBlank (character : Char) : Bool :=
  let code := character.toNat
  (0x09 ≤ code && code ≤ 0x0D) || (0x1C ≤ code && code ≤ 0x20) || code == 0x85 || code == 0xA0 ||
    code == 0x1680 || (0x2000 ≤ code && code ≤ 0x200A) || code == 0x2028 || code == 0x2029 ||
    code == 0x202F || code == 0x205F || code == 0x3000

def trimCharacters (drop : Char → Bool) (characters : List Char) : List Char :=
  ((characters.dropWhile drop).reverse.dropWhile drop).reverse

def strip (text : String) : String :=
  String.ofList (trimCharacters isBlank text.toList)

def stripCharacter (character : Char) (text : String) : String :=
  String.ofList (trimCharacters (· == character) text.toList)

example : strip "\t a b \u3000" = "a b" := by decide +kernel

example : stripCharacter '"' "\"\"x\"" = "x" := by decide +kernel

end CrateGraph.Text
