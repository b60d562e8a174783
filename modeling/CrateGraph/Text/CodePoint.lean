/-!
Text as a sequence of code points.

A `String` holds Unicode scalar values only. An escape such as `\ud800` in a JSON text names a
surrogate that has no partner, and that code point has no place in a `String`. `WideText` is the
text that such an escape can produce; `WideText.toString?` says which of it is ordinary text.
-/

namespace CrateGraph

/-- A code point is a scalar value or one of the 2048 surrogates, counted from U+D800. -/
inductive CodePoint where
  | scalar (character : Char)
  | surrogate (offset : Fin 0x800)
deriving DecidableEq

abbrev WideText := List CodePoint

namespace CodePoint

def toNat : CodePoint → Nat
  | .scalar character => character.toNat
  | .surrogate offset => 0xD800 + offset.val

/-- The code point with a given number; numbers past U+10FFFF stand for U+0000. -/
def ofNat (number : Nat) : CodePoint :=
  if surrogate : 0xD800 ≤ number ∧ number < 0xE000 then
    .surrogate ⟨number - 0xD800, by omega⟩
  else
    .scalar (Char.ofNat number)

def toChar? : CodePoint → Option Char
  | .scalar character => some character
  | .surrogate _ => none

def isSurrogate : CodePoint → Bool
  | .scalar _ => false
  | .surrogate _ => true

end CodePoint

namespace WideText

def ofString (text : String) : WideText :=
  text.toList.map CodePoint.scalar

def toString? (text : WideText) : Option String :=
  (text.mapM CodePoint.toChar?).map String.ofList

example : toString? (ofString "a→b") = some "a→b" := by decide +kernel

example : toString? [.ofNat 0x61, .ofNat 0xDFFF] = none := by decide +kernel

end WideText

end CrateGraph
