import CrateGraph.Text.Quoted

/-!
Surrogates in a text that is to be written as UTF-8, which has no form for them.
-/

namespace CrateGraph.Text

structure UnencodableRun where
  position : Nat
  first : CodePoint
  count : Nat
deriving DecidableEq

def unencodable? (text : WideText) : Option UnencodableRun :=
  match text.dropWhile (!·.isSurrogate) with
  | [] => none
  | first :: rest =>
      some ⟨(text.takeWhile (!·.isSurrogate)).length, first,
        1 + (rest.takeWhile CodePoint.isSurrogate).length⟩

def UnencodableRun.message (run : UnencodableRun) : String :=
  let place :=
    if run.count = 1 then
      "character " ++ quotedWide [run.first] ++ " in position " ++ toString run.position
    else
      "characters in position " ++ toString run.position ++ "-" ++
        toString (run.position + run.count - 1)
  "'utf-8' codec can't encode " ++ place ++ ": surrogates not allowed"

example : unencodable? (WideText.ofString "a→b") = none := by decide +kernel

example : unencodable? [.scalar 'a', .surrogate 0, .surrogate 1] = some ⟨1, .surrogate 0, 2⟩ := by
  decide +kernel

end CrateGraph.Text
