/-!
Digests: numbers of 64 bits by which texts and rows of texts are put in their places in a table.

The digest of a text mixes its code points, each in as many bytes as the widest of them needs, into
a state of four words. One round follows every eight bytes, and three rounds come at the end. All
arithmetic wraps.
-/

namespace CrateGraph.Text

def rotateLeft (word amount : UInt64) : UInt64 :=
  (word <<< amount) ||| (word >>> (64 - amount))

structure DigestState where
  first : UInt64
  second : UInt64
  third : UInt64
  fourth : UInt64

namespace DigestState

def start : DigestState where
  first := 0x736F6D6570736575
  second := 0x646F72616E646F6D
  third := 0x6C7967656E657261
  fourth := 0x7465646279746573

def round (state : DigestState) : DigestState :=
  let first := state.first + state.second
  let third := state.third + state.fourth
  let second := rotateLeft state.second 13 ^^^ first
  let fourth := rotateLeft state.fourth 16 ^^^ third
  let first := rotateLeft first 32
  let third := third + second
  let first := first + fourth
  { first := first
    second := rotateLeft second 17 ^^^ third
    third := rotateLeft third 32
    fourth := rotateLeft fourth 21 ^^^ first }

def absorb (state : DigestState) (word : UInt64) : DigestState :=
  let next := round { state with fourth := state.fourth ^^^ word }
  { next with first := next.first ^^^ word }

def finish (state : DigestState) : UInt64 :=
  let last := round (round (round { state with third := state.third ^^^ 0xFF }))
  last.first ^^^ last.second ^^^ last.third ^^^ last.fourth

end DigestState

def littleEndian (bytes : List UInt8) : UInt64 :=
  bytes.foldr (fun byte word => word * 256 + byte.toUInt64) 0

def lowBytes : (width : Nat) → Nat → List UInt8
  | 0, _ => []
  | width + 1, number => number.toUInt8 :: lowBytes width (number / 256)

/-- The code points of a text in one, two or four bytes each. -/
def evenBytes (text : String) : List UInt8 :=
  let codes := text.toList.map Char.toNat
  let width :=
    if codes.all (· < 0x100) then 1 else if codes.all (· < 0x10000) then 2 else 4
  codes.flatMap (lowBytes width)

/-- Takes in all bytes. The last word has room for the length of the text, of which the lowest byte
counts. -/
def absorbBytes (length : Nat) : (fuel : Nat) → DigestState → List UInt8 → DigestState
  | 0, state, _ => state
  | fuel + 1, state, bytes =>
      if bytes.length < 8 then
        state.absorb (littleEndian bytes ||| (length.toUInt64 <<< 56))
      else absorbBytes length fuel (state.absorb (littleEndian (bytes.take 8))) (bytes.drop 8)

/-- The word of ones alone is no digest. -/
def reserveOnes (digest : UInt64) : UInt64 :=
  if digest = 0xFFFFFFFFFFFFFFFF then 0xFFFFFFFFFFFFFFFE else digest

def digest (text : String) : UInt64 :=
  if text.isEmpty then 0
  else
    let bytes := evenBytes text
    reserveOnes (absorbBytes bytes.length (bytes.length + 1) DigestState.start bytes).finish

def digestOfRow (members : List UInt64) : UInt64 :=
  let seed : UInt64 := 0x27D4EB2F165667C5
  let mixed := members.foldl (fun mixed member =>
    rotateLeft (mixed + member * 0xC2B2AE3D27D4EB4F) 31 * 0x9E3779B185EBCA87) seed
  let total := mixed + (members.length.toUInt64 ^^^ (seed ^^^ 3527539))
  if total = 0xFFFFFFFFFFFFFFFF then 1546275796 else total

example : digest "abc" = -4594863902769663758 ∧ digest "é" = 6047309291227476195 ∧
    digest "日" = -2037161330753641417 ∧ digest "😀" = -3536540696076613844 := by
  decide +kernel

example : digestOfRow [digest "a", digest "b", digest "c"] = 6844853886081377955 := by
  decide +kernel

end CrateGraph.Text
