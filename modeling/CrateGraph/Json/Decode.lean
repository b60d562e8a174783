import CrateGraph.Decimal.Numeral
import CrateGraph.Json.Basic
import CrateGraph.Text.Hexadecimal

/-!
Decoding of JSON text.

The grammar is the usual one with three liberties: `NaN`, `Infinity` and `-Infinity` are numbers, an
escaped surrogate needs no partner, and an object may repeat a key, in which case the last value
stands at the place of the first. The first fault is reported with its offset in the text.
-/

namespace CrateGraph.Json

inductive DecodeCause where
  | byteOrderMark
  | expectingValue
  | expectingPropertyName
  | expectingColon
  | expectingComma
  | extraData
  | unterminatedString
  | invalidControl
  | invalidEscape
  | invalidHexEscape
deriving DecidableEq

inductive DecodeFault where
  | malformed (cause : DecodeCause) (position : Nat)
  | integerTooLong (digits : Nat)
deriving DecidableEq

structure Cursor where
  position : Nat
  rest : List Char

namespace Cursor

def advance (cursor : Cursor) (count : Nat) : Cursor :=
  ⟨cursor.position + count, cursor.rest.drop count⟩

def skipBlanks (cursor : Cursor) : Cursor :=
  let isBlank := fun (character : Char) =>
    character == ' ' || character == '\t' || character == '\n' || character == '\r'
  cursor.advance (cursor.rest.takeWhile isBlank).length

def fail (cursor : Cursor) (cause : DecodeCause) : Except DecodeFault α :=
  .error (.malformed cause cursor.position)

end Cursor

/-! ### Strings -/

def hexQuad? (first second third fourth : Char) : Option Nat := do
  let first ← Text.hexValue? first
  let second ← Text.hexValue? second
  let third ← Text.hexValue? third
  let fourth ← Text.hexValue? fourth
  pure (((first * 16 + second) * 16 + third) * 16 + fourth)

def simpleEscape? : Char → Option Char
  | '"' => some '"'
  | '\\' => some '\\'
  | '/' => some '/'
  | 'b' => some '\x08'
  | 'f' => some '\x0c'
  | 'n' => some '\n'
  | 'r' => some '\r'
  | 't' => some '\t'
  | _ => none

def isHighSurrogate (code : Nat) : Bool := 0xD800 ≤ code && code < 0xDC00

def isLowSurrogate (code : Nat) : Bool := 0xDC00 ≤ code && code < 0xE000

def joinSurrogates (high low : Nat) : CodePoint :=
  .ofNat (0x10000 + (high - 0xD800) * 0x400 + (low - 0xDC00))

/-- Reads a string whose opening quote is at `opening`, up to and including the closing quote;
`decoded` holds in reverse what is already read. A `\u` escape needs a character after its four
digits, and a high surrogate takes a low one that follows it in the same form. -/
def decodeString (opening : Nat) (position : Nat) (decoded : WideText) :
    List Char → Except DecodeFault (WideText × Cursor)
  | [] => .error (.malformed .unterminatedString opening)
  | '"' :: rest => .ok (decoded.reverse, ⟨position + 1, rest⟩)
  | ['\\'] => .error (.malformed .unterminatedString opening)
  | '\\' :: 'u' :: a :: b :: c :: d :: next :: rest =>
      match hexQuad? a b c d with
      | none => .error (.malformed .invalidHexEscape (position + 1))
      | some code =>
          match next, rest with
          | '\\', 'u' :: e :: f :: g :: h :: after :: further =>
              if isHighSurrogate code then
                match hexQuad? e f g h with
                | none => .error (.malformed .invalidHexEscape (position + 7))
                | some low =>
                    if isLowSurrogate low then
                      decodeString opening (position + 12) (joinSurrogates code low :: decoded)
                        (after :: further)
                    else
                      decodeString opening (position + 6) (.ofNat code :: decoded)
                        ('\\' :: 'u' :: e :: f :: g :: h :: after :: further)
              else
                decodeString opening (position + 6) (.ofNat code :: decoded)
                  ('\\' :: 'u' :: e :: f :: g :: h :: after :: further)
          | next, rest =>
              decodeString opening (position + 6) (.ofNat code :: decoded) (next :: rest)
  | '\\' :: 'u' :: _ => .error (.malformed .invalidHexEscape (position + 1))
  | '\\' :: escape :: rest =>
      match simpleEscape? escape with
      | none => .error (.malformed .invalidEscape position)
      | some character =>
          decodeString opening (position + 2) (.scalar character :: decoded) rest
  | character :: rest =>
      if character.toNat < 0x20 then .error (.malformed .invalidControl position)
      else decodeString opening (position + 1) (.scalar character :: decoded) rest
termination_by characters => characters.length

/-! ### Numbers and the named values -/

structure NumberText where
  negative : Bool
  whole : List Char
  fraction : Option (List Char)
  exponent : Option (Option Char × List Char)

namespace NumberText

def splitWhole : List Char → Option (List Char × List Char)
  | '0' :: rest => some (['0'], rest)
  | characters =>
      match characters.takeWhile Char.isDigit with
      | [] => none
      | digits => some (digits, characters.dropWhile Char.isDigit)

def splitFraction : List Char → Option (List Char) × List Char
  | '.' :: rest =>
      match rest.takeWhile Char.isDigit with
      | [] => (none, '.' :: rest)
      | digits => (some digits, rest.dropWhile Char.isDigit)
  | characters => (none, characters)

def splitSign : List Char → Option Char × List Char
  | '-' :: rest => (some '-', rest)
  | '+' :: rest => (some '+', rest)
  | characters => (none, characters)

def splitExponent (characters : List Char) : Option (Option Char × List Char) × List Char :=
  match characters with
  | [] => (none, [])
  | mark :: rest =>
      if mark == 'e' || mark == 'E' then
        let (sign, rest) := splitSign rest
        match rest.takeWhile Char.isDigit with
        | [] => (none, characters)
        | digits => (some (sign, digits), rest.dropWhile Char.isDigit)
      else (none, characters)

def split (characters : List Char) : Option (NumberText × List Char) :=
  let (negative, rest) :=
    match characters with
    | '-' :: rest => (true, rest)
    | _ => (false, characters)
  match splitWhole rest with
  | none => none
  | some (whole, rest) =>
      let (fraction, rest) := splitFraction rest
      let (exponent, rest) := splitExponent rest
      some (⟨negative, whole, fraction, exponent⟩, rest)

def length (number : NumberText) : Nat :=
  (if number.negative then 1 else 0) + number.whole.length +
    (match number.fraction with
      | none => 0
      | some digits => 1 + digits.length) +
    (match number.exponent with
      | none => 0
      | some (none, digits) => 1 + digits.length
      | some (some _, digits) => 2 + digits.length)

def value (number : NumberText) : Except DecodeFault (Json Text) :=
  match number.fraction, number.exponent with
  | none, none =>
      if Decimal.longestInteger < number.whole.length then
        .error (.integerTooLong number.whole.length)
      else
        let magnitude : Int := Decimal.digitsToNat number.whole
        .ok (.int (if number.negative then -magnitude else magnitude))
  | fraction, exponent =>
      let fraction := fraction.getD []
      let shift : Int :=
        match exponent with
        | none => 0
        | some (some '-', digits) => -Decimal.digitsToNat digits
        | some (_, digits) => Decimal.digitsToNat digits
      let magnitude :=
        Decimal.nearest (Decimal.digitsToNat (number.whole ++ fraction)) (shift - fraction.length)
      .ok (.float (if number.negative then -magnitude else magnitude))

end NumberText

def namedValues : List (String × Json Text) :=
  [("null", .null), ("true", .bool true), ("false", .bool false),
    ("NaN", .float Decimal.notANumber), ("Infinity", .float Decimal.infinity),
    ("-Infinity", .float (-Decimal.infinity))]

def decodeScalar (cursor : Cursor) : Except DecodeFault (Json WideText × Cursor) :=
  match namedValues.find? fun (name, _) => name.toList.isPrefixOf cursor.rest with
  | some (name, value) => .ok (value, cursor.advance name.length)
  | none =>
      match NumberText.split cursor.rest with
      | none => cursor.fail .expectingValue
      | some (number, rest) => do
          let value ← number.value
          pure (value, ⟨cursor.position + number.length, rest⟩)

/-! ### Arrays and objects

Each step below takes a character or hands over to a step that does, so twice the length of the
text bounds the number of nested steps; that bound is the fuel. -/

mutual

def decodeValue (fuel : Nat) (cursor : Cursor) : Except DecodeFault (Json WideText × Cursor) :=
  match fuel with
  | 0 => cursor.fail .expectingValue
  | fuel + 1 =>
      match cursor.rest with
      | '"' :: rest => do
          let (text, cursor) ← decodeString cursor.position (cursor.position + 1) [] rest
          pure (.str text, cursor)
      | '[' :: rest =>
          let inner := Cursor.skipBlanks ⟨cursor.position + 1, rest⟩
          match inner.rest with
          | ']' :: _ => .ok (.arr [], inner.advance 1)
          | _ => decodeItems fuel inner []
      | '\x7b' :: rest =>
          let inner := Cursor.skipBlanks ⟨cursor.position + 1, rest⟩
          match inner.rest with
          | '\x7d' :: _ => .ok (.obj [], inner.advance 1)
          | _ => decodeEntries fuel inner []
      | _ => decodeScalar cursor

def decodeItems (fuel : Nat) (cursor : Cursor) (decoded : List (Json WideText)) :
    Except DecodeFault (Json WideText × Cursor) :=
  match fuel with
  | 0 => cursor.fail .expectingValue
  | fuel + 1 => do
      let (item, cursor) ← decodeValue fuel cursor
      let cursor := cursor.skipBlanks
      match cursor.rest with
      | ']' :: _ => pure (.arr (item :: decoded).reverse, cursor.advance 1)
      | ',' :: _ => decodeItems fuel (cursor.advance 1).skipBlanks (item :: decoded)
      | _ => cursor.fail .expectingComma

def decodeEntries (fuel : Nat) (cursor : Cursor) (decoded : Record WideText) :
    Except DecodeFault (Json WideText × Cursor) :=
  match fuel with
  | 0 => cursor.fail .expectingValue
  | fuel + 1 =>
      match cursor.rest with
      | '"' :: rest => do
          let (key, cursor) ← decodeString cursor.position (cursor.position + 1) [] rest
          let cursor := cursor.skipBlanks
          match cursor.rest with
          | ':' :: _ =>
              let (value, cursor) ← decodeValue fuel (cursor.advance 1).skipBlanks
              let cursor := cursor.skipBlanks
              let decoded := Entries.insert key value decoded
              match cursor.rest with
              | '\x7d' :: _ => pure (.obj decoded, cursor.advance 1)
              | ',' :: _ => decodeEntries fuel (cursor.advance 1).skipBlanks decoded
              | _ => cursor.fail .expectingComma
          | _ => cursor.fail .expectingColon
      | _ => cursor.fail .expectingPropertyName

end

/-- Reads a text, whose values may be nested to any depth: the limit that an interpreter sets to its
recursion is left out. -/
def decode (text : String) : Except DecodeFault (Json WideText) :=
  let characters := text.toList
  match characters with
  | '\ufeff' :: _ => .error (.malformed .byteOrderMark 0)
  | _ => do
      let (value, cursor) ←
        decodeValue (2 * characters.length + 2) (Cursor.skipBlanks ⟨0, characters⟩)
      let cursor := cursor.skipBlanks
      match cursor.rest with
      | [] => pure value
      | _ => cursor.fail .extraData

/-! ### Messages -/

def DecodeCause.message : DecodeCause → String
  | .byteOrderMark => "Unexpected UTF-8 BOM (decode using utf-8-sig)"
  | .expectingValue => "Expecting value"
  | .expectingPropertyName => "Expecting property name enclosed in double quotes"
  | .expectingColon => "Expecting ':' delimiter"
  | .expectingComma => "Expecting ',' delimiter"
  | .extraData => "Extra data"
  | .unterminatedString => "Unterminated string starting at"
  | .invalidControl => "Invalid control character at"
  | .invalidEscape => "Invalid \\escape"
  | .invalidHexEscape => "Invalid \\uXXXX escape"

def lineAndColumn (text : String) (position : Nat) : Nat × Nat :=
  let before := text.toList.take position
  let lastLine := before.reverse.takeWhile (· != '\n')
  (before.count '\n' + 1, lastLine.length + 1)

def malformedMessage (text : String) (cause : DecodeCause) (position : Nat) : String :=
  let (line, column) := lineAndColumn text position
  cause.message ++ ": line " ++ toString line ++ " column " ++ toString column ++
    " (char " ++ toString position ++ ")"

def integerTooLongMessage (digits : Nat) : String :=
  "Exceeds the limit (" ++ toString Decimal.longestInteger ++
    " digits) for integer string conversion: value has " ++ toString digits ++
    " digits; use sys.set_int_max_str_digits() to increase the limit"

def DecodeFault.message (text : String) : DecodeFault → String
  | .malformed cause position => malformedMessage text cause position
  | .integerTooLong digits => integerTooLongMessage digits

end CrateGraph.Json
