import CrateGraph.Calendar.Duration
import CrateGraph.Decimal.Layout
import CrateGraph.Decimal.Numeral
import CrateGraph.Entries
import CrateGraph.Markup.Reader
import CrateGraph.Rdf.Triple
import CrateGraph.Text.Base64
import CrateGraph.Text.Hexadecimal
import CrateGraph.Text.LowerCase

/-!
The datatypes that say how a literal is best written: those of XML Schema, and fragments of XML.

Different texts may stand for one value, and the canonical text of a literal is the one by which its
value is known. A text that does not fit its datatype is its own canonical text, and so is every
text with a datatype that is not listed here, such as that of years without a date.
-/

namespace CrateGraph.Rdf

inductive Datatype where
  | integer
  | boolean
  | decimal
  | floatingPoint
  | hexadecimalBytes
  | base64Bytes
  | date
  | time
  | dateTime
  | duration
  | normalizedText
  | token
  | markup
deriving DecidableEq

namespace Datatype

def schemaNamespace : String := "http://www.w3.org/2001/XMLSchema#"

/-- The datatypes by their names in the namespace. Bounds on the size of whole numbers do not
matter. -/
def names : Entries String Datatype :=
  [("integer", .integer), ("nonPositiveInteger", .integer), ("negativeInteger", .integer),
    ("nonNegativeInteger", .integer), ("positiveInteger", .integer), ("long", .integer),
    ("int", .integer), ("short", .integer), ("byte", .integer), ("unsignedLong", .integer),
    ("unsignedInt", .integer), ("unsignedShort", .integer), ("unsignedByte", .integer),
    ("boolean", .boolean), ("decimal", .decimal), ("float", .floatingPoint),
    ("double", .floatingPoint), ("hexBinary", .hexadecimalBytes), ("base64Binary", .base64Bytes),
    ("date", .date), ("time", .time), ("dateTime", .dateTime), ("duration", .duration),
    ("dayTimeDuration", .duration), ("yearMonthDuration", .duration),
    ("normalizedString", .normalizedText), ("token", .token)]

def markupIri : String := "http://www.w3.org/1999/02/22-rdf-syntax-ns#XMLLiteral"

def ofIri? (iri : String) : Option Datatype :=
  if iri = markupIri then some .markup
  else (names.find? fun (name, _) => iri = schemaNamespace ++ name).map Prod.snd

/-! ### Texts of one line -/

def toOneLine (characters : List Char) : List Char :=
  characters.map fun character =>
    if character = '\t' || character = '\n' || character = '\r' then ' ' else character

def collapseSpaces : List Char → List Char
  | ' ' :: ' ' :: rest => collapseSpaces (' ' :: rest)
  | character :: rest => character :: collapseSpaces rest
  | [] => []

/-! ### Dates with a zone -/

def withoutUniversalMark (characters : List Char) : List Char :=
  match characters.getLast? with
  | some 'Z' | some 'z' => characters.dropLast
  | _ => characters

def splitAtLast (character : Char) (characters : List Char) : List Char × List Char :=
  let after := characters.reverse.takeWhile (· != character)
  let before := characters.take (characters.length - (after.length + 1))
  (before, characters.drop before.length)

/-- A text without the offset of a zone at its end: a plus sign and anything, or a hyphen and
something with a colon. -/
def withoutOffset (characters : List Char) : List Char :=
  let (ahead, _) := splitAtLast '+' characters
  let (behind, offset) := splitAtLast '-' characters
  if !ahead.isEmpty then ahead
  else if !behind.isEmpty && offset.contains ':' then behind
  else characters

def canonicalDate? (text : String) : Option String :=
  let characters := withoutUniversalMark text.toList
  let kept :=
    if characters.contains 'T' then characters.takeWhile (· != 'T') else withoutOffset characters
  if characters.head? = some '-' || !kept.contains '-' then none
  else (Calendar.Date.ofText? (String.ofList kept)).map Calendar.Date.toString

/-! ### Canonical texts -/

def canonicalHexadecimal? (text : String) : Option String :=
  let characters := text.toList
  if characters.length % 2 = 0 && characters.all fun digit => (Text.hexValue? digit).isSome then
    some (String.ofList (characters.map Char.toLower))
  else none

def canonicalBoolean (text : String) : String :=
  let word := Text.lowerCase text
  if word = "1" || word = "true" then "true" else "false"

def wrapperName : String := String.join ["rdf", "lib", "top", "level", "element"]

def canonicalMarkup (nodes : List Markup.Node) : String :=
  let written := String.ofList (Markup.writeNodes nodes)
  if written = "<" ++ wrapperName ++ "/>" then "" else written

/-- The canonical text, if the text fits the datatype. Some durations have none although they
fit. -/
def canonical? (datatype : Datatype) (text : String) :
    Except Calendar.Duration.Fault (Option String) :=
  match datatype with
  | .integer => .ok ((Decimal.wholeNumber? text).map toString)
  | .boolean => .ok (some (canonicalBoolean text))
  | .decimal => .ok ((Decimal.AnyDecimal.ofText? text).map Decimal.AnyDecimal.toString)
  | .floatingPoint => .ok ((Decimal.floatingPoint? text).map Decimal.Layout.standard.writeFloat)
  | .hexadecimalBytes => .ok (canonicalHexadecimal? text)
  | .base64Bytes =>
      .ok ((Text.Base64.decode? text).map fun bytes => String.ofList (Text.Base64.encode bytes))
  | .date => .ok (canonicalDate? text)
  | .time => .ok ((Calendar.ZonedTime.ofText? text).map Calendar.ZonedTime.toString)
  | .dateTime => .ok ((Calendar.DateTime.ofText? text).map Calendar.DateTime.toString)
  | .duration => (Calendar.Duration.ofText? text).mapM Calendar.Duration.toString
  | .normalizedText => .ok (some (String.ofList (toOneLine text.toList)))
  | .token =>
      .ok (some (String.ofList
        (collapseSpaces (Text.trimCharacters Text.isBlank (toOneLine text.toList)))))
  | .markup => .ok ((Markup.fragment? text).map canonicalMarkup)

end Datatype

def canonicalText (text datatype : String) : Except Calendar.Duration.Fault String :=
  match Datatype.ofIri? datatype with
  | none => .ok text
  | some datatype => (datatype.canonical? text).map (·.getD text)

def Term.canonical : Term → Except Calendar.Duration.Fault Term
  | .typed value datatype => (canonicalText value datatype).map (.typed · datatype)
  | term => .ok term

def Triple.canonical (triple : Triple) : Except Calendar.Duration.Fault Triple :=
  triple.object.canonical.map fun object => { triple with object := object }

example : [("007", xsdInteger), ("1.0", xsdInteger), ("True", xsdBoolean),
      ("007", "http://dt/x")].map (fun (text, datatype) =>
        (canonicalText text datatype).toOption) =
    [some "7", some "1.0", some "true", some "007"] := by
  decide +kernel

example : [("date", "2020-01-01-5:00"), ("gYear", "0999Z"), ("token", " a  b\n"),
      ("hexBinary", "AbF"), ("duration", "-P1M1D")].map (fun (name, text) =>
        (canonicalText text (Datatype.schemaNamespace ++ name)).toOption) =
    [some "2020-01-01", some "0999Z", some "a b", some "AbF", none] := by
  decide +kernel

end CrateGraph.Rdf
