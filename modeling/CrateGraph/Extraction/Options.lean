import CrateGraph.Json.Display

/-!
What an extraction includes, and how a configuration sets it.
-/

namespace CrateGraph

structure ExtractionFlags where
  includeImplementations : Bool
  includeAttributes : Bool
  extractErrorTypes : Bool
  extractDerives : Bool
deriving DecidableEq

def ExtractionFlags.all : ExtractionFlags := ⟨true, true, true, true⟩

structure ExtractionOptions extends ExtractionFlags where
  base : String
deriving DecidableEq

def defaultBase : String := "http://rust.example"

def ExtractionOptions.default : ExtractionOptions :=
  { ExtractionFlags.all with base := defaultBase }

/-- Options whose base comes from a file and may be any text that a file can name. -/
structure Configuration extends ExtractionFlags where
  base : WideText

inductive ConfigurationError where
  | sectionNotAnObject (found : JsonKind)
  | baseNotAText (value : Json WideText)
  | flagNotABoolean (name : String) (value : Json WideText)

def ConfigurationError.message : ConfigurationError → String
  | .sectionNotAnObject found => "'extraction' section must be an object, got " ++ found.name
  | .baseNotAText value =>
      "'base_uri' must be a string, got " ++ value.display Text.quotedWide
  | .flagNotABoolean name value =>
      "'" ++ name ++ "' must be true or false, got " ++ value.display Text.quotedWide

namespace Configuration

def default : Configuration :=
  { ExtractionFlags.all with base := WideText.ofString defaultBase }

/-- The values to read: those under `extraction`, or all of them if there is no such section. -/
def section? (config : Json WideText) : Except ConfigurationError (Json.Record WideText) :=
  match Entries.get? (WideText.ofString "extraction") config.record with
  | none => .ok config.record
  | some (.obj entries) => .ok entries
  | some value => .error (.sectionNotAnObject value.kind)

def readBase (entries : Json.Record WideText) : Except ConfigurationError WideText :=
  match Entries.get? (WideText.ofString "base_uri") entries with
  | none => .ok (WideText.ofString defaultBase)
  | some (.str text) => .ok text
  | some value => .error (.baseNotAText value)

def readFlag (entries : Json.Record WideText) (name : String) : Except ConfigurationError Bool :=
  match Entries.get? (WideText.ofString name) entries with
  | none => .ok true
  | some (.bool value) => .ok value
  | some value => .error (.flagNotABoolean name value)

def ofJson (config : Json WideText) : Except ConfigurationError Configuration := do
  let entries ← section? config
  let base ← readBase entries
  let includeImplementations ← readFlag entries "include_impls"
  let includeAttributes ← readFlag entries "include_attributes"
  let extractErrorTypes ← readFlag entries "extract_error_types"
  let extractDerives ← readFlag entries "extract_derives"
  pure { includeImplementations, includeAttributes, extractErrorTypes, extractDerives, base }

def options? (configuration : Configuration) : Option ExtractionOptions :=
  configuration.base.toString?.map fun base => { configuration.toExtractionFlags with base := base }

def toJson (configuration : Configuration) : Json WideText :=
  .obj
    [(WideText.ofString "base_uri", .str configuration.base),
      (WideText.ofString "include_impls", .bool configuration.includeImplementations),
      (WideText.ofString "include_attributes", .bool configuration.includeAttributes),
      (WideText.ofString "extract_error_types", .bool configuration.extractErrorTypes),
      (WideText.ofString "extract_derives", .bool configuration.extractDerives)]

def display (configuration : Configuration) : String :=
  configuration.toJson.display Text.quotedWide

end Configuration

end CrateGraph
