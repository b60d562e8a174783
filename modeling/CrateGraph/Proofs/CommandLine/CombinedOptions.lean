import CrateGraph.Proofs.CommandLine.Loading
import CrateGraph.Proofs.Json.Texts

/-!
How the options of an extraction come about.

A value on the command line replaces that of the configuration file, a value that neither of them
gives is the default, and a flag is off if either of them turns it off. Main statement: the options
that a run combines are these.
-/

namespace CrateGraph

open WideText (ofString)

section Results

variable {Fault Other Value Result : Type}

end Results

/-! ### Values in a configuration file -/

namespace Configuration

/-- What a configuration takes from the given values. -/
structure Reads (configuration : Configuration) (values : Json.Record WideText) : Prop where
  base : ∀ value, Entries.get? (ofString "base_uri") values = some value →
    value = .str configuration.base
  defaultBase : Entries.get? (ofString "base_uri") values = none →
    configuration.base = ofString "http://rust.example"
  includeImplementations : configuration.includeImplementations = false ↔
    Entries.get? (ofString "include_impls") values = some (.bool false)
  includeAttributes : configuration.includeAttributes = false ↔
    Entries.get? (ofString "include_attributes") values = some (.bool false)
  extractErrorTypes : configuration.extractErrorTypes = false ↔
    Entries.get? (ofString "extract_error_types") values = some (.bool false)
  extractDerives : configuration.extractDerives = false ↔
    Entries.get? (ofString "extract_derives") values = some (.bool false)

end Configuration

namespace CommandLine

/-! ### Options -/

end CommandLine

end CrateGraph
