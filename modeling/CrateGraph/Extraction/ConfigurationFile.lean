import CrateGraph.Document.Load
import CrateGraph.Extraction.Options

/-!
Configurations in files.
-/

namespace CrateGraph

inductive ConfigurationFault where
  | overlongPath (error : OverlongPath)
  | missing (file : String)
  | encoding (fault : Text.Utf8Fault)
  | malformed (file text : String) (cause : Json.DecodeCause) (position : Nat)
  | integerTooLong (digits : Nat)
  | notAnObject (file : String)
  | invalid (error : ConfigurationError)

def ConfigurationFault.message : ConfigurationFault → String
  | .overlongPath error => error.message
  | .missing file => "Configuration file not found: " ++ file
  | .encoding fault => fault.message
  | .malformed file text cause position =>
      "Invalid JSON in configuration file " ++ file ++ ": " ++
        Json.malformedMessage text cause position
  | .integerTooLong digits => Json.integerTooLongMessage digits
  | .notAnObject file => "Configuration file " ++ file ++ " must contain a JSON object"
  | .invalid error => error.message

namespace Configuration

def ofText (file text : String) : Except ConfigurationFault Configuration :=
  match Json.decode text with
  | .error (.malformed cause position) => .error (.malformed file text cause position)
  | .error (.integerTooLong digits) => .error (.integerTooLong digits)
  | .ok config =>
      if config.isObject then (ofJson config).mapError .invalid else .error (.notAnObject file)

def ofFile (tree : FileTree) (file : String) : Except ConfigurationFault Configuration :=
  match tree.content? (Path.ofString file) with
  | .error error => .error (.overlongPath error)
  | .ok none => .error (.missing file)
  | .ok (some content) =>
      match fileText content with
      | .error fault => .error (.encoding fault)
      | .ok text => ofText file text

end Configuration

end CrateGraph
