import CrateGraph.Decimal.Layout
import CrateGraph.Json.Basic
import CrateGraph.Text.Quoted

/-!
The form in which messages show a JSON value, and the words for its kind.
-/

namespace CrateGraph

def JsonKind.name : JsonKind → String
  | .null => "NoneType"
  | .bool => "bool"
  | .int => "int"
  | .float => "float"
  | .str => "str"
  | .arr => "list"
  | .obj => "dict"

namespace Json

def displayFloat (value : Float) : String :=
  Decimal.Layout.standard.writeFloat value

def displayBool (value : Bool) : String :=
  if value then "True" else "False"

/-! The text of a value, given the way to write its texts. -/

mutual

def display (quote : Text → String) : Json Text → String
  | .null => "None"
  | .bool value => displayBool value
  | .int value => toString value
  | .float value => displayFloat value
  | .str value => quote value
  | .arr items => "[" ++ String.intercalate ", " (displayItems quote items) ++ "]"
  | .obj entries => "\x7b" ++ String.intercalate ", " (displayEntries quote entries) ++ "\x7d"

def displayItems (quote : Text → String) : List (Json Text) → List String
  | [] => []
  | item :: rest => display quote item :: displayItems quote rest

def displayEntries (quote : Text → String) : List (Text × Json Text) → List String
  | [] => []
  | (key, value) :: rest =>
      (quote key ++ ": " ++ display quote value) :: displayEntries quote rest

end

def plainText : Json String → String
  | .str value => value
  | value => value.display Text.quoted

end Json

end CrateGraph
