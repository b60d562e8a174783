import CrateGraph.Crate.Items
import CrateGraph.Text.Blank

/-!
Attributes of items, which documents write as texts or as tagged objects.
-/

namespace CrateGraph.Attribute

/-- The text of an attribute. For an object with one entry it is the payload if that is a text, the
payload's `content` if that is one, and otherwise the tag. -/
def text? : Json String → Option String
  | .str text => some text
  | .obj [(tag, payload)] =>
      match payload with
      | .str text => some text
      | _ => some ((payload.field "content").text?.getD tag)
  | _ => none

def isDeriveMarker (text : String) : Bool :=
  let stripped := Text.strip text
  stripped == "automatically_derived" || stripped == "#[automatically_derived]"

def marksDerived : Json String → Bool
  | .str text => isDeriveMarker text
  | _ => false

end CrateGraph.Attribute

namespace CrateGraph

def Item.isAutomaticallyDerived (item : Item) : Bool :=
  item.attributes.any Attribute.marksDerived

end CrateGraph
