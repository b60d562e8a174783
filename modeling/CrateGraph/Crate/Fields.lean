import CrateGraph.Crate.Types
import CrateGraph.Json.Display

/-!
The conventions by which documents write records, tagged unions and ids.

A record is an object, and anything else is taken for a record without fields. Several names for one
field are the names it has had over time. A flag is set by the first of its names that is present,
whatever the value; a text is given by the first of its names that holds a text.
-/

namespace CrateGraph

inductive ReadError where
  | notAnId (found : JsonKind)
  | notAnItem (found : JsonKind)
  | notADocument (found : JsonKind)
  | missingRoot
deriving DecidableEq

def ReadError.message : ReadError → String
  | .notAnId found => "Expected string or integer ID, got " ++ found.name
  | .notAnItem found => "Expected item object, got " ++ found.name
  | .notADocument found => "Expected a JSON object at top level, got " ++ found.name
  | .missingRoot => "Document missing required 'root' field"

namespace Json

/-! ### Fields -/

def flag (value : Json String) (names : List String) : Bool :=
  ((names.findSome? fun name => Entries.get? name value.record).map isTruthy).getD false

def string? (value : Json String) (names : List String) : Option String :=
  names.findSome? fun name => (value.field name).text?

def string (value : Json String) (names : List String) : String :=
  (value.string? names).getD ""

def list (value : Json String) (name : String) : List (Json String) :=
  (value.field name).items

def strings (value : Json String) (name : String) : List String :=
  (value.list name).filterMap text?

def given? (value : Json String) (name : String) : Option (Json String) :=
  match value.field name with
  | .null => none
  | inner => some inner

/-- The value under the first name that is present, null included; the second name counts only
where the first is absent. -/
def either (value : Json String) (first second : String) : Json String :=
  (Entries.get? first value.record).getD (value.field second)

/-- The whole number of a field, where a truth value is not one, and zero by default. -/
def wholeNumber (value : Json String) (name : String) : Int :=
  match value.field name with
  | .int number => number
  | _ => 0

/-! ### Ids -/

def id : Json String → Except ReadError ItemId
  | .str value => .ok value
  | .int value => .ok (toString value)
  | value => .error (.notAnId value.kind)

def id? (value : Json String) : Option ItemId :=
  value.id.toOption

def ids (value : Json String) : List ItemId :=
  value.items.filterMap id?

def optionalIds (value : Json String) : List (Option ItemId) :=
  value.items.map id?

/-! ### Tagged unions -/

/-- A union value is a tag alone or an object with one entry, from the tag to the payload. -/
def tagged? : Json String → Option (String × Json String)
  | .str tag => some (tag, .null)
  | .obj [(tag, payload)] => some (tag, payload)
  | _ => none

/-! ### Sizes -/

@[grind →] theorem sizeOf_lt_of_mem_list {value item : Json String} {name : String}
    (member : item ∈ value.list name) : sizeOf item < sizeOf value :=
  Nat.lt_of_lt_of_le (sizeOf_lt_of_mem_items member) (value.sizeOf_field_le name)

@[grind →] theorem sizeOf_lt_of_given? {value inner : Json String} {name : String}
    (given : value.given? name = some inner) : sizeOf inner < sizeOf value := by
  unfold given? field at given
  cases found : Entries.get? name value.record with
  | none => simp [found] at given
  | some present =>
      have bound := sizeOf_lt_of_get?_record found
      rw [found, Option.getD_some] at given
      cases present <;> simp_all

theorem sizeOf_either_le (value : Json String) (first second : String) :
    sizeOf (value.either first second) ≤ sizeOf value := by
  unfold either
  cases found : Entries.get? first value.record with
  | none => exact value.sizeOf_field_le second
  | some inner => exact Nat.le_of_lt (sizeOf_lt_of_get?_record found)

grind_pattern sizeOf_either_le => sizeOf (value.either first second)

@[grind →] theorem sizeOf_lt_of_tagged? {value payload : Json String} {tag : String}
    (tagged : value.tagged? = some (tag, payload)) : sizeOf payload < sizeOf value := by
  unfold tagged? at tagged
  split at tagged
  · next text =>
      cases tagged
      have : 0 < sizeOf tag := by cases tag; simp +arith
      simp only [Json.null.sizeOf_spec, Json.str.sizeOf_spec]
      omega
  · cases tagged
    simp only [Json.obj.sizeOf_spec, List.cons.sizeOf_spec, Prod.mk.sizeOf_spec]
    omega
  · cases tagged

end Json

end CrateGraph
