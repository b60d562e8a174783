import CrateGraph.Entries
import CrateGraph.Text.CodePoint

/-!
JSON values.

Objects keep their entries in the order of the document, and whole numbers are kept apart from
floating-point ones. The type of the texts is a parameter: decoding produces `WideText`, and a value
whose texts are all ordinary can be read as a value over `String`.
-/

namespace CrateGraph

inductive Json (Text : Type) where
  | null
  | bool (value : Bool)
  | int (value : Int)
  | float (value : Float)
  | str (value : Text)
  | arr (items : List (Json Text))
  | obj (entries : List (Text × Json Text))

abbrev Json.Record (Text : Type) := Entries Text (Json Text)

inductive JsonKind where
  | null
  | bool
  | int
  | float
  | str
  | arr
  | obj
deriving DecidableEq

namespace Json

def kind : Json Text → JsonKind
  | .null => .null
  | .bool _ => .bool
  | .int _ => .int
  | .float _ => .float
  | .str _ => .str
  | .arr _ => .arr
  | .obj _ => .obj

def isNull : Json Text → Bool
  | .null => true
  | _ => false

def isObject : Json Text → Bool
  | .obj _ => true
  | _ => false

/-- A value counts as true unless it is null, false, a zero or empty. -/
def isTruthy : Json String → Bool
  | .null => false
  | .bool value => value
  | .int value => value != 0
  | .float value => !(value == 0)
  | .str value => value != ""
  | .arr items => !items.isEmpty
  | .obj entries => !entries.isEmpty

def text? : Json Text → Option Text
  | .str value => some value
  | _ => none

def items : Json Text → List (Json Text)
  | .arr items => items
  | _ => []

def record : Json Text → Record Text
  | .obj entries => entries
  | _ => []

def field [DecidableEq Text] (value : Json Text) (key : Text) : Json Text :=
  (Entries.get? key value.record).getD .null

/-! Every part of a value is smaller than the value. -/

theorem sizeOf_pos [SizeOf Text] (value : Json Text) : 0 < sizeOf value := by
  cases value <;> simp +arith

@[grind →] theorem sizeOf_lt_of_mem_items [SizeOf Text] {value item : Json Text}
    (member : item ∈ value.items) :
    sizeOf item < sizeOf value := by
  cases value with
  | arr items =>
      have bound := List.sizeOf_lt_of_mem (show item ∈ items from member)
      simp only [Json.arr.sizeOf_spec]
      omega
  | _ => simp [items] at member

theorem sizeOf_lt_of_get? [DecidableEq Text] [SizeOf Text] {key : Text} {entries : Record Text}
    {value : Json Text} (found : Entries.get? key entries = some value) :
    sizeOf value < sizeOf entries := by
  induction entries with
  | nil => simp [Entries.get?] at found
  | cons entry rest induction =>
      obtain ⟨name, present⟩ := entry
      simp only [Entries.get?] at found
      simp only [List.cons.sizeOf_spec, Prod.mk.sizeOf_spec]
      split at found
      · cases found
        omega
      · have := induction found
        omega

theorem sizeOf_record_le [SizeOf Text] (value : Json Text) :
    sizeOf value.record ≤ sizeOf value := by
  cases value <;> simp [record]

theorem sizeOf_lt_of_get?_record [DecidableEq Text] [SizeOf Text] {value inner : Json Text}
    {key : Text}
    (found : Entries.get? key value.record = some inner) : sizeOf inner < sizeOf value :=
  Nat.lt_of_lt_of_le (sizeOf_lt_of_get? found) value.sizeOf_record_le

theorem sizeOf_field_le [DecidableEq Text] [SizeOf Text] (value : Json Text) (key : Text) :
    sizeOf (value.field key) ≤ sizeOf value := by
  unfold field
  cases found : Entries.get? key value.record with
  | none => simpa using Nat.succ_le_of_lt value.sizeOf_pos
  | some inner => exact Nat.le_of_lt (sizeOf_lt_of_get?_record found)

grind_pattern sizeOf_field_le => sizeOf (value.field key)

/-! Reading a value whose texts are all ordinary. -/

mutual

def narrow? : Json WideText → Option (Json String)
  | .null => some .null
  | .bool value => some (.bool value)
  | .int value => some (.int value)
  | .float value => some (.float value)
  | .str value => value.toString?.map .str
  | .arr items => (narrowItems? items).map .arr
  | .obj entries => (narrowEntries? entries).map .obj

def narrowItems? : List (Json WideText) → Option (List (Json String))
  | [] => some []
  | item :: rest => do
      let narrowed ← narrow? item
      let remaining ← narrowItems? rest
      pure (narrowed :: remaining)

def narrowEntries? : List (WideText × Json WideText) → Option (List (String × Json String))
  | [] => some []
  | (key, value) :: rest => do
      let name ← WideText.toString? key
      let narrowed ← narrow? value
      let remaining ← narrowEntries? rest
      pure ((name, narrowed) :: remaining)

end

mutual

def widen : Json String → Json WideText
  | .null => .null
  | .bool value => .bool value
  | .int value => .int value
  | .float value => .float value
  | .str value => .str (WideText.ofString value)
  | .arr items => .arr (widenItems items)
  | .obj entries => .obj (widenEntries entries)

def widenItems : List (Json String) → List (Json WideText)
  | [] => []
  | item :: rest => widen item :: widenItems rest

def widenEntries : List (String × Json String) → List (WideText × Json WideText)
  | [] => []
  | (key, value) :: rest => (WideText.ofString key, widen value) :: widenEntries rest

end

end Json

end CrateGraph
