/-!
Tables in which every value stands at a place that its digest asks for.

The number of places is a power of two, so a digest asks first for the place that its lowest bits
say. If that place is taken, a few places after it are tried, and then the search goes on elsewhere.
A table grows before three in five of its places are taken. The order of the values in a table is
that of their places.
-/

namespace CrateGraph

structure DigestTable (α : Type) where
  places : Array (Option α)

namespace DigestTable

variable {α : Type}

/-- How many places after the one asked for are tried, as long as all of them are in the table. -/
def neighbours : Nat := 9

def ofSize (size : Nat) : DigestTable α := ⟨Array.replicate size none⟩

def empty : DigestTable α := ofSize 8

def size (table : DigestTable α) : Nat :=
  table.places.size

def toList (table : DigestTable α) : List α :=
  table.places.toList.filterMap id

def isFree (table : DigestTable α) (place : Nat) : Bool :=
  (table.places[place]?.bind id).isNone

def tried (table : DigestTable α) (place : Nat) : List Nat :=
  if place + neighbours < table.size then List.range' place (neighbours + 1) else [place]

/-- Looks for a free place from a given one on. The rest of the digest tells where to look next;
when nothing is left of it, the places that follow are all places of the table. -/
def freePlace? (table : DigestTable α) : (rounds : Nat) → (place rest : Nat) → Option Nat
  | 0, _, _ => none
  | rounds + 1, place, rest =>
      match (table.tried place).find? table.isFree with
      | some found => some found
      | none =>
          freePlace? table rounds ((place * 5 + 1 + rest / 32) % table.size) (rest / 32)

/-- Puts a value at the first free place that its digest asks for. After thirteen rounds nothing is
left of a digest. -/
def put (digest : α → UInt64) (table : DigestTable α) (value : α) : DigestTable α :=
  let number := (digest value).toNat
  match table.freePlace? (table.size + 13) (number % table.size) number with
  | some place => ⟨table.places.setIfInBounds place (some value)⟩
  | none => table

def rebuild (digest : α → UInt64) (size : Nat) (table : DigestTable α) : DigestTable α :=
  table.toList.foldl (put digest) (ofSize size)

def sizeAbove (count : Nat) : Nat :=
  Nat.pow 2 (max 3 (count.log2 + 1))

def isCrowded (size count : Nat) : Bool :=
  (size - 1) * 3 ≤ count * 5

def add (digest : α → UInt64) (table : DigestTable α) (value : α) : DigestTable α :=
  let table := table.put digest value
  let count := table.toList.length
  if isCrowded table.size count then
    table.rebuild digest (sizeAbove (if 50000 < count then count * 2 else count * 4))
  else table

def ofList (digest : α → UInt64) (values : List α) : DigestTable α :=
  values.foldl (add digest) empty

def compact (digest : α → UInt64) (table : DigestTable α) : DigestTable α :=
  let count := table.toList.length
  let size := if isCrowded 8 count then sizeAbove (count * 2) else 8
  if size = table.size then table else table.rebuild digest size

example : (ofList (·.toUInt64) [9, 1, 8, 0]).toList = [8, 9, 1, 0] := by decide +kernel

example : (ofList (·.toUInt64) [9, 1, 8, 0, 5]).size = 32 ∧
    (compact (·.toUInt64) (ofList (·.toUInt64) [9, 1, 8, 0, 5])).size = 16 := by
  decide +kernel

end DigestTable

end CrateGraph
