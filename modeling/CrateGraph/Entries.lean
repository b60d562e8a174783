/-!
Ordered collections of entries under keys.

`Entries` is any list of such entries, and `Table` one in which no key comes twice. Giving a key a
new value keeps its place, so a table lists its keys in the order in which they first came.
-/

namespace CrateGraph

abbrev Entries (Key Value : Type) := List (Key × Value)

namespace Entries

variable {Key Value : Type} [DecidableEq Key]

def get? (key : Key) : Entries Key Value → Option Value
  | [] => none
  | (name, value) :: rest => if name = key then some value else get? key rest

/-- Gives a key a value: in place if the key is there already, else as a last entry. -/
def insert (key : Key) (value : Value) : Entries Key Value → Entries Key Value
  | [] => [(key, value)]
  | (name, present) :: rest =>
      if name = key then (name, value) :: rest else (name, present) :: insert key value rest

theorem keys_insert (key : Key) (value : Value) (entries : Entries Key Value) :
    (insert key value entries).map Prod.fst =
      if key ∈ entries.map Prod.fst then entries.map Prod.fst
      else entries.map Prod.fst ++ [key] := by
  induction entries with
  | nil => simp [insert]
  | cons entry rest induction =>
      obtain ⟨name, present⟩ := entry
      by_cases same : name = key
      · simp [insert, same]
      · have different : ¬key = name := fun equal => same equal.symm
        simp only [insert, same, if_false, List.map_cons, induction, List.mem_cons, different,
          false_or]
        split <;> simp

theorem insert_of_not_mem {key : Key} {entries : Entries Key Value}
    (fresh : key ∉ entries.map Prod.fst) (value : Value) :
    insert key value entries = entries ++ [(key, value)] := by
  induction entries with
  | nil => rfl
  | cons entry rest induction =>
      obtain ⟨name, present⟩ := entry
      simp only [List.map_cons, List.mem_cons, not_or] at fresh
      rw [insert, if_neg (Ne.symm fresh.1), induction fresh.2, List.cons_append]

theorem foldl_insert_of_nodup {entries added : Entries Key Value}
    (nodup : ((entries ++ added).map Prod.fst).Nodup) :
    added.foldl (fun table (key, value) => insert key value table) entries = entries ++ added := by
  induction added generalizing entries with
  | nil => simp
  | cons entry rest induction =>
      obtain ⟨key, value⟩ := entry
      have fresh : key ∉ entries.map Prod.fst := by
        rw [List.map_append, List.nodup_append] at nodup
        exact fun member => nodup.2.2 key member key (by simp) rfl
      have longer : ((entries ++ [(key, value)] ++ rest).map Prod.fst).Nodup := by simpa using nodup
      calc ((key, value) :: rest).foldl (fun table (key, value) => insert key value table) entries
          = rest.foldl (fun table (key, value) => insert key value table)
              (entries ++ [(key, value)]) := by
            rw [List.foldl_cons, ← insert_of_not_mem fresh value]
        _ = entries ++ [(key, value)] ++ rest := induction longer
        _ = entries ++ (key, value) :: rest := List.append_cons entries (key, value) rest |>.symm

theorem get?_insert (key other : Key) (value : Value) (entries : Entries Key Value) :
    get? other (insert key value entries) =
      if key = other then some value else get? other entries := by
  induction entries with
  | nil => simp [insert, get?]
  | cons entry rest induction =>
      obtain ⟨name, present⟩ := entry
      by_cases same : name = key
      · subst same
        by_cases equal : name = other <;> simp [insert, get?, equal]
      · by_cases equal : name = other
        · subst equal
          have different : ¬key = name := fun equal => same equal.symm
          simp [insert, get?, same, different]
        · simp [insert, get?, same, equal, induction]

theorem eq_or_mem_of_mem_insert {key : Key} {value : Value} {entries : Entries Key Value}
    {entry : Key × Value} (member : entry ∈ insert key value entries) :
    entry = (key, value) ∨ entry ∈ entries := by
  induction entries with
  | nil => exact Or.inl (List.mem_singleton.mp member)
  | cons first rest induction =>
      obtain ⟨name, present⟩ := first
      simp only [insert] at member
      split at member
      · next same =>
          rcases List.mem_cons.mp member with rfl | later
          · exact Or.inl (by rw [same])
          · exact Or.inr (List.mem_cons_of_mem _ later)
      · rcases List.mem_cons.mp member with rfl | later
        · exact Or.inr List.mem_cons_self
        · exact (induction later).imp_right (List.mem_cons_of_mem _)

theorem mem_of_get? {key : Key} {value : Value} {entries : Entries Key Value}
    (found : get? key entries = some value) : (key, value) ∈ entries := by
  induction entries with
  | nil => simp [get?] at found
  | cons entry rest induction =>
      obtain ⟨name, present⟩ := entry
      simp only [get?] at found
      split at found
      · next same => simp_all
      · exact List.mem_cons_of_mem _ (induction found)

theorem get?_of_mem {key : Key} {value : Value} {entries : Entries Key Value}
    (nodup : (entries.map Prod.fst).Nodup) (member : (key, value) ∈ entries) :
    get? key entries = some value := by
  induction entries with
  | nil => cases member
  | cons entry rest induction =>
      have parts := List.nodup_cons.mp nodup
      rcases List.mem_cons.mp member with equal | later
      · rw [← equal, get?, if_pos rfl]
      · have different : entry.1 ≠ key := by
          intro same
          exact parts.1 (same ▸ List.mem_map.mpr ⟨(key, value), later, rfl⟩)
        rw [get?, if_neg different]
        exact induction parts.2 later

end Entries

structure Table (Value : Type) where
  entries : Entries String Value
  nodup : (entries.map Prod.fst).Nodup

namespace Table

variable {Value : Type}

def empty : Table Value := ⟨[], List.nodup_nil⟩

def keys (table : Table Value) : List String :=
  table.entries.map Prod.fst

def values (table : Table Value) : List Value :=
  table.entries.map Prod.snd

def size (table : Table Value) : Nat :=
  table.entries.length

def get? (table : Table Value) (key : String) : Option Value :=
  Entries.get? key table.entries

def insert (table : Table Value) (key : String) (value : Value) : Table Value where
  entries := Entries.insert key value table.entries
  nodup := by
    rw [Entries.keys_insert]
    split
    · exact table.nodup
    · next fresh =>
        rw [List.nodup_append]
        refine ⟨table.nodup, by simp, ?_⟩
        intro left leftMember right rightMember equal
        simp only [List.mem_singleton] at rightMember
        subst rightMember
        exact fresh (equal ▸ leftMember)

def ofEntries (entries : Entries String Value) : Table Value :=
  entries.foldl (fun table (key, value) => table.insert key value) empty

theorem get?_insert (table : Table Value) (key other : String) (value : Value) :
    (table.insert key value).get? other = if key = other then some value else table.get? other :=
  Entries.get?_insert key other value table.entries

theorem mem_entries_iff (table : Table Value) (key : String) (value : Value) :
    (key, value) ∈ table.entries ↔ table.get? key = some value :=
  ⟨Entries.get?_of_mem table.nodup, Entries.mem_of_get?⟩

end Table

end CrateGraph
