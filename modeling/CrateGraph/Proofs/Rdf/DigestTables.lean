import CrateGraph.DigestTable
import Mathlib.Data.List.Perm.Basic
import Mathlib.Data.Nat.ModEq
import Mathlib.Logic.Function.Iterate
import Mathlib.Tactic.Ring

/-!
What is put into a table stands in it.

When nothing is left of a digest, the search goes from one place to five times the place and one.
The number of places is a power of two, so these steps lead through all places before they come
back, and a free place is found as long as there is one. A table is rebuilt before there is none.
Main statement: the places of a table hold the values that were put in and nothing else, and each of
them as often as it was put in.
-/

namespace CrateGraph.DigestTable

variable {α : Type} {table : DigestTable α} {place : Nat}

/-! ### The way through the places -/

/-- One step without the rest of a digest, not yet brought back into the table. -/
def nextNumber (number : Nat) : Nat :=
  number * 5 + 1

/-- So many steps change a number by `2 ^ exponent`, apart from multiples of twice that. -/
theorem iterate_two_pow (exponent : Nat) :
    ∃ factor shift, ∀ number, nextNumber^[2 ^ exponent] number =
      (1 + 2 ^ (exponent + 2) * factor) * number + 2 ^ exponent * (2 * shift + 1) := by
  induction exponent with
  | zero =>
      refine ⟨1, 0, fun number => ?_⟩
      simp only [pow_zero, Function.iterate_one, nextNumber]
      ring
  | succ exponent ih =>
      rcases ih with ⟨factor, shift, steps⟩
      refine ⟨factor + 2 ^ (exponent + 1) * factor * factor,
        shift + 2 ^ exponent * factor * (2 * shift + 1), fun number => ?_⟩
      rw [pow_succ, mul_two, Function.iterate_add_apply, steps, steps]
      ring

theorem iterate_two_pow_modEq (exponent number : Nat) :
    nextNumber^[2 ^ exponent] number ≡ number + 2 ^ exponent [MOD 2 ^ (exponent + 1)] := by
  rcases iterate_two_pow exponent with ⟨factor, shift, steps⟩
  have split : nextNumber^[2 ^ exponent] number =
      number + 2 ^ exponent + 2 ^ (exponent + 1) * (2 * factor * number + shift) := by
    rw [steps]
    ring
  rw [split, Nat.ModEq, Nat.add_mul_mod_self_left]

theorem modEq_or_add_modEq {left right exponent : Nat} (equal : left ≡ right [MOD 2 ^ exponent]) :
    left ≡ right [MOD 2 ^ (exponent + 1)] ∨
      left + 2 ^ exponent ≡ right [MOD 2 ^ (exponent + 1)] := by
  have positive : 0 < 2 ^ exponent := Nat.two_pow_pos exponent
  simp only [Nat.ModEq, pow_succ, Nat.mod_mul, Nat.add_mod_right, Nat.add_div_right _ positive]
  rw [equal]
  rcases Nat.mod_two_eq_zero_or_one (left / 2 ^ exponent) with leftBit | leftBit <;>
    rcases Nat.mod_two_eq_zero_or_one (right / 2 ^ exponent) with rightBit | rightBit <;>
      simp [leftBit, rightBit] <;> omega

/-- From any number, fewer than `2 ^ exponent` steps lead to every place. -/
theorem exists_iterate_modEq (exponent number place : Nat) :
    ∃ steps < 2 ^ exponent, nextNumber^[steps] number ≡ place [MOD 2 ^ exponent] := by
  induction exponent with
  | zero => exact ⟨0, Nat.two_pow_pos 0, Nat.modEq_one⟩
  | succ exponent ih =>
      rcases ih with ⟨steps, fewer, reached⟩
      have double : 2 ^ (exponent + 1) = 2 ^ exponent + 2 ^ exponent := by ring
      rcases modEq_or_add_modEq reached with there | away
      · exact ⟨steps, by omega, there⟩
      · refine ⟨2 ^ exponent + steps, by omega, ?_⟩
        rw [Function.iterate_add_apply]
        exact (iterate_two_pow_modEq exponent _).trans away

/-- Whether a number is brought back into the table before the steps or after them. -/
theorem iterate_mod (steps number modulus : Nat) :
    nextNumber^[steps] (number % modulus) ≡ nextNumber^[steps] number [MOD modulus] := by
  induction steps with
  | zero => exact Nat.mod_modEq number modulus
  | succ steps ih =>
      simp only [Function.iterate_succ_apply', nextNumber]
      exact (ih.mul_right 5).add_right 1

/-! ### The search -/

theorem mem_tried : place ∈ table.tried place := by
  unfold tried
  split <;> simp

theorem lt_size_of_mem_tried {other : Nat} (inside : place < table.size)
    (member : other ∈ table.tried place) : other < table.size := by
  unfold tried at member
  split at member
  · rw [List.mem_range'_1] at member
    omega
  · rwa [List.mem_singleton.mp member]

theorem lt_size_of_freePlace? {rounds rest found : Nat} (inside : place < table.size)
    (equal : table.freePlace? rounds place rest = some found) :
    found < table.size ∧ table.isFree found = true := by
  induction rounds generalizing place rest with
  | zero => cases equal
  | succ rounds ih =>
      rw [freePlace?] at equal
      split at equal
      · next near =>
          cases equal
          exact ⟨lt_size_of_mem_tried inside (List.mem_of_find?_eq_some near),
            List.find?_some near⟩
      · exact ih (Nat.mod_lt _ (Nat.zero_lt_of_lt inside)) equal

/-- With nothing left of the digest, a free place that some steps lead to ends the search. -/
theorem isSome_freePlace?_of_iterate {rounds steps : Nat} (inside : place < table.size)
    (fewer : steps < rounds) (free : table.isFree (nextNumber^[steps] place % table.size) = true) :
    (table.freePlace? rounds place 0).isSome = true := by
  induction rounds generalizing place steps with
  | zero => omega
  | succ rounds ih =>
      rw [freePlace?]
      split
      · rfl
      · next taken =>
          cases steps with
          | zero =>
              rw [Function.iterate_zero_apply, Nat.mod_eq_of_lt inside] at free
              exact absurd free (List.find?_eq_none.mp taken place mem_tried)
          | succ steps =>
              refine ih (Nat.mod_lt _ (Nat.zero_lt_of_lt inside)) (Nat.lt_of_succ_lt_succ fewer) ?_
              rw [iterate_mod steps _ table.size]
              exact free

theorem isSome_freePlace? {exponent rounds rest : Nat} (size : table.size = 2 ^ exponent)
    (inside : place < table.size) (free : ∃ other < table.size, table.isFree other = true)
    (small : rest < 32 ^ rounds) :
    (table.freePlace? (table.size + rounds) place rest).isSome = true := by
  induction rounds generalizing place rest with
  | zero =>
      rcases free with ⟨other, otherInside, free⟩
      rcases exists_iterate_modEq exponent place other with ⟨steps, fewer, reached⟩
      rw [Nat.lt_one_iff.mp small]
      refine isSome_freePlace?_of_iterate inside (size ▸ fewer) ?_
      rw [size, reached, ← size, Nat.mod_eq_of_lt otherInside]
      exact free
  | succ rounds ih =>
      rw [← Nat.add_assoc, freePlace?]
      split
      · rfl
      · refine ih (Nat.mod_lt _ (Nat.zero_lt_of_lt inside)) ?_
        rw [pow_succ] at small
        omega

/-! ### Values in their places -/

@[simp] theorem size_ofSize (size : Nat) : (ofSize size : DigestTable α).size = size := by
  simp [ofSize, DigestTable.size]

@[simp] theorem toList_ofSize (size : Nat) : (ofSize size : DigestTable α).toList = [] := by
  simp [ofSize, toList]

theorem isFree_iff (inside : place < table.size) :
    table.isFree place = true ↔ table.places.toList[place]? = some none := by
  rw [isFree, Array.getElem?_toList, Array.getElem?_eq_getElem inside]
  simp

theorem exists_isFree (room : table.toList.length < table.size) :
    ∃ place < table.size, table.isFree place = true := by
  by_contra! taken
  refine absurd (List.filterMap_length_eq_length.mpr ?_) (Nat.ne_of_lt room)
  intro content member
  rcases List.mem_iff_getElem?.mp member with ⟨place, held⟩
  rcases List.getElem?_eq_some_iff.mp held with ⟨inside, _⟩
  exact Option.isSome_iff_ne_none.mpr fun free =>
    taken place inside ((isFree_iff inside).mpr (free ▸ held))

theorem toList_set_perm {value : α} (inside : place < table.size)
    (free : table.isFree place = true) :
    (DigestTable.mk (table.places.setIfInBounds place (some value))).toList.Perm
      (value :: table.toList) := by
  rw [isFree_iff inside] at free
  rcases List.getElem?_eq_some_iff.mp free with ⟨bound, empty⟩
  rcases @List.exists_of_set _ _ (some value) _ bound with ⟨before, after, held, rfl, changed⟩
  rw [empty] at held
  rw [toList, toList, Array.toList_setIfInBounds, changed, held]
  simp only [List.filterMap_append, List.filterMap_cons, id]
  exact List.perm_middle

/-- The number of places is a power of two, and not all of them are taken. -/
structure IsRoomy (table : DigestTable α) : Prop where
  size : ∃ exponent, table.size = 2 ^ exponent
  room : table.toList.length < table.size

variable (digest : α → UInt64)

/-- A digest has 64 bits, of which thirteen rounds leave nothing. -/
theorem IsRoomy.put (roomy : table.IsRoomy) (value : α) :
    (table.put digest value).toList.Perm (value :: table.toList) ∧
      (table.put digest value).size = table.size := by
  rcases roomy.size with ⟨exponent, size⟩
  have inside : (digest value).toNat % table.size < table.size :=
    Nat.mod_lt _ (Nat.zero_lt_of_lt roomy.room)
  have small : (digest value).toNat < 32 ^ 13 := by
    have bound := (digest value).toNat_lt
    omega
  have found := isSome_freePlace? size inside (exists_isFree roomy.room) small
  rcases Option.isSome_iff_exists.mp found with ⟨place, found⟩
  rcases lt_size_of_freePlace? inside found with ⟨placeInside, free⟩
  have placed : table.put digest value = ⟨table.places.setIfInBounds place (some value)⟩ := by
    simp only [DigestTable.put, found]
  rw [placed]
  exact ⟨toList_set_perm placeInside free, Array.size_setIfInBounds⟩

/-! ### Tables of another size -/

theorem lt_sizeAbove (count : Nat) : count < sizeAbove count := by
  have exponent : count.log2 + 1 ≤ max 3 (count.log2 + 1) := Nat.le_max_right ..
  exact Nat.lt_of_lt_of_le Nat.lt_log2_self (Nat.pow_le_pow_right Nat.two_pos exponent)

theorem foldl_put_perm {exponent : Nat} (values : List α) (size : table.size = 2 ^ exponent)
    (room : table.toList.length + values.length ≤ table.size) :
    (values.foldl (put digest) table).toList.Perm (values.reverse ++ table.toList) ∧
      (values.foldl (put digest) table).size = table.size := by
  induction values generalizing table with
  | nil => exact ⟨List.Perm.refl _, rfl⟩
  | cons value values ih =>
      rw [List.length_cons] at room
      have roomy : table.IsRoomy := ⟨⟨exponent, size⟩, by omega⟩
      rcases roomy.put digest value with ⟨held, same⟩
      have length := held.length_eq
      rw [List.length_cons] at length
      rcases ih (same.trans size) (by omega) with ⟨rest, sameSize⟩
      refine ⟨?_, sameSize.trans same⟩
      rw [List.foldl_cons, List.reverse_cons, List.append_assoc]
      exact rest.trans (held.append_left _)

theorem rebuild_perm {exponent : Nat} (room : table.toList.length < 2 ^ exponent) :
    (table.rebuild digest (2 ^ exponent)).toList.Perm table.toList ∧
      (table.rebuild digest (2 ^ exponent)).IsRoomy := by
  have fits : (ofSize (2 ^ exponent) : DigestTable α).toList.length + table.toList.length ≤
      (ofSize (2 ^ exponent) : DigestTable α).size := by
    simp only [toList_ofSize, size_ofSize, List.length_nil]
    omega
  rcases foldl_put_perm digest table.toList (size_ofSize _) fits with ⟨held, size⟩
  rw [toList_ofSize, List.append_nil] at held
  rw [size_ofSize] at size
  have perm := held.trans (List.reverse_perm _)
  refine ⟨perm, ⟨exponent, size⟩, ?_⟩
  rw [rebuild, size, held.length_eq, List.length_reverse]
  exact room

/-! ### The values of a table -/

theorem add_perm (roomy : table.IsRoomy) (value : α) :
    (table.add digest value).toList.Perm (value :: table.toList) ∧
      (table.add digest value).IsRoomy := by
  rcases roomy.put digest value with ⟨held, size⟩
  rw [add]
  split
  · have room (factor : Nat) (positive : 0 < factor) : (table.put digest value).toList.length <
        sizeAbove ((table.put digest value).toList.length * factor) :=
      Nat.lt_of_le_of_lt (Nat.le_mul_of_pos_right _ positive) (lt_sizeAbove _)
    split
    · rcases rebuild_perm digest (room 2 (by decide)) with ⟨same, roomy⟩
      exact ⟨same.trans held, roomy⟩
    · rcases rebuild_perm digest (room 4 (by decide)) with ⟨same, roomy⟩
      exact ⟨same.trans held, roomy⟩
  · next calm =>
      refine ⟨held, size ▸ roomy.size, ?_⟩
      simp only [isCrowded, decide_eq_true_eq, Nat.not_le] at calm
      omega

theorem isRoomy_empty : (empty : DigestTable α).IsRoomy where
  size := ⟨3, size_ofSize 8⟩
  room := by simp [empty]

theorem foldl_add_perm (values : List α) (roomy : table.IsRoomy) :
    (values.foldl (add digest) table).toList.Perm (values.reverse ++ table.toList) := by
  induction values generalizing table with
  | nil => exact List.Perm.refl _
  | cons value values ih =>
      rcases add_perm digest roomy value with ⟨held, roomy⟩
      rw [List.foldl_cons, List.reverse_cons, List.append_assoc]
      exact (ih roomy).trans (held.append_left _)

theorem ofList_perm (values : List α) :
    (ofList digest values).toList.Perm values := by
  have held := foldl_add_perm digest values isRoomy_empty
  rw [empty, toList_ofSize, List.append_nil] at held
  exact held.trans (List.reverse_perm values)

theorem compact_perm (table : DigestTable α) :
    (table.compact digest).toList.Perm table.toList := by
  have fits : ∃ exponent, (if isCrowded 8 table.toList.length then
      sizeAbove (table.toList.length * 2) else 8) = 2 ^ exponent ∧
        table.toList.length < 2 ^ exponent := by
    split
    · exact ⟨_, rfl, Nat.lt_of_le_of_lt (Nat.le_mul_of_pos_right _ Nat.two_pos) (lt_sizeAbove _)⟩
    · next calm =>
        simp only [isCrowded, decide_eq_true_eq, Nat.not_le] at calm
        exact ⟨3, rfl, by omega⟩
  rcases fits with ⟨exponent, size, room⟩
  simp only [compact, size]
  split
  · exact List.Perm.refl _
  · exact (rebuild_perm digest room).1

/-- A table holds what was put in, also when it has no more room than that needs. -/
theorem values_perm (values : List α) :
    ((ofList digest values).compact digest).toList.Perm values :=
  (compact_perm digest _).trans (ofList_perm digest values)

end CrateGraph.DigestTable
