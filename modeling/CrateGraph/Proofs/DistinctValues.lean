import Mathlib.Algebra.BigOperators.Group.List.Lemmas
import Mathlib.Algebra.GroupWithZero.Nat

/-!
Lists of which each value is kept where it first comes.
-/

namespace CrateGraph

section Distinct

variable {Value : Type} [BEq Value] [LawfulBEq Value]

theorem eraseDups_concat (values : List Value) (value : Value) :
    (values ++ [value]).eraseDups =
      if value ∈ values then values.eraseDups else values.eraseDups ++ [value] := by
  rw [List.eraseDups_append]
  by_cases listed : value ∈ values <;> simp [List.removeAll, listed, List.eraseDups_cons]

theorem nodup_eraseDups (values : List Value) : values.eraseDups.Nodup := by
  induction values using List.reverseRecOn with
  | nil => exact List.nodup_nil
  | append_singleton earlier value induction =>
      rw [eraseDups_concat]
      split
      · exact induction
      · next fresh =>
          rw [← List.concat_eq_append]
          exact induction.concat (mt List.mem_eraseDups.mp fresh)

theorem length_eraseDups_le (values : List Value) : values.eraseDups.length ≤ values.length := by
  induction values using List.reverseRecOn with
  | nil => exact Nat.le_refl 0
  | append_singleton earlier value induction =>
      rw [eraseDups_concat, List.length_append]
      split
      · exact Nat.le_add_right_of_le induction
      · rw [List.length_append]
        exact Nat.add_le_add_right induction _

theorem eraseDups_eq_self {values : List Value} (distinct : values.Nodup) :
    values.eraseDups = values := by
  induction values using List.reverseRecOn with
  | nil => rfl
  | append_singleton earlier value induction =>
      rw [← List.concat_eq_append, List.nodup_concat] at distinct
      rw [eraseDups_concat, if_neg distinct.1, induction distinct.2]

theorem map_eraseDups {Image : Type} [BEq Image] [LawfulBEq Image] {image : Value → Image}
    (injective : Function.Injective image) (values : List Value) :
    values.eraseDups.map image = (values.map image).eraseDups := by
  induction values using List.reverseRecOn with
  | nil => rfl
  | append_singleton earlier value induction =>
      rw [eraseDups_concat, List.map_append, List.map_singleton, eraseDups_concat, ← induction]
      by_cases listed : value ∈ earlier
      · simp [listed, List.mem_map_of_mem listed]
      · simp [listed, List.mem_map_of_injective injective]

end Distinct

theorem sum_map_count_eraseDups {Value : Type} [DecidableEq Value] (values : List Value) :
    (values.eraseDups.map (values.count ·)).sum = values.length := by
  have permuted : values.eraseDups.Perm values.dedup := by
    rw [List.perm_ext_iff_of_nodup (nodup_eraseDups values) values.nodup_dedup]
    simp
  rw [(permuted.map _).sum_eq, List.sum_map_count_dedup_eq_length]

end CrateGraph
