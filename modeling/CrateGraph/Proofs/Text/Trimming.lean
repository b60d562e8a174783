import CrateGraph.Text.Blank
import Mathlib.Data.List.TakeWhile

/-!
Trimming takes away what surrounds a text, and nothing of the text itself.
-/

namespace CrateGraph.Text

variable {drop : Char → Bool}

/-- Neither end of the characters is one that is dropped. -/
structure Trimmed (drop : Char → Bool) (characters : List Char) : Prop where
  start : ∀ first ∈ characters.head?, drop first = false
  stop : ∀ last ∈ characters.getLast?, drop last = false

theorem Trimmed.of_forall {characters : List Char}
    (kept : ∀ character ∈ characters, drop character = false) : Trimmed drop characters where
  start first member := kept first (List.mem_of_mem_head? member)
  stop last member := kept last (List.mem_of_mem_getLast? member)

theorem Trimmed.of_ends {first last : Char} (inner : List Char) (keptFirst : drop first = false)
    (keptLast : drop last = false) : Trimmed drop (first :: (inner ++ [last])) where
  start other member := by rwa [← Option.some.inj member]
  stop other member := by
    rw [← List.cons_append, List.getLast?_concat] at member
    rwa [← Option.some.inj member]

theorem trimCharacters_prefix_dropWhile (drop : Char → Bool) (characters : List Char) :
    trimCharacters drop characters <+: characters.dropWhile drop := by
  rw [trimCharacters, ← List.reverse_suffix, List.reverse_reverse]
  exact List.dropWhile_suffix drop

theorem trimCharacters_sublist (drop : Char → Bool) (characters : List Char) :
    (trimCharacters drop characters).Sublist characters :=
  (trimCharacters_prefix_dropWhile drop characters).sublist.trans (List.dropWhile_sublist drop)

theorem trimmed_trimCharacters (drop : Char → Bool) (characters : List Char) :
    Trimmed drop (trimCharacters drop characters) where
  start first member := by
    have kept := List.head?_dropWhile_not drop characters
    rcases trimCharacters_prefix_dropWhile drop characters with ⟨after, whole⟩
    rw [← whole, List.head?_append, Option.mem_def.mp member] at kept
    simpa using kept
  stop last member := by
    have kept := List.head?_dropWhile_not drop (characters.dropWhile drop).reverse
    rw [trimCharacters, List.getLast?_reverse, Option.mem_def] at member
    rw [member] at kept
    simpa using kept

theorem dropWhile_eq_self {characters : List Char}
    (start : ∀ first ∈ characters.head?, drop first = false) :
    characters.dropWhile drop = characters := by
  cases characters with
  | nil => rfl
  | cons first rest =>
      rw [List.dropWhile_cons_of_neg]
      simp [start first rfl]

theorem trimCharacters_surrounded {before middle after : List Char}
    (droppedBefore : ∀ character ∈ before, drop character)
    (droppedAfter : ∀ character ∈ after, drop character) (trimmed : Trimmed drop middle) :
    trimCharacters drop (before ++ middle ++ after) = middle := by
  rw [trimCharacters, List.append_assoc, List.dropWhile_append_of_pos droppedBefore]
  cases middle with
  | nil =>
      rw [List.nil_append, List.dropWhile_eq_nil_iff.mpr droppedAfter]
      rfl
  | cons first rest =>
      have whole : (first :: rest ++ after).dropWhile drop = first :: rest ++ after :=
        dropWhile_eq_self trimmed.start
      have back : ∀ character ∈ after.reverse, drop character :=
        fun character member => droppedAfter character (List.mem_reverse.mp member)
      have kept : (first :: rest).reverse.dropWhile drop = (first :: rest).reverse := by
        refine dropWhile_eq_self fun last member => trimmed.stop last ?_
        rwa [List.head?_reverse] at member
      rw [whole, List.reverse_append, List.dropWhile_append_of_pos back, kept,
        List.reverse_reverse]

theorem trimCharacters_of_trimmed {characters : List Char} (trimmed : Trimmed drop characters) :
    trimCharacters drop characters = characters := by
  have nothing : ∀ character ∈ [], drop character = true := by simp
  simpa using trimCharacters_surrounded nothing nothing trimmed

/-- However a text ends, it starts after trimming with what it starts with after the blanks. -/
theorem exists_trimCharacters_eq_cons {before : List Char} {first : Char} (rest : List Char)
    (droppedBefore : ∀ character ∈ before, drop character) (kept : drop first = false) :
    ∃ tail, trimCharacters drop (before ++ first :: rest) = first :: tail := by
  have whole : (first :: rest).dropWhile drop = first :: rest :=
    dropWhile_eq_self fun other same => by cases same; exact kept
  refine ⟨(rest.reverse.dropWhile drop).reverse, ?_⟩
  rw [trimCharacters, List.dropWhile_append_of_pos droppedBefore, whole, List.reverse_cons,
    List.dropWhile_append]
  split
  next none =>
    rw [List.isEmpty_iff] at none
    simp [none, kept]
  next => simp

end CrateGraph.Text
