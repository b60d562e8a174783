import CrateGraph.Proofs.Rdf.Compaction
import Mathlib.Data.List.Induction

/-!
Which namespace shortens an IRI.

The search keeps the first of the longest namespaces that it has met. Main statement: that namespace
alone decides whether an IRI is shortened, and the written form of an IRI belongs to no other IRI.
-/

namespace CrateGraph.Rdf.Turtle

variable {namespaces : Namespaces} {iri : String}

/-! ### The namespace that prevails -/

/-- The IRI starts with the namespace, and with none that is longer or that is as long and named
earlier. -/
structure Prevails (namespaces : Namespaces) (iri : String) (entry : String × String) : Prop where
  starts : entry.2.toList <+: iri.toList
  foremost : ∃ earlier later, namespaces = earlier ++ entry :: later ∧
    (∀ other ∈ earlier, other.2.toList <+: iri.toList → other.2.length < entry.2.length) ∧
    ∀ other ∈ later, other.2.toList <+: iri.toList → other.2.length ≤ entry.2.length

namespace Prevails

variable {entry : String × String}

theorem mem (prevails : Prevails namespaces iri entry) : entry ∈ namespaces := by
  rcases prevails.foremost with ⟨earlier, later, rfl, _⟩
  simp

theorem length_le (prevails : Prevails namespaces iri entry) {other : String × String}
    (member : other ∈ namespaces) (starts : other.2.toList <+: iri.toList) :
    other.2.length ≤ entry.2.length := by
  rcases prevails.foremost with ⟨earlier, later, rfl, before, after⟩
  rcases List.mem_append.mp member with inEarlier | inRest
  · exact Nat.le_of_lt (before other inEarlier starts)
  · rcases List.mem_cons.mp inRest with rfl | inLater
    · exact Nat.le_refl _
    · exact after other inLater starts

/-- A namespace that comes later prevails only if it is longer. -/
theorem keep (prevails : Prevails namespaces iri entry) {other : String × String}
    (noLonger : other.2.toList <+: iri.toList → other.2.length ≤ entry.2.length) :
    Prevails (namespaces ++ [other]) iri entry := by
  rcases prevails with ⟨starts, earlier, later, rfl, before, after⟩
  refine ⟨starts, earlier, later ++ [other], by simp, before, ?_⟩
  rintro another member
  rcases List.mem_append.mp member with inLater | isOther
  · exact after another inLater
  · exact List.mem_singleton.mp isOther ▸ noLonger

theorem last (starts : entry.2.toList <+: iri.toList)
    (longest : ∀ other ∈ namespaces, other.2.toList <+: iri.toList →
      other.2.length < entry.2.length) : Prevails (namespaces ++ [entry]) iri entry :=
  ⟨starts, namespaces, [], rfl, longest, List.forall_mem_nil _⟩

theorem unique {left right : String × String} (ofLeft : Prevails namespaces iri left)
    (ofRight : Prevails namespaces iri right) : left = right := by
  have notShorter := ofRight.length_le ofLeft.mem ofLeft.starts
  have notLonger := ofLeft.length_le ofRight.mem ofRight.starts
  rcases ofLeft with ⟨startsLeft, earlier, later, rfl, before, _⟩
  rcases ofRight with ⟨startsRight, otherEarlier, otherLater, split, otherBefore, _⟩
  -- Whichever stands first, the other one would have to be longer.
  rcases List.append_eq_append_iff.mp split with ⟨between, rfl, rest⟩ | ⟨between, rfl, rest⟩
  · cases between with
    | nil => exact (List.cons.inj rest).1
    | cons first further =>
        obtain rfl : left = first := (List.cons.inj rest).1
        exact absurd (otherBefore left (by simp) startsLeft) (Nat.not_lt.mpr notLonger)
  · cases between with
    | nil => exact (List.cons.inj rest).1.symm
    | cons first further =>
        obtain rfl : right = first := (List.cons.inj rest).1
        exact absurd (before right (by simp) startsRight) (Nat.not_lt.mpr notShorter)

end Prevails

/-! ### The search -/

/-- What the search has found in some namespaces. -/
def IsChoice (namespaces : Namespaces) (iri : String) : Option (String × String) → Prop
  | none => ∀ entry ∈ namespaces, ¬entry.2.toList <+: iri.toList
  | some entry => Prevails namespaces iri entry

/-- One more namespace is taken if it is the first that fits or longer than the one found. -/
theorem IsChoice.preferLonger {best : Option (String × String)}
    (choice : IsChoice namespaces iri best) (entry : String × String) :
    IsChoice (namespaces ++ [entry]) iri (preferLonger iri best entry) := by
  unfold Turtle.preferLonger
  split
  · next fits =>
      have starts := List.isPrefixOf_iff_prefix.mp fits
      cases best with
      | none =>
          exact Prevails.last starts fun other member fits => absurd fits (choice other member)
      | some found =>
          dsimp only
          split
          · next longer =>
              refine Prevails.last starts fun other member fits => ?_
              exact Nat.lt_of_le_of_lt (choice.length_le member fits) longer
          · next notLonger => exact choice.keep fun _ => Nat.not_lt.mp notLonger
  · next unfit =>
      have misfit : ¬entry.2.toList <+: iri.toList := mt List.isPrefixOf_iff_prefix.mpr unfit
      cases best with
      | none =>
          intro other member
          rcases List.mem_append.mp member with before | last
          · exact choice other before
          · exact List.mem_singleton.mp last ▸ misfit
      | some found => exact choice.keep fun starts => absurd starts misfit

theorem isChoice_longestMatch? (namespaces : Namespaces) (iri : String) :
    IsChoice namespaces iri (longestMatch? iri namespaces) := by
  rw [longestMatch?_eq_foldl]
  induction namespaces using List.reverseRecOn with
  | nil => exact List.forall_mem_nil _
  | append_singleton rest entry induction =>
      rw [List.foldl_append, List.foldl_cons, List.foldl_nil]
      exact induction.preferLonger entry

theorem longestMatch?_eq_some_iff {entry : String × String} :
    longestMatch? iri namespaces = some entry ↔ Prevails namespaces iri entry := by
  have choice := isChoice_longestMatch? namespaces iri
  cases found : longestMatch? iri namespaces with
  | none =>
      rw [found] at choice
      simpa using fun prevails : Prevails namespaces iri entry =>
        choice entry prevails.mem prevails.starts
  | some best =>
      rw [found] at choice
      rw [Option.some.injEq]
      exact ⟨fun same => same ▸ choice, fun prevails => choice.unique prevails⟩

/-! ### The written forms -/

/-- Letters, digits and low lines, at least one. -/
structure IsPlainName (localName : String) : Prop where
  nonempty : localName ≠ ""
  plain : ∀ character ∈ localName.toList, Text.isAlphanumeric character ∨ character = '_'

theorem isLocalName_iff (localName : String) :
    isLocalName localName.toList = true ↔ IsPlainName localName := by
  have parts : isLocalName localName.toList = true ↔ localName ≠ "" ∧
      ∀ character ∈ localName.toList, Text.isAlphanumeric character ∨ character = '_' := by
    simp [isLocalName]
  exact parts.trans ⟨fun both => ⟨both.1, both.2⟩, fun isPlain => ⟨isPlain.1, isPlain.2⟩⟩

instance (localName : String) : Decidable (IsPlainName localName) :=
  decidable_of_iff _ (isLocalName_iff localName)

theorem IsPlainName.not_mem {localName : String} (isPlain : IsPlainName localName)
    {mark : Char} (notAlphanumeric : Text.isAlphanumeric mark = false) (notLowLine : mark ≠ '_') :
    mark ∉ localName.toList := by
  intro member
  rcases isPlain.plain mark member with alphanumeric | lowLine
  · rw [notAlphanumeric] at alphanumeric
    cases alphanumeric
  · exact notLowLine lowLine

theorem IsPlainName.colon_not_mem {localName : String} (isPlain : IsPlainName localName) :
    ':' ∉ localName.toList :=
  isPlain.not_mem (by decide +kernel) (by decide)

/-- The last colon ends the name of the namespace, whatever that name is. -/
theorem shortened_inj {left right leftName rightName : String} (leftPlain : IsPlainName leftName)
    (rightPlain : IsPlainName rightName)
    (same : left ++ ":" ++ leftName = right ++ ":" ++ rightName) :
    left = right ∧ leftName = rightName := by
  have lists : left.toList ++ ':' :: leftName.toList =
      right.toList ++ ':' :: rightName.toList := by
    simpa using congrArg String.toList same
  have inLeft := leftPlain.colon_not_mem
  have inRight := rightPlain.colon_not_mem
  rcases List.append_eq_append_iff.mp lists with ⟨between, names, rest⟩ | ⟨between, names, rest⟩
  · cases between with
    | nil =>
        rw [List.append_nil, String.toList_inj] at names
        exact ⟨names.symm, String.toList_inj.mp (List.cons.inj rest).2⟩
    | cons first further =>
        exact absurd ((List.cons.inj rest).2 ▸ by simp) inLeft
  · cases between with
    | nil =>
        rw [List.append_nil, String.toList_inj] at names
        exact ⟨names, (String.toList_inj.mp (List.cons.inj rest).2).symm⟩
    | cons first further =>
        exact absurd ((List.cons.inj rest).2 ▸ by simp) inRight

/-- An angle bracket ends an IRI in full. -/
theorem IsPlainName.brackets_ne {localName : String} (isPlain : IsPlainName localName)
    (iri name : String) : "<" ++ iri ++ ">" ≠ name ++ ":" ++ localName := by
  intro same
  have present : localName.toList ≠ [] := by simpa using isPlain.nonempty
  have last : (("<" ++ iri ++ ">").toList).getLast? = localName.toList.getLast? := by
    rw [same, String.toList_append, List.getLast?_append, List.getLast?_eq_some_getLast present,
      Option.some_or]
  have bracket : localName.toList.getLast? = some '>' := by
    rw [← last, String.toList_append, List.getLast?_append]
    rfl
  exact isPlain.not_mem (by decide +kernel) (by decide) (List.mem_of_getLast? bracket)

theorem compactIri_of_prevails {name namespaceIri localName : String}
    (prevails : Prevails namespaces iri (name, namespaceIri))
    (split : iri = namespaceIri ++ localName) :
    compactIri namespaces iri =
      if isLocalName localName.toList then name ++ ":" ++ localName else "<" ++ iri ++ ">" := by
  have dropped : iri.toList.drop namespaceIri.length = localName.toList := by
    rw [split, String.toList_append, ← String.length_toList, List.drop_left]
  rw [compactIri, longestMatch?_eq_some_iff.mpr prevails]
  simp only [dropped, String.ofList_toList]

/-- The namespace that prevails has the name and leaves the plain name. -/
def Shortens (namespaces : Namespaces) (iri name localName : String) : Prop :=
  ∃ namespaceIri, Prevails namespaces iri (name, namespaceIri) ∧ iri = namespaceIri ++ localName ∧
    IsPlainName localName

theorem Shortens.isPlain {name localName : String}
    (shortens : Shortens namespaces iri name localName) : IsPlainName localName := by
  rcases shortens with ⟨_, _, _, isPlain⟩
  exact isPlain

theorem Shortens.compactIri_eq {name localName : String}
    (shortens : Shortens namespaces iri name localName) :
    compactIri namespaces iri = name ++ ":" ++ localName := by
  rcases shortens with ⟨namespaceIri, prevails, split, isPlain⟩
  rw [compactIri_of_prevails prevails split, if_pos ((isLocalName_iff _).mpr isPlain)]

/-- Where no namespace prevails, or one that leaves no plain name, the IRI is written in full. -/
theorem compactIri_eq_brackets
    (unshortened : ¬∃ name localName, Shortens namespaces iri name localName) :
    compactIri namespaces iri = "<" ++ iri ++ ">" := by
  cases found : longestMatch? iri namespaces with
  | none => rw [compactIri, found]
  | some entry =>
      have prevails := longestMatch?_eq_some_iff.mp found
      rcases prevails.starts with ⟨rest, split⟩
      have whole : iri = entry.2 ++ String.ofList rest := by
        rw [← String.toList_inj, String.toList_append, String.toList_ofList, split]
      rw [compactIri_of_prevails prevails whole, if_neg]
      intro isLocal
      exact unshortened ⟨_, _, _, prevails, whole, (isLocalName_iff _).mp isLocal⟩

theorem compactIri_eq_shortened_iff {name localName : String} (isPlain : IsPlainName localName) :
    compactIri namespaces iri = name ++ ":" ++ localName ↔
      Shortens namespaces iri name localName := by
  constructor
  · intro written
    by_cases shortened : ∃ otherName otherLocal, Shortens namespaces iri otherName otherLocal
    · rcases shortened with ⟨otherName, otherLocal, shortens⟩
      rcases shortened_inj shortens.isPlain isPlain (shortens.compactIri_eq.symm.trans written) with
        ⟨rfl, rfl⟩
      exact shortens
    · rw [compactIri_eq_brackets shortened] at written
      exact absurd written (isPlain.brackets_ne iri name)
  · exact Shortens.compactIri_eq

theorem compactIri_eq_brackets_iff :
    compactIri namespaces iri = "<" ++ iri ++ ">" ↔
      ¬∃ name localName, Shortens namespaces iri name localName := by
  constructor
  · rintro written ⟨name, localName, shortens⟩
    exact shortens.isPlain.brackets_ne iri name (written.symm.trans shortens.compactIri_eq)
  · exact compactIri_eq_brackets

theorem compactIri_injective {namespaces : Namespaces}
    (distinct : (namespaces.map Prod.fst).Nodup) :
    Function.Injective (compactIri namespaces) := by
  intro left right same
  by_cases shortened : ∃ name localName, Shortens namespaces left name localName
  · rcases shortened with ⟨name, localName, ofLeft⟩
    have written := ofLeft.compactIri_eq
    rw [same, compactIri_eq_shortened_iff ofLeft.isPlain] at written
    rcases ofLeft with ⟨namespaceIri, prevails, rfl, _⟩
    rcases written with ⟨otherIri, otherPrevails, rfl, _⟩
    have first := Entries.get?_of_mem distinct prevails.mem
    have second := Entries.get?_of_mem distinct otherPrevails.mem
    rw [Option.some.inj (first.symm.trans second)]
  · have written := same.symm.trans (compactIri_eq_brackets shortened)
    by_cases otherShortened : ∃ name localName, Shortens namespaces right name localName
    · rcases otherShortened with ⟨name, localName, ofRight⟩
      exact absurd (written.symm.trans ofRight.compactIri_eq)
        (ofRight.isPlain.brackets_ne left name)
    · rw [compactIri_eq_brackets otherShortened] at written
      simpa [← String.toList_inj] using written.symm

/-- An IRI is written as a name and a plain name exactly if the longest namespace that it starts
with, the first one of several, has that name and leaves that plain name. If it leaves anything
else, the IRI is written in full, whatever a shorter namespace would leave. The written forms of
different IRIs differ. -/
theorem longest_namespace_decides (namespaces : Table String) :
    (∀ iri name localName, IsPlainName localName →
      (compactIri namespaces.entries iri = name ++ ":" ++ localName ↔
        ∃ namespaceIri, Prevails namespaces.entries iri (name, namespaceIri) ∧
          iri = namespaceIri ++ localName)) ∧
    (∀ iri, compactIri namespaces.entries iri = "<" ++ iri ++ ">" ↔
      ¬∃ name localName namespaceIri, Prevails namespaces.entries iri (name, namespaceIri) ∧
        iri = namespaceIri ++ localName ∧ IsPlainName localName) ∧
    (∀ name namespaceIri localName,
      Prevails namespaces.entries (namespaceIri ++ localName) (name, namespaceIri) →
      ¬IsPlainName localName →
      compactIri namespaces.entries (namespaceIri ++ localName) =
        "<" ++ (namespaceIri ++ localName) ++ ">") ∧
    Function.Injective (compactIri namespaces.entries) := by
  refine ⟨?_, fun iri => compactIri_eq_brackets_iff, ?_, compactIri_injective namespaces.nodup⟩
  · intro iri name localName isPlain
    rw [compactIri_eq_shortened_iff isPlain, Shortens]
    simp only [isPlain, and_true]
  · intro name namespaceIri localName prevails notPlain
    rw [compactIri_of_prevails prevails rfl, if_neg (mt (isLocalName_iff localName).mp notPlain)]

/-- A namespace inside of another, and the same namespace under a second name. -/
def nestedNamespaces : Table String where
  entries := [("a", "http://x/"), ("b", "http://x/y"), ("c", "http://x/y")]
  nodup := by decide

/-- Where the longer namespace leaves nothing, `a:y` is not tried. -/
theorem nestedNamespaces_decide :
    IsPlainName "z" ∧
      Prevails nestedNamespaces.entries ("http://x/y" ++ "z") ("b", "http://x/y") ∧
      compactIri nestedNamespaces.entries ("http://x/y" ++ "z") = "b" ++ ":" ++ "z" ∧
      ¬IsPlainName "" ∧
      Prevails nestedNamespaces.entries ("http://x/y" ++ "") ("b", "http://x/y") ∧
      compactIri nestedNamespaces.entries ("http://x/y" ++ "") =
        "<" ++ ("http://x/y" ++ "") ++ ">" := by
  have isPlain : IsPlainName "z" := by decide +kernel
  have notPlain : ¬IsPlainName "" := by decide +kernel
  have within : Prevails nestedNamespaces.entries ("http://x/y" ++ "z") ("b", "http://x/y") :=
    longestMatch?_eq_some_iff.mp (by decide +kernel)
  have atEnd : Prevails nestedNamespaces.entries ("http://x/y" ++ "") ("b", "http://x/y") :=
    longestMatch?_eq_some_iff.mp (by decide +kernel)
  rcases longest_namespace_decides nestedNamespaces with ⟨shortened, _, inFull, _⟩
  exact ⟨isPlain, within, (shortened _ "b" "z" isPlain).mpr ⟨"http://x/y", within, rfl⟩, notPlain,
    atEnd, inFull "b" "http://x/y" "" atEnd notPlain⟩

end CrateGraph.Rdf.Turtle
