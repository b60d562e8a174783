import CrateGraph.Rdf.Turtle

/-!
What becomes of an IRI when it is shortened.

An IRI is written in full, or as the name of a namespace that it starts with and a plain name for
the rest. In either case the written form leads back to it.
-/

namespace CrateGraph.Rdf.Turtle

/-- The step of the search for the longest namespace that an IRI starts with. -/
def preferLonger (iri : String) (best : Option (String × String)) (entry : String × String) :
    Option (String × String) :=
  if entry.2.toList.isPrefixOf iri.toList then
    match best with
    | none => some entry
    | some (_, longest) => if longest.length < entry.2.length then some entry else best
  else best

theorem longestMatch?_eq_foldl (iri : String) (namespaces : Namespaces) :
    longestMatch? iri namespaces = namespaces.foldl (preferLonger iri) none :=
  rfl

/-- Every step keeps what it had or takes a namespace that the IRI starts with. -/
theorem preferLonger_cases (iri : String) (best : Option (String × String))
    (entry : String × String) :
    preferLonger iri best entry = best ∨
      (preferLonger iri best entry = some entry ∧ entry.2.toList <+: iri.toList) := by
  unfold preferLonger
  split
  · next fits =>
      have starts := List.isPrefixOf_iff_prefix.mp fits
      split
      · exact Or.inr ⟨rfl, starts⟩
      · split
        · exact Or.inr ⟨rfl, starts⟩
        · exact Or.inl rfl
  · exact Or.inl rfl

theorem foldl_preferLonger {iri : String} {namespaces : Namespaces}
    {best : Option (String × String)} {entry : String × String}
    (found : namespaces.foldl (preferLonger iri) best = some entry) :
    best = some entry ∨ (entry ∈ namespaces ∧ entry.2.toList <+: iri.toList) := by
  induction namespaces generalizing best with
  | nil => exact Or.inl found
  | cons first rest induction =>
      rcases induction found with kept | ⟨member, starts⟩
      · rcases preferLonger_cases iri best first with same | ⟨taken, starts⟩
        · exact Or.inl (same ▸ kept)
        · obtain rfl : first = entry := Option.some.inj (taken.symm.trans kept)
          exact Or.inr ⟨List.mem_cons_self, starts⟩
      · exact Or.inr ⟨List.mem_cons_of_mem _ member, starts⟩

/-- A match is one of the namespaces, and the IRI starts with it. -/
theorem longestMatch?_sound {iri name namespaceIri : String} {namespaces : Namespaces}
    (found : longestMatch? iri namespaces = some (name, namespaceIri)) :
    (name, namespaceIri) ∈ namespaces ∧ namespaceIri.toList <+: iri.toList := by
  rw [longestMatch?_eq_foldl] at found
  rcases foldl_preferLonger found with impossible | sound
  · cases impossible
  · exact sound

/-- An IRI is shortened only to a form that names it: a namespace of the table, and what of the IRI
follows it. -/
theorem compactIri_cases (namespaces : Namespaces) (iri : String) :
    compactIri namespaces iri = "<" ++ iri ++ ">" ∨
      ∃ name namespaceIri localName, (name, namespaceIri) ∈ namespaces ∧
        iri.toList = namespaceIri.toList ++ localName ∧ isLocalName localName ∧
        compactIri namespaces iri = name ++ ":" ++ String.ofList localName := by
  unfold compactIri
  split
  · exact Or.inl rfl
  · next name namespaceIri found =>
      rcases longestMatch?_sound found with ⟨member, localName, split⟩
      have dropped : iri.toList.drop namespaceIri.length = localName := by
        rw [← split, ← String.length_toList, List.drop_left]
      simp only [dropped]
      split
      · next isLocal =>
          exact Or.inr ⟨name, namespaceIri, localName, member, split.symm, isLocal, rfl⟩
      · exact Or.inl rfl

/-- Three marks apart, a written IRI is made of the characters of the IRI and of a name. -/
theorem not_mem_compactIri {namespaces : Namespaces} {character : Char}
    (unmarked : character ∉ ['<', '>', ':'])
    (notInNames : ∀ entry ∈ namespaces, character ∉ entry.1.toList) {iri : String}
    (notInIri : character ∉ iri.toList) : character ∉ (compactIri namespaces iri).toList := by
  simp only [List.mem_cons, List.not_mem_nil, or_false, not_or] at unmarked
  rcases compactIri_cases namespaces iri with inFull | shortened
  · rw [inFull]
    simp [unmarked, notInIri]
  · rcases shortened with ⟨name, namespaceIri, localName, member, split, _, written⟩
    rw [split, List.mem_append, not_or] at notInIri
    rw [written]
    simp [unmarked, notInNames _ member, notInIri.2]

end CrateGraph.Rdf.Turtle
