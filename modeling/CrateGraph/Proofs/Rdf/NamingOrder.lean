import CrateGraph.Proofs.Rdf.LongestNamespace
import CrateGraph.Proofs.Rdf.TurtleReading
import Mathlib.Data.String.Basic

/-!
The order in which namespaces are named cannot be seen.

Main statement: if names and namespaces are distinct, naming them in another order leaves the text
of whatever is emitted after them as it is. The text starts with their declarations by ascending
name and holds no other, unless a name itself looks like the start of one.
-/

namespace CrateGraph.Rdf.Turtle

variable {namespaces others : Namespaces}

/-! ### Tables in another order -/

/-- Where no namespace has two names, none can prevail by being named first. -/
theorem prevails_iff_of_distinct (distinct : (namespaces.map Prod.snd).Nodup) {iri : String}
    {entry : String × String} :
    Prevails namespaces iri entry ↔ entry ∈ namespaces ∧ entry.2.toList <+: iri.toList ∧
      ∀ other ∈ namespaces, other.2.toList <+: iri.toList →
        other.2.length ≤ entry.2.length := by
  constructor
  · exact fun prevails => ⟨prevails.mem, prevails.starts, fun _ => prevails.length_le⟩
  · rintro ⟨member, starts, longest⟩
    rcases List.append_of_mem member with ⟨earlier, later, rfl⟩
    refine ⟨starts, earlier, later, rfl, ?_, ?_⟩
    · intro other before otherStarts
      refine Nat.lt_of_le_of_ne (longest other (List.mem_append_left _ before) otherStarts) ?_
      intro sameLength
      -- Of two starts of the IRI with the same length, one is the other.
      have sameLists : other.2.toList.length = entry.2.toList.length := by
        rw [String.length_toList, String.length_toList, sameLength]
      have same : other.2 = entry.2 := by
        rw [← String.toList_inj]
        have nested := List.prefix_of_prefix_length_le otherStarts starts sameLists.le
        exact nested.eq_of_length sameLists
      rw [List.map_append, List.nodup_append] at distinct
      exact distinct.2.2 _ (List.mem_map_of_mem before) _ (by simp) same
    · exact fun other after => longest other (by simp [after])

section Reordered

variable (reordered : namespaces.Perm others)
include reordered

theorem longestMatch?_perm (distinct : (namespaces.map Prod.snd).Nodup) (iri : String) :
    longestMatch? iri namespaces = longestMatch? iri others := by
  have otherDistinct := (reordered.map Prod.snd).nodup_iff.mp distinct
  apply Option.ext
  intro entry
  rw [longestMatch?_eq_some_iff, longestMatch?_eq_some_iff, prevails_iff_of_distinct distinct,
    prevails_iff_of_distinct otherDistinct]
  simp only [reordered.mem_iff]

theorem compactIri_perm (distinct : (namespaces.map Prod.snd).Nodup) :
    compactIri namespaces = compactIri others := by
  funext iri
  rw [compactIri, compactIri, longestMatch?_perm reordered distinct iri]

end Reordered

theorem pairwise_sortedNamespaces (namespaces : Namespaces) :
    (sortedNamespaces namespaces).Pairwise fun left right => left.1 ≤ right.1 := by
  have transitive : ∀ first second third : String × String, decide (first.1 ≤ second.1) →
      decide (second.1 ≤ third.1) → decide (first.1 ≤ third.1) := by
    intro first second third notGreater notGreaterEither
    rw [decide_eq_true_eq] at *
    exact String.le_trans notGreater notGreaterEither
  have total : ∀ first second : String × String,
      decide (first.1 ≤ second.1) || decide (second.1 ≤ first.1) := by
    intro first second
    rw [Bool.or_eq_true, decide_eq_true_eq, decide_eq_true_eq]
    exact String.le_total first.1 second.1
  exact (List.pairwise_mergeSort transitive total namespaces).imp of_decide_eq_true

theorem ascending_sortedNamespaces (distinct : (namespaces.map Prod.fst).Nodup) :
    ((sortedNamespaces namespaces).map Prod.fst).Pairwise (· < ·) := by
  have sortedDistinct : ((sortedNamespaces namespaces).map Prod.fst).Nodup :=
    ((List.mergeSort_perm _ _).map Prod.fst).nodup_iff.mpr distinct
  have sorted := List.pairwise_map.mpr (pairwise_sortedNamespaces namespaces)
  exact (sorted.and sortedDistinct).imp fun both => lt_of_le_of_ne both.1 both.2

theorem sortedNamespaces_perm (distinct : (namespaces.map Prod.fst).Nodup)
    (reordered : namespaces.Perm others) :
    sortedNamespaces namespaces = sortedNamespaces others := by
  have sorting : (sortedNamespaces namespaces).Perm (sortedNamespaces others) :=
    (List.mergeSort_perm _ _).trans (reordered.trans (List.mergeSort_perm _ _).symm)
  refine List.Perm.eq_of_pairwise ?_ (pairwise_sortedNamespaces namespaces)
    (pairwise_sortedNamespaces others) sorting
  intro left right leftMember rightMember noGreater noLess
  have inTable : ∀ entry ∈ sortedNamespaces namespaces, entry ∈ namespaces :=
    fun entry member => (List.mergeSort_perm _ _).mem_iff.mp member
  exact List.inj_on_of_nodup_map distinct (inTable left leftMember)
    (inTable right (sorting.mem_iff.mpr rightMember)) (String.le_antisymm noGreater noLess)

theorem documentLines_perm (distinctNames : (namespaces.map Prod.fst).Nodup)
    (distinctNamespaces : (namespaces.map Prod.snd).Nodup) (reordered : namespaces.Perm others)
    (triples : List Triple) : documentLines namespaces triples = documentLines others triples := by
  have style : lineStyle namespaces = lineStyle others := by
    rw [lineStyle, lineStyle, compactIri_perm reordered distinctNamespaces]
  have header : headerLines namespaces = headerLines others := by
    have empty : namespaces.isEmpty = others.isEmpty := by
      rw [Bool.eq_iff_iff, List.isEmpty_iff, List.isEmpty_iff]
      exact ⟨fun none => (none ▸ reordered).nil_eq.symm, fun none => (none ▸ reordered).eq_nil⟩
    rw [headerLines, headerLines, sortedNamespaces_perm distinctNames reordered, empty]
  cases triples with
  | nil => rfl
  | cons triple rest => simp only [documentLines, header, style]

/-! ### Texts after names -/

/-- The text of some calls that come after the names of some namespaces. -/
def textAfter (names : List (String × String)) (emissions : List Call) : String :=
  Format.turtle.write (names.map nameStatement ++ emissions.map Call.statement)

theorem map_statement_of_emitting {emissions : List Call}
    (emitting : ∀ call ∈ emissions, call.triple?.isSome) :
    emissions.map Call.statement = (emissions.filterMap Call.triple?).map Statement.triple := by
  induction emissions with
  | nil => rfl
  | cons call rest induction =>
      have further := induction fun other member => emitting other (List.mem_cons_of_mem _ member)
      have here := emitting call List.mem_cons_self
      cases call with
      | namespaceName => cases here
      | iri | literal | typed | bool | int => exact congrArg (_ :: ·) further

theorem toList_textAfter {names : List (String × String)}
    (distinct : (names.map Prod.fst).Nodup) {emissions : List Call}
    (emitting : ∀ call ∈ emissions, call.triple?.isSome) :
    (textAfter names emissions).toList =
      (documentLines names (emissions.filterMap Call.triple?)).flatMap endLine := by
  rw [textAfter, map_statement_of_emitting emitting, toList_write,
    namedNamespaces_of_nodup distinct]

/-- The datatypes that are not arguments do not break a line either. -/
theorem lineFeed_not_mem_iris {call : Call} (unbroken : ∀ iri ∈ call.iris, '\n' ∉ iri.toList)
    {triple : Triple} (emitted : call.triple? = some triple) :
    ∀ iri ∈ triple.iris, '\n' ∉ iri.toList := by
  cases call with
  | namespaceName => cases emitted
  | iri | literal | typed =>
      cases emitted
      exact unbroken
  | bool subject predicate value | int subject predicate value =>
      cases emitted
      simp only [Call.iris, List.forall_mem_cons] at unbroken
      simp [Triple.iris, Term.iris, unbroken]

theorem length_filterMap_triple? {emissions : List Call}
    (emitting : ∀ call ∈ emissions, call.triple?.isSome) :
    (emissions.filterMap Call.triple?).length = emissions.length := by
  simpa using (congrArg List.length (map_statement_of_emitting emitting)).symm

/-- The lines of such a text: declarations, one for each emission, and nothing after the last. -/
theorem lines_textAfter {names : List (String × String)} (distinct : (names.map Prod.fst).Nodup)
    (unbroken : ∀ entry ∈ names, '\n' ∉ entry.1.toList ∧ '\n' ∉ entry.2.toList)
    {emissions : List Call} (emitting : ∀ call ∈ emissions, call.triple?.isSome)
    (unbrokenIris : ∀ call ∈ emissions, ∀ iri ∈ call.iris, '\n' ∉ iri.toList)
    (nonempty : emissions ≠ []) :
    (textAfter names emissions).toList.splitOn '\n' =
      headerLines names ++ (emissions.filterMap Call.triple?).map (lineStyle names).line ++
        [[]] := by
  have stated : ∀ triple ∈ emissions.filterMap Call.triple?,
      '\n' ∉ (lineStyle names).line triple := by
    intro triple member
    rcases List.mem_filterMap.mp member with ⟨call, present, emitted⟩
    refine LineStyle.lineFeed_not_mem_line lineFeed_not_mem_escapeCharacter fun iri used => ?_
    exact not_mem_compactIri (by decide) (fun entry named => (unbroken entry named).1)
      (lineFeed_not_mem_iris (unbrokenIris call present) emitted iri used)
  have lines : documentLines names (emissions.filterMap Call.triple?) =
      headerLines names ++ (emissions.filterMap Call.triple?).map (lineStyle names).line := by
    have sameLength := length_filterMap_triple? emitting
    cases emitted : emissions.filterMap Call.triple? with
    | nil =>
        rw [emitted, List.length_nil] at sameLength
        exact absurd (List.length_eq_zero_iff.mp sameLength.symm) nonempty
    | cons triple rest => rfl
  rw [toList_textAfter distinct emitting, lines, splitOn_endLine]
  intro line member
  rcases List.mem_append.mp member with inHeader | inTriples
  · exact lineFeed_not_mem_headerLines_of_unbroken unbroken line inHeader
  · rcases List.mem_map.mp inTriples with ⟨triple, present, rfl⟩
    exact stated triple present

theorem compactIri_prefix_line (namespaces : Namespaces) (triple : Triple) :
    (compactIri namespaces triple.subject).toList <+: (lineStyle namespaces).line triple := by
  simp only [LineStyle.line, lineStyle, List.append_assoc]
  exact List.prefix_append _ _

/-- A start of some text without its marks is a start of what stands in front of a mark. -/
theorem prefix_of_prefix_mark {start front text : List Char} {mark : Char} (unmarked : mark ∉ start)
    (starts : start <+: text) (marked : front ++ [mark] <+: text) : start <+: front := by
  rcases List.prefix_or_prefix_of_prefix starts marked with within | beyond
  · rcases List.prefix_concat_iff.mp within with rfl | inFront
    · exact absurd (by simp) unmarked
    · exact inFront
  · exact absurd (beyond.subset (by simp)) unmarked

/-- A line that states a triple starts like a name only if the name does that its subject is
shortened by. -/
theorem exists_name_of_prefix_line {start : List Char} (nonempty : start ≠ [])
    (noBracket : '<' ∉ start) (noColon : ':' ∉ start) {triple : Triple}
    (starts : start <+: (lineStyle namespaces).line triple) :
    ∃ entry ∈ namespaces, start <+: entry.1.toList := by
  have subject := compactIri_prefix_line namespaces triple
  rcases compactIri_cases namespaces triple.subject with
    inFull | ⟨name, namespaceIri, localName, member, _, _, written⟩
  · have bracket : [] ++ ['<'] <+: (compactIri namespaces triple.subject).toList :=
      ⟨triple.subject.toList ++ ['>'], by rw [inFull]; simp⟩
    have nothing := prefix_of_prefix_mark noBracket starts (bracket.trans subject)
    exact absurd (List.prefix_nil.mp nothing) nonempty
  · have named : name.toList ++ [':'] <+: (compactIri namespaces triple.subject).toList :=
      ⟨localName, by rw [written]; simp⟩
    exact ⟨_, member, prefix_of_prefix_mark noColon starts (named.trans subject)⟩

/-- Naming some namespaces in another order leaves the text of the emissions after them as it is.
It starts with the declarations by ascending name and, if there are any, a blank line; and no other
line looks like a declaration unless a name does. -/
theorem naming_order_is_invisible {names others : List (String × String)}
    (distinctNames : (names.map Prod.fst).Nodup)
    (distinctNamespaces : (names.map Prod.snd).Nodup) (reordered : names.Perm others)
    (unbroken : ∀ entry ∈ names, '\n' ∉ entry.1.toList ∧ '\n' ∉ entry.2.toList)
    {emissions : List Call} (emitting : ∀ call ∈ emissions, call.triple?.isSome)
    (unbrokenIris : ∀ call ∈ emissions, ∀ iri ∈ call.iris, '\n' ∉ iri.toList) :
    textAfter names emissions = textAfter others emissions ∧
    (emissions ≠ [] → ∃ (declared : Namespaces) (statements : List (List Char)),
      (textAfter names emissions).toList.splitOn '\n' =
        declared.map declarationLine ++ (if names = [] then [] else [[]]) ++ statements ++ [[]] ∧
      declared.Perm names ∧ (declared.map Prod.fst).Pairwise (· < ·) ∧
      statements.length = emissions.length ∧
      ∀ line ∈ statements, line ≠ [] ∧
        ("@prefix".toList <+: line → ∃ entry ∈ names, "@prefix".toList <+: entry.1.toList)) := by
  have text : ∀ table : Namespaces, (table.map Prod.fst).Nodup →
      (textAfter table emissions).toList =
        (documentLines table (emissions.filterMap Call.triple?)).flatMap endLine :=
    fun table distinct => toList_textAfter distinct emitting
  refine ⟨?_, fun nonempty => ?_⟩
  · have otherNames := (reordered.map Prod.fst).nodup_iff.mp distinctNames
    rw [← String.toList_inj, text names distinctNames, text others otherNames,
      documentLines_perm distinctNames distinctNamespaces reordered]
  · refine ⟨sortedNamespaces names, (emissions.filterMap Call.triple?).map (lineStyle names).line,
      ?_, List.mergeSort_perm _ _, ascending_sortedNamespaces distinctNames, ?_, ?_⟩
    · rw [lines_textAfter distinctNames unbroken emitting unbrokenIris nonempty, headerLines]
      simp only [List.isEmpty_iff]
    · rw [List.length_map, length_filterMap_triple? emitting]
    · intro line member
      rcases List.mem_map.mp member with ⟨triple, _, rfl⟩
      exact ⟨by simp [LineStyle.line],
        exists_name_of_prefix_line (by decide) (by decide) (by decide)⟩

/-- A namespace inside of another, and a literal that holds a declaration. -/
def nestedNames : List (String × String) :=
  [("b", "http://e/x/"), ("a", "http://e/")]

def declaringEmissions : List Call :=
  [.literal "http://e/x/y" "http://e/p" "\n@prefix z: <http://z/> .\n"]

theorem nestedNames_in_either_order :
    nestedNames.Perm nestedNames.reverse ∧
      textAfter nestedNames declaringEmissions = textAfter nestedNames.reverse declaringEmissions ∧
      ∃ (declared : Namespaces) (statements : List (List Char)),
        (textAfter nestedNames declaringEmissions).toList.splitOn '\n' =
          declared.map declarationLine ++ [[]] ++ statements ++ [[]] ∧
        declared.Perm nestedNames ∧ (declared.map Prod.fst).Pairwise (· < ·) ∧
        statements.length = 1 := by
  have reordered : nestedNames.Perm nestedNames.reverse := (List.reverse_perm _).symm
  have unseen := @naming_order_is_invisible nestedNames nestedNames.reverse (by decide) (by decide)
    reordered (by decide +kernel) declaringEmissions (by decide) (by decide +kernel)
  rcases unseen.2 (by decide) with ⟨declared, statements, lines, listed, ascending, length, _⟩
  exact ⟨reordered, unseen.1, declared, statements, lines, listed, ascending, length⟩

/-- The declarations of the names by ascending name, one blank line, and no line after it that looks
like a declaration. -/
def StartsWithDeclarations (names : List (String × String)) (text : String) : Prop :=
  ∃ (declared : Namespaces) (rest : List (List Char)),
    text.toList.splitOn '\n' = declared.map declarationLine ++ [[]] ++ rest ∧
      declared.Perm names ∧ (declared.map Prod.fst).Pairwise (· < ·) ∧
      ∀ line ∈ rest, ¬"@prefix".toList <+: line

def singleEmission : List Call :=
  [.iri "http://e/a" "http://p" "http://o"]

/-- Without names there is no blank line, and `@prefix e:a <http://p> <http://o> .` is a line that
states a triple. -/
theorem some_text_starts_otherwise :
    (∀ call ∈ singleEmission, ∀ iri ∈ call.iris, '\n' ∉ iri.toList) ∧
      ¬StartsWithDeclarations [] (textAfter [] singleEmission) ∧
      '\n' ∉ "@prefix e".toList ∧ '\n' ∉ "http://e/".toList ∧
      ¬StartsWithDeclarations [("@prefix e", "http://e/")]
        (textAfter [("@prefix e", "http://e/")] singleEmission) := by
  refine ⟨by decide +kernel, ?_, by decide, by decide, ?_⟩
  · rintro ⟨declared, rest, lines, listed, _, _⟩
    obtain rfl : declared = [] := List.perm_nil.mp listed
    have stated : (textAfter [] singleEmission).toList.splitOn '\n' =
        ["<http://e/a> <http://p> <http://o> .".toList, []] := by
      decide +kernel
    rw [stated] at lines
    simp at lines
  · rintro ⟨declared, rest, lines, listed, _, undeclaring⟩
    obtain rfl : declared = [("@prefix e", "http://e/")] := List.perm_singleton.mp listed
    have stated : (textAfter [("@prefix e", "http://e/")] singleEmission).toList.splitOn '\n' =
        ["@prefix @prefix e: <http://e/> .".toList, [],
          "@prefix e:a <http://p> <http://o> .".toList, []] := by
      decide +kernel
    rw [stated] at lines
    obtain rfl : rest = ["@prefix e:a <http://p> <http://o> .".toList, []] :=
      (List.cons.inj (List.cons.inj lines).2).2.symm
    exact undeclaring _ List.mem_cons_self (by decide)

end CrateGraph.Rdf.Turtle
