import CrateGraph.Proofs.DistinctValues
import CrateGraph.Proofs.Rdf.DigestTables
import CrateGraph.Rdf.Graph
import Mathlib.Data.List.Lex
import Mathlib.Data.List.Sort
import Mathlib.Data.String.Basic

/-!
What a graph holds of the statements that were handed over.

A triple that comes again in another form of the same value is held once, but every time it is
counted. Main statements: the graph holds the canonical triples, each where it first came, and the
count says how many triples came in all; the rows do not depend on the order in which statements
came; and lines are refused only for an address of a triple in the graph that no line can hold.
-/

namespace CrateGraph.Rdf

/-- What a graph holds of a statement: nothing of a name. -/
def Statement.canonical? : Statement → Option Triple
  | .namespaceName _ _ => none
  | .triple written => written.canonical.toOption

/-- A graph takes names without spaces, and triples that have a canonical form. -/
def Statement.IsTaken : Statement → Prop
  | .namespaceName name _ => ' ' ∉ name.toList
  | .triple written => ∃ canonical, written.canonical = .ok canonical

theorem Statement.length_canonical? {statement : Statement} (taken : statement.IsTaken) :
    statement.canonical?.toList.length = statement.triple?.toList.length := by
  cases statement with
  | namespaceName name iri => rfl
  | triple triple =>
      rcases taken with ⟨canonical, form⟩
      simp [canonical?, triple?, form, Except.toOption]

variable {graph : Graph} {collector : Collector} {statements : List Statement}

/-! ### One statement -/

theorem Graph.triples_insertCanonical {earlier : List Triple} (triple : Triple)
    (held : graph.triples = earlier.eraseDups) :
    (graph.insertCanonical triple).triples = (earlier ++ [triple]).eraseDups := by
  rw [insertCanonical, eraseDups_concat]
  simp only [held, List.mem_eraseDups]
  split
  · exact held
  · rfl

namespace Collector

theorem add_of_isTaken {statement : Statement} {earlier : List Triple} (taken : statement.IsTaken)
    (held : collector.graph.triples = earlier.eraseDups) :
    ∃ next, collector.add statement = .ok next ∧
      next.graph.triples = (earlier ++ statement.canonical?.toList).eraseDups ∧
      next.count = collector.count + statement.triple?.toList.length := by
  cases statement with
  | namespaceName name iri =>
      refine ⟨collector, ?_, ?_, rfl⟩
      · simp_all [add, Graph.add, Statement.IsTaken, Statement.triple?, Except.map]
      · simpa [Statement.canonical?] using held
  | triple triple =>
      rcases taken with ⟨canonical, form⟩
      refine ⟨⟨collector.graph.insertCanonical canonical, collector.count + 1⟩, ?_, ?_, rfl⟩
      · simp [add, Graph.add, Graph.insert, form, Except.map, Statement.triple?]
      · simpa [Statement.canonical?, form, Except.toOption] using
          Graph.triples_insertCanonical canonical held

theorem add_of_not_isTaken {statement : Statement} (refused : ¬statement.IsTaken) :
    ∃ fault, collector.add statement = .error fault := by
  cases statement with
  | namespaceName name iri =>
      rw [Statement.IsTaken, not_not] at refused
      exact ⟨.spaceInName, by simp [add, Graph.add, refused, Except.map]⟩
  | triple triple =>
      cases form : triple.canonical with
      | error fault =>
          exact ⟨.duration fault, by simp [add, Graph.add, Graph.insert, form, Except.map]⟩
      | ok canonical => exact absurd ⟨canonical, form⟩ refused

/-! ### All statements -/

theorem addAll_append {next : Collector} (all : collector.addAll statements = (next, none))
    (rest : List Statement) : collector.addAll (statements ++ rest) = next.addAll rest := by
  induction statements generalizing collector with
  | nil =>
      cases all
      rfl
  | cons statement statements ih =>
      rw [addAll] at all
      rw [List.cons_append, addAll]
      cases added : collector.add statement with
      | error fault => simp [added] at all
      | ok following =>
          rw [added] at all
          exact ih all

theorem addAll_of_isTaken {earlier : List Triple}
    (taken : ∀ statement ∈ statements, statement.IsTaken)
    (held : collector.graph.triples = earlier.eraseDups) :
    ∃ last, collector.addAll statements = (last, none) ∧
      last.graph.triples = (earlier ++ statements.filterMap Statement.canonical?).eraseDups ∧
      last.count = collector.count + (statements.filterMap Statement.triple?).length := by
  induction statements generalizing collector earlier with
  | nil => exact ⟨collector, rfl, by simpa using held, rfl⟩
  | cons statement statements ih =>
      rw [List.forall_mem_cons] at taken
      rcases add_of_isTaken taken.1 held with ⟨next, added, nextHeld, counted⟩
      rcases ih taken.2 nextHeld with ⟨last, further, lastHeld, lastCounted⟩
      refine ⟨last, ?_, ?_, ?_⟩
      · rw [addAll, added]
        exact further
      · rw [lastHeld, List.append_assoc, List.filterMap_cons]
        cases statement.canonical? <;> rfl
      · rw [lastCounted, counted, List.filterMap_cons]
        cases statement.triple? <;> simp only [Option.toList, List.length_cons, List.length_nil]
          <;> omega

/-- If nothing is refused, the graph holds each canonical triple once, in the order in which they
first came. The count does not look for repetitions. -/
theorem addAll_empty (taken : ∀ statement ∈ statements, statement.IsTaken) :
    ∃ last, (ofGraph .empty).addAll statements = (last, none) ∧
      last.graph.triples = (statements.filterMap Statement.canonical?).eraseDups ∧
      last.count = (statements.filterMap Statement.triple?).length := by
  have start : (ofGraph .empty).graph.triples = [].eraseDups := rfl
  rcases addAll_of_isTaken taken start with ⟨last, all, held, counted⟩
  refine ⟨last, all, held, ?_⟩
  rw [counted, ofGraph, Nat.zero_add]

/-- What came before a refused statement stays, and nothing after it is looked at. -/
theorem addAll_of_refused {refused : Statement} (rest : List Statement)
    (taken : ∀ statement ∈ statements, statement.IsTaken) (refusal : ¬refused.IsTaken) :
    ∃ last fault, (ofGraph .empty).addAll statements = (last, none) ∧
      (ofGraph .empty).addAll (statements ++ refused :: rest) = (last, some fault) := by
  rcases addAll_empty taken with ⟨last, all, _, _⟩
  have stops : ∃ fault, last.add refused = .error fault := add_of_not_isTaken refusal
  rcases stops with ⟨fault, stopped⟩
  refine ⟨last, fault, all, ?_⟩
  rw [addAll_append all, addAll, stopped]

theorem size_add_count_le {next : Collector} {statement : Statement}
    (added : collector.add statement = .ok next) :
    next.graph.size + collector.count ≤ collector.graph.size + next.count := by
  by_cases taken : statement.IsTaken
  · have distinct := (eraseDups_eq_self collector.graph.nodup).symm
    rcases add_of_isTaken taken distinct with ⟨same, equal, held, counted⟩
    cases added.symm.trans equal
    have bound := length_eraseDups_le
      (collector.graph.triples ++ statement.canonical?.toList)
    rw [← held, List.length_append, Statement.length_canonical? taken] at bound
    simp only [Graph.size, counted]
    omega
  · rcases add_of_not_isTaken taken with ⟨fault, refused⟩
    rw [refused] at added
    cases added

/-- Whatever is refused, the graph has no more triples than the count says. -/
theorem size_addAll_le (statements : List Statement) :
    ((ofGraph .empty).addAll statements).1.graph.size ≤
      ((ofGraph .empty).addAll statements).1.count := by
  suffices general : ∀ collector : Collector, collector.graph.size ≤ collector.count →
      (collector.addAll statements).1.graph.size ≤ (collector.addAll statements).1.count from
    general _ (Nat.le_refl 0)
  induction statements with
  | nil => exact fun _ => id
  | cons statement rest ih =>
      intro collector bounded
      rw [addAll]
      split
      · exact bounded
      · next added =>
          have step := size_add_count_le added
          exact ih _ (by omega)

/-- Statements that came already leave the triples as they are, and are counted again. -/
theorem addAll_repeated {repeated : List Statement}
    (taken : ∀ statement ∈ statements, statement.IsTaken) (known : repeated ⊆ statements) :
    ∃ first last, (ofGraph .empty).addAll statements = (first, none) ∧
      first.addAll repeated = (last, none) ∧ last.graph.triples = first.graph.triples ∧
      last.count = first.count + (repeated.filterMap Statement.triple?).length := by
  rcases addAll_empty taken with ⟨first, all, held, _⟩
  rcases addAll_of_isTaken (fun statement member => taken statement (known member)) held with
    ⟨last, again, lastHeld, counted⟩
  refine ⟨first, last, all, again, ?_, counted⟩
  have nothing : (repeated.filterMap Statement.canonical?).removeAll
      (statements.filterMap Statement.canonical?) = [] := by
    simp only [List.removeAll, List.filter_eq_nil_iff, List.elem_eq_mem, Bool.not_eq_true,
      Bool.not_eq_false', decide_eq_true_eq]
    exact List.filterMap_subset _ known
  rw [lastHeld, held, List.eraseDups_append, nothing, List.eraseDups_nil, List.append_nil]

end Collector

/-! ### Rows and lines -/

namespace Graph

theorem perm_of_mem_iff {left right : Graph}
    (same : ∀ triple, triple ∈ left.triples ↔ triple ∈ right.triples) :
    left.triples.Perm right.triples :=
  (List.perm_ext_iff_of_nodup left.nodup right.nodup).mpr same

/-- Rows do not tell in which order triples came. -/
theorem rows_eq_of_mem_iff {left right : Graph}
    (same : ∀ triple, triple ∈ left.triples ↔ triple ∈ right.triples) :
    left.rows = right.rows := by
  have ascending : (fun left right : List String => !right.lex left) =
      fun left right => decide (left ≤ right) := by
    funext left right
    rw [Bool.eq_iff_iff, Bool.not_eq_true', ← Bool.not_eq_true, List.lex_eq_true_iff_lt,
      decide_eq_true_eq, not_lt]
  rw [rows, rows, ascending]
  refine List.Perm.eq_of_pairwise (fun _ _ _ _ => le_antisymm) (List.pairwise_mergeSort' _ _)
    (List.pairwise_mergeSort' _ _) ?_
  exact (List.mergeSort_perm _ _).trans
    (((perm_of_mem_iff same).map row).trans (List.mergeSort_perm _ _).symm)

theorem scattered_perm (graph : Graph) : graph.scattered.Perm graph.triples :=
  DigestTable.values_perm Triple.digest graph.triples

/-- Lines are refused only for an address of a triple in the graph, and one that cannot stand on a
line. -/
theorem mem_of_lines_eq_error {fault : GraphFault} (refused : graph.lines = .error fault) :
    ∃ triple ∈ graph.triples, ∃ address ∈ addresses triple,
      isWritable address = false ∧ fault = .unwritable address := by
  rw [lines] at refused
  split at refused
  · next address found =>
      cases refused
      rcases List.mem_flatMap.mp (List.mem_of_find?_eq_some found) with ⟨triple, member, address'⟩
      refine ⟨triple, graph.scattered_perm.mem_iff.mp member, address, address', ?_, rfl⟩
      simpa using List.find?_some found
  · cases refused

theorem lines_eq_ok_iff :
    (∃ lines, graph.lines = .ok lines) ↔
      ∀ triple ∈ graph.triples, ∀ address ∈ addresses triple, isWritable address = true := by
  cases written : graph.lines with
  | error fault =>
      rcases mem_of_lines_eq_error written with ⟨triple, member, address, place, unwritable, _⟩
      simp only [reduceCtorEq, exists_false, false_iff]
      exact fun writable => absurd (writable triple member address place) (by simp [unwritable])
  | ok text =>
      simp only [Except.ok.injEq, exists_eq', true_iff]
      intro triple member address place
      rw [lines] at written
      split at written
      · cases written
      · next none =>
          have scattered := graph.scattered_perm.mem_iff.mpr member
          simpa using List.find?_eq_none.mp none address
            (List.mem_flatMap.mpr ⟨triple, scattered, place⟩)

end Graph

/-- Rows and count are those of the statements in any other order. -/
theorem Collector.rows_eq_of_perm {others : List Statement} (perm : statements.Perm others)
    (taken : ∀ statement ∈ statements, statement.IsTaken) :
    ∃ left right, (ofGraph .empty).addAll statements = (left, none) ∧
      (ofGraph .empty).addAll others = (right, none) ∧ left.graph.rows = right.graph.rows ∧
      left.count = right.count := by
  rcases addAll_empty taken with ⟨left, all, held, counted⟩
  rcases addAll_empty fun statement member => taken statement (perm.mem_iff.mpr member) with
    ⟨right, otherAll, otherHeld, otherCounted⟩
  refine ⟨left, right, all, otherAll, Graph.rows_eq_of_mem_iff fun triple => ?_, ?_⟩
  · rw [held, otherHeld, List.mem_eraseDups, List.mem_eraseDups]
    exact (perm.filterMap _).mem_iff
  · rw [counted, otherCounted]
    exact (perm.filterMap _).length_eq

end CrateGraph.Rdf
