import CrateGraph.DigestTable
import CrateGraph.Rdf.Datatype
import CrateGraph.Text.Digest

/-!
Triples held in memory, each once. Literals are held by their canonical texts, so two literals with
the same value and the same datatype are one. Rows and lines come in ascending order. To find the
first fault, the triples are gone through in the order of their places in a table.
-/

namespace CrateGraph.Rdf

/-- The triples in the order in which they first came. -/
structure Graph where
  triples : List Triple
  nodup : triples.Nodup

inductive GraphFault where
  /-- A name for a namespace holds a space. -/
  | spaceInName
  /-- An address holds a character that no line can hold. -/
  | unwritable (iri : String)
  /-- A literal is a duration without a canonical text. -/
  | duration (fault : Calendar.Duration.Fault)
deriving DecidableEq

def GraphFault.message : GraphFault → String
  | .spaceInName => "'Prefixes may not contain spaces.'"
  | .unwritable iri =>
      "\"" ++ iri ++ "\" does not look like a valid URI, I cannot serialize this as N3/Turtle. " ++
        "Perhaps you wanted to urlencode it?"
  | .duration fault => fault.message

/-! ### Digests -/

def Term.digest : Term → UInt64
  | .iri value | .literal value => Text.digest value
  | .typed value datatype => Text.reserveOnes (Text.digest value ^^^ Text.digest datatype)

def Triple.digest (triple : Triple) : UInt64 :=
  Text.digestOfRow
    [Text.digest triple.subject, Text.digest triple.predicate, triple.object.digest]

namespace Graph

def empty : Graph := ⟨[], List.nodup_nil⟩

def size (graph : Graph) : Nat :=
  graph.triples.length

def insertCanonical (graph : Graph) (triple : Triple) : Graph :=
  if present : triple ∈ graph.triples then graph
  else
    { triples := graph.triples ++ [triple]
      nodup := by
        rw [List.nodup_append]
        refine ⟨graph.nodup, by simp, ?_⟩
        intro left leftMember right rightMember equal
        simp only [List.mem_singleton] at rightMember
        exact present (rightMember ▸ equal ▸ leftMember) }

def insert (graph : Graph) (triple : Triple) : Except GraphFault Graph :=
  match triple.canonical with
  | .error fault => .error (.duration fault)
  | .ok triple => .ok (graph.insertCanonical triple)

def add (graph : Graph) : Statement → Except GraphFault Graph
  | .namespaceName name _ =>
      if name.toList.contains ' ' then .error .spaceInName else .ok graph
  | .triple triple => graph.insert triple

def row (triple : Triple) : List String :=
  match triple.object with
  | .iri value => [triple.subject, triple.predicate, "iri", value, ""]
  | .literal value => [triple.subject, triple.predicate, "literal", value, ""]
  | .typed value datatype => [triple.subject, triple.predicate, "literal", value, datatype]

def rows (graph : Graph) : List (List String) :=
  (graph.triples.map row).mergeSort fun left right => !right.lex left

/-! ### Lines -/

def escapeCharacter : Char → List Char
  | '\\' => ['\\', '\\']
  | '"' => ['\\', '"']
  | '\n' => ['\\', 'n']
  | '\r' => ['\\', 'r']
  | character => [character]

def escapeLiteral (text : String) : String :=
  String.ofList (text.toList.flatMap escapeCharacter)

def writeTerm : Term → String
  | .iri value => "<" ++ value ++ ">"
  | .literal value => "\"" ++ escapeLiteral value ++ "\""
  | .typed value datatype =>
      let written := "\"" ++ escapeLiteral value ++ "\""
      if datatype = "" then written else written ++ "^^<" ++ datatype ++ ">"

def writeTriple (triple : Triple) : String :=
  "<" ++ triple.subject ++ "> <" ++ triple.predicate ++ "> " ++ writeTerm triple.object ++ " .\n"

def isWritable (iri : String) : Bool :=
  iri.toList.all fun character => !"<>\" \x7b\x7d|\\^`".toList.contains character

def addresses (triple : Triple) : List String :=
  match triple.object with
  | .iri value => [triple.subject, triple.predicate, value]
  | _ => [triple.subject, triple.predicate]

/-- The triples in the order in which they are gone through: that of a table in which each stands
where its digest asks for. -/
def scattered (graph : Graph) : List Triple :=
  ((DigestTable.ofList Triple.digest graph.triples).compact Triple.digest).toList

/-- The lines of all triples in ascending order. An address with a line end in it makes two lines
of one triple. -/
def lines (graph : Graph) : Except GraphFault (List String) :=
  match (graph.scattered.flatMap addresses).find? (!isWritable ·) with
  | some iri => .error (.unwritable iri)
  | none =>
      let text := String.join (graph.triples.map writeTriple)
      .ok (((text.splitOn "\n").filter (· != "")).mergeSort fun left right => decide (left ≤ right))

end Graph

/-- A graph in the making, together with the number of triples that were handed over. A triple that
the graph holds already counts as well. -/
structure Collector where
  graph : Graph
  count : Nat

namespace Collector

def ofGraph (graph : Graph) : Collector :=
  ⟨graph, 0⟩

def add (collector : Collector) (statement : Statement) : Except GraphFault Collector :=
  (collector.graph.add statement).map fun graph =>
    ⟨graph, collector.count + (if statement.triple?.isSome then 1 else 0)⟩

/-- The collector after some statements. The first that the graph refuses is the last one. -/
def addAll (collector : Collector) : List Statement → Collector × Option GraphFault
  | [] => (collector, none)
  | statement :: rest =>
      match collector.add statement with
      | .error fault => (collector, some fault)
      | .ok next => next.addAll rest

end Collector

end CrateGraph.Rdf
