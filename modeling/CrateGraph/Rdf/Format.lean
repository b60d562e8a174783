import CrateGraph.Rdf.NTriples
import CrateGraph.Rdf.Turtle
import CrateGraph.Text.Blank
import CrateGraph.Text.LowerCase

/-!
The text formats by name, and the text that a format gives to statements one after the other.
-/

namespace CrateGraph.Rdf

inductive Format where
  | ntriples
  | turtle
deriving DecidableEq

namespace Format

def names : List (String × Format) :=
  [("ntriples", .ntriples), ("nt", .ntriples), ("turtle", .turtle), ("ttl", .turtle)]

def name : Format → String
  | .ntriples => "ntriples"
  | .turtle => "turtle"

def ofName? (name : String) : Option Format :=
  Entries.get? (Text.lowerCase (Text.strip name)) names

def unknownMessage (name : String) : String :=
  "Unknown format: " ++ name ++ ". Use 'ntriples' or 'turtle'."

end Format

/-- A text in the making. Turtle has to remember the namespaces, N-Triples nothing. -/
inductive Draft where
  | ntriples
  | turtle (document : Turtle.Document)

structure Writer where
  draft : Draft
  count : Nat

namespace Writer

def ofFormat : Format → Writer
  | .ntriples => ⟨.ntriples, 0⟩
  | .turtle => ⟨.turtle Turtle.Document.empty, 0⟩

def add (writer : Writer) (statement : Statement) : Writer × String :=
  let count := writer.count + (if statement.triple?.isSome then 1 else 0)
  match writer.draft with
  | .ntriples => (⟨.ntriples, count⟩, NTriples.writeStatement statement)
  | .turtle document =>
      let (document, text) := document.add statement
      (⟨.turtle document, count⟩, text)

def addAll (writer : Writer) : List Statement → Writer × List String
  | [] => (writer, [])
  | statement :: rest =>
      let (writer, text) := writer.add statement
      let (writer, texts) := writer.addAll rest
      (writer, text :: texts)

end Writer

/-- The text ahead of the first triple, for namespaces that were all named by then. -/
def Format.preamble (format : Format) (namespaces : Entries String String) : String :=
  match format with
  | .ntriples =>
      String.join (namespaces.map fun (name, iri) =>
        NTriples.writeStatement (.namespaceName name iri))
  | .turtle => Turtle.writeHeader namespaces

def Format.write (format : Format) (statements : List Statement) : String :=
  String.join ((Writer.ofFormat format).addAll statements).2

end CrateGraph.Rdf
