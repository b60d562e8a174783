import CrateGraph.Entries
import CrateGraph.Rdf.Triple
import CrateGraph.Text.Alphanumeric

/-!
Turtle text with one statement on a line.

The namespaces named before the first triple are declared, in the order of their names, ahead of
it. An IRI is then shortened by the longest namespace that it starts with, if what remains is a
plain name; otherwise it is written in full. A name that is given later shortens IRIs too, without
being declared.
-/

namespace CrateGraph.Rdf.Turtle

def escapeCharacter (character : Char) : List Char :=
  (literalEscape? character).getD [character]

def escapeLiteral (text : String) : String :=
  String.ofList (text.toList.flatMap escapeCharacter)

def isLocalName (name : List Char) : Bool :=
  !name.isEmpty && name.all fun character => Text.isAlphanumeric character || character == '_'

abbrev Namespaces := Entries String String

/-- The first of the namespaces that `iri` starts with and none of the others exceeds in length. -/
def longestMatch? (iri : String) : Namespaces → Option (String × String) :=
  List.foldl
    (fun best (name, namespaceIri) =>
      if namespaceIri.toList.isPrefixOf iri.toList then
        match best with
        | none => some (name, namespaceIri)
        | some (_, longest) =>
            if longest.length < namespaceIri.length then some (name, namespaceIri) else best
      else best)
    none

def compactIri (namespaces : Namespaces) (iri : String) : String :=
  match longestMatch? iri namespaces with
  | none => "<" ++ iri ++ ">"
  | some (name, namespaceIri) =>
      let localName := iri.toList.drop namespaceIri.length
      if isLocalName localName then name ++ ":" ++ String.ofList localName
      else "<" ++ iri ++ ">"

def writeTerm (namespaces : Namespaces) : Term → String
  | .iri value => compactIri namespaces value
  | .literal value => "\"" ++ escapeLiteral value ++ "\""
  | .typed value datatype =>
      "\"" ++ escapeLiteral value ++ "\"^^" ++ compactIri namespaces datatype

def writeTriple (namespaces : Namespaces) (triple : Triple) : String :=
  compactIri namespaces triple.subject ++ " " ++ compactIri namespaces triple.predicate ++ " " ++
    writeTerm namespaces triple.object ++ " .\n"

def writeHeader (namespaces : Namespaces) : String :=
  let sorted := namespaces.mergeSort fun left right => decide (left.1 ≤ right.1)
  let declarations := sorted.map fun (name, iri) => "@prefix " ++ name ++ ": <" ++ iri ++ "> .\n"
  String.join declarations ++ (if namespaces.isEmpty then "" else "\n")

structure Document where
  namespaces : Namespaces
  headerWritten : Bool

namespace Document

def empty : Document := ⟨[], false⟩

def add (document : Document) : Statement → Document × String
  | .namespaceName name iri =>
      ({ document with namespaces := Entries.insert name iri document.namespaces }, "")
  | .triple triple =>
      let header := if document.headerWritten then "" else writeHeader document.namespaces
      ({ document with headerWritten := true }, header ++ writeTriple document.namespaces triple)

end Document

example : compactIri [("a", "http://x/"), ("b", "http://x/y/")] "http://x/y/z" = "b:z" := by
  decide +kernel

example : compactIri [("a", "http://x/"), ("b", "http://x/y")] "http://x/y/z" =
    "<http://x/y/z>" := by
  decide +kernel

end CrateGraph.Rdf.Turtle
