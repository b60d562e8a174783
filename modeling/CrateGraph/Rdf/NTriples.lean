import CrateGraph.Rdf.Triple
import CrateGraph.Text.Hexadecimal

/-!
N-Triples text: one line for each triple. The format has no names for namespaces, so these are
written as comments.
-/

namespace CrateGraph.Rdf.NTriples

def escapeCharacter (character : Char) : List Char :=
  match literalEscape? character with
  | some escaped => escaped
  | none =>
      if character.toNat < 0x20 then '\\' :: 'u' :: Text.hexDigits .upper 4 character.toNat
      else [character]

def escapeLiteral (text : String) : String :=
  String.ofList (text.toList.flatMap escapeCharacter)

def writeIri (iri : String) : String :=
  "<" ++ iri ++ ">"

def writeTerm : Term → String
  | .iri value => writeIri value
  | .literal value => "\"" ++ escapeLiteral value ++ "\""
  | .typed value datatype => "\"" ++ escapeLiteral value ++ "\"^^" ++ writeIri datatype

def writeTriple (triple : Triple) : String :=
  writeIri triple.subject ++ " " ++ writeIri triple.predicate ++ " " ++ writeTerm triple.object ++
    " .\n"

def writeStatement : Statement → String
  | .namespaceName name iri => "# @prefix " ++ name ++ ": " ++ writeIri iri ++ " .\n"
  | .triple triple => writeTriple triple

end CrateGraph.Rdf.NTriples
