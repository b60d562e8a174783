/-!
Terms and triples, and what a sink of triples is told.
-/

namespace CrateGraph.Rdf

inductive Term where
  | iri (value : String)
  | literal (value : String)
  | typed (value datatype : String)
deriving DecidableEq

structure Triple where
  subject : String
  predicate : String
  object : Term
deriving DecidableEq

def xsdBoolean : String := "http://www.w3.org/2001/XMLSchema#boolean"

def xsdInteger : String := "http://www.w3.org/2001/XMLSchema#integer"

def Term.bool (value : Bool) : Term :=
  .typed (if value then "true" else "false") xsdBoolean

def Term.int (value : Int) : Term :=
  .typed (toString value) xsdInteger

/-- What is handed to a sink: a name for a namespace, or a triple. -/
inductive Statement where
  | namespaceName (name iri : String)
  | triple (triple : Triple)
deriving DecidableEq

def Statement.triple? : Statement → Option Triple
  | .namespaceName _ _ => none
  | .triple statement => some statement

def literalEscape? : Char → Option (List Char)
  | '\\' => some ['\\', '\\']
  | '"' => some ['\\', '"']
  | '\n' => some ['\\', 'n']
  | '\r' => some ['\\', 'r']
  | '\t' => some ['\\', 't']
  | _ => none

end CrateGraph.Rdf
