/-!
The vocabulary of the type graph.

Terms shared with the type graphs of other languages stand under `tg`, those special to Rust under
`rt`. Classes and properties are kept apart.
-/

namespace CrateGraph.Ontology

def rdfNamespace : String := "http://www.w3.org/1999/02/22-rdf-syntax-ns#"

def rdfsNamespace : String := "http://www.w3.org/2000/01/rdf-schema#"

def xsdNamespace : String := "http://www.w3.org/2001/XMLSchema#"

def sharedNamespace : String := "http://typegraph.example/ontology/"

def rustNamespace : String := "http://rust.example/ontology/"

def namespaceNames : List (String × String) :=
  [("rdf", rdfNamespace), ("rdfs", rdfsNamespace), ("xsd", xsdNamespace), ("tg", sharedNamespace),
    ("rt", rustNamespace)]

def shared (term : String) : String := sharedNamespace ++ term

def rust (term : String) : String := rustNamespace ++ term

namespace Class

def assembly : String := shared "Assembly"
def container : String := shared "Namespace"
def type : String := shared "Type"
def struct : String := shared "Struct"
def interface : String := shared "Interface"
def enum : String := shared "Enum"
def member : String := shared "Member"
def method : String := shared "Method"
def field : String := shared "Field"
def parameter : String := shared "Parameter"
def typeParameter : String := shared "TypeParameter"
def crate : String := rust "Crate"
def module : String := rust "Module"
def trait : String := rust "Trait"
def union : String := rust "Union"
def typeAlias : String := rust "TypeAlias"
def enumVariant : String := rust "EnumVariant"
def traitImplementation : String := rust "TraitImpl"
def inherentImplementation : String := rust "InherentImpl"
def lifetime : String := rust "Lifetime"
def constParameter : String := rust "ConstParam"
def static : String := rust "Static"
def constant : String := rust "Constant"

end Class

namespace Property

def type : String := rdfNamespace ++ "type"
def name : String := shared "name"
def fullName : String := shared "fullName"
def accessibility : String := shared "accessibility"
def isAbstract : String := shared "isAbstract"
def isGeneric : String := shared "isGeneric"
def definedInAssembly : String := shared "definedInAssembly"
def inNamespace : String := shared "inNamespace"
def implements : String := shared "implements"
def hasMember : String := shared "hasMember"
def hasTypeParameter : String := shared "hasTypeParameter"
def hasAttribute : String := shared "hasAttribute"
def relatedTo : String := shared "relatedTo"
def isAsync : String := shared "isAsync"
def isConst : String := shared "isConst"
def memberOf : String := shared "memberOf"
def returnType : String := shared "returnType"
def fieldType : String := shared "fieldType"
def hasParameter : String := shared "hasParameter"
def ordinal : String := shared "ordinal"
def parameterType : String := shared "parameterType"
def parameterOf : String := shared "parameterOf"
def typeParameterOf : String := shared "typeParameterOf"
def version : String := shared "version"
def language : String := shared "language"
def parentNamespace : String := shared "parentNamespace"
def dependsOn : String := rust "dependsOn"
def superTrait : String := rust "superTrait"
def implementationFor : String := rust "implFor"
def implementedTrait : String := rust "implTrait"
def hasVariant : String := rust "hasVariant"
def variantKind : String := rust "variantKind"
def variantField : String := rust "variantField"
def hasLifetime : String := rust "hasLifetime"
def isUnsafe : String := rust "isUnsafe"
def isMutable : String := rust "isMutable"
def errorType : String := rust "errorType"
def derives : String := rust "derives"
def traitBound : String := rust "traitBound"

end Property

end CrateGraph.Ontology
