import CrateGraph.Json.Basic

/-!
Type references as the documentation of a Rust crate writes them, with the generic arguments,
bounds and parameters that occur inside them.

Every union has an `unknown` case that keeps the tag it was written with, so that a construct of a
newer or older toolchain has a place here. Parts that are only passed on are kept as JSON.
-/

namespace CrateGraph

/-- Items are addressed by texts; whole numbers stand for their decimal form. -/
abbrev ItemId := String

structure FunctionHeader where
  isConst : Bool
  isUnsafe : Bool
  isAsync : Bool
  abi : Json String

mutual

inductive RustType where
  | path (reference : PathReference)
  | primitive (name : String)
  | tuple (elements : List RustType)
  | slice (element : RustType)
  | array (element : RustType) (length : String)
  | rawPointer (target : RustType) (isMutable : Bool)
  | borrowed (target : RustType) (isMutable : Bool) (lifetime : Option String)
  | functionPointer (signature : FunctionSignature) (parameters : List GenericParameter)
      (header : FunctionHeader)
  | qualified (name : String) (selfType : RustType) (trait : Option PathReference)
      (arguments : Option GenericArguments)
  | implTrait (bounds : List GenericBound)
  | dynTrait (traits : List PolyTrait) (lifetime : Option String)
  | infer
  | generic (name : String)
  | unknown (tag : Option String)

structure PathReference where
  path : String
  id : Option ItemId
  arguments : Option GenericArguments

inductive GenericArguments where
  | angleBracketed (arguments : List GenericArgument) (constraints : List AssociatedConstraint)
  | parenthesized (inputs : List RustType) (output : Option RustType)
  | unknown (tag : Option String)

inductive GenericArgument where
  | lifetime (name : String)
  | type (type : RustType)
  | const (value expression : Option String) (isLiteral : Bool)
  | infer
  | unknown (tag : Option String)

structure AssociatedConstraint where
  name : String
  arguments : Option GenericArguments
  equality : Option RustType
  bounds : List GenericBound

inductive GenericBound where
  | trait (trait : PathReference) (modifier : String) (parameters : List GenericParameter)
  | outlives (lifetime : String)
  | capture (parameters : List (Json String))
  | unknown (tag : Option String)

inductive GenericParameterKind where
  | lifetime (outlives : List String)
  | type (bounds : List GenericBound) (default : Option RustType) (isSynthetic : Bool)
  | const (type : RustType) (default : Option String)
  | unknown (tag : Option String)

structure GenericParameter where
  name : String
  kind : GenericParameterKind

structure PolyTrait where
  trait : PathReference
  parameters : List GenericParameter

structure FunctionInput where
  name : String
  type : RustType

/-- The inputs include a receiver; a missing output stands for the unit type. -/
structure FunctionSignature where
  inputs : List FunctionInput
  output : Option RustType
  isVariadic : Bool

end

inductive WherePredicate where
  | bound (type : RustType) (bounds : List GenericBound) (parameters : List GenericParameter)
  | lifetime (lifetime : String) (outlives : List String)
  | equality (left right : RustType)
  | unknown (tag : Option String)

structure Generics where
  parameters : List GenericParameter
  wherePredicates : List WherePredicate

def GenericParameterKind.isType : GenericParameterKind → Bool
  | .type .. => true
  | _ => false

def Generics.hasTypeParameters (generics : Generics) : Bool :=
  generics.parameters.any (·.kind.isType)

/-! The name of a type inside the address of a type built from it. Types without a name of their
own that such an address can carry are all called unknown. -/

mutual

def RustType.displayName : RustType → String
  | .primitive name => name
  | .path reference => reference.path
  | .generic name => name
  | .tuple elements => "(" ++ String.intercalate "," (RustType.displayNames elements) ++ ")"
  | .slice element => "[" ++ element.displayName ++ "]"
  | .array element length => "[" ++ element.displayName ++ ";" ++ length ++ "]"
  | .borrowed target isMutable _ =>
      (if isMutable then "&mut " else "&") ++ target.displayName
  | .rawPointer target isMutable =>
      (if isMutable then "*mut " else "*const ") ++ target.displayName
  | .functionPointer .. => "unknown"
  | .qualified .. => "unknown"
  | .implTrait _ => "unknown"
  | .dynTrait .. => "unknown"
  | .infer => "unknown"
  | .unknown _ => "unknown"

def RustType.displayNames : List RustType → List String
  | [] => []
  | element :: rest => element.displayName :: RustType.displayNames rest

end

end CrateGraph
