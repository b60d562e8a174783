import CrateGraph.Crate.Fields

/-!
Reading of type references.

Every reader accepts every value: a shape that it does not know becomes the `unknown` case of its
union, and a record without the expected fields gets their defaults. A reader only descends into
parts of its value, which is why the readers end.
-/

namespace CrateGraph

def FunctionHeader.ofJson (value : Json String) : FunctionHeader where
  isConst := value.flag ["is_const", "const"]
  isUnsafe := value.flag ["is_unsafe", "unsafe"]
  isAsync := value.flag ["is_async", "async"]
  abi := value.field "abi"

def FunctionInput.parts? : Json String → Option (Json String × Json String)
  | .arr [name, type] => some (name, type)
  | _ => none

@[grind →] theorem FunctionInput.sizeOf_lt_of_parts? {value name type : Json String}
    (parts : FunctionInput.parts? value = some (name, type)) : sizeOf type < sizeOf value := by
  unfold FunctionInput.parts? at parts
  split at parts
  · cases parts
    simp only [Json.arr.sizeOf_spec, List.cons.sizeOf_spec]
    omega
  · cases parts

/-- The type that an associated item is set equal to. The term is the type itself, or the type under
the tag `type`; a term under the tag `constant` is not a type. -/
inductive EqualityTerm where
  | type (value : Json String)
  | constant

def EqualityTerm.ofJson (term : Json String) : EqualityTerm :=
  match term.tagged? with
  | some ("type", inner) => .type inner
  | some ("constant", _) => .constant
  | _ => .type term

@[grind →] theorem EqualityTerm.sizeOf_le_of_ofJson {term inner : Json String}
    (equal : EqualityTerm.ofJson term = .type inner) : sizeOf inner ≤ sizeOf term := by
  unfold EqualityTerm.ofJson at equal
  split at equal
  · next tagged =>
      cases equal
      exact Nat.le_of_lt (Json.sizeOf_lt_of_tagged? tagged)
  · cases equal
  · cases equal
    exact Nat.le_refl _

mutual

def RustType.ofJson (value : Json String) : RustType :=
  match _tagged : value.tagged? with
  | some ("resolved_path", payload) => .path (PathReference.ofJson payload)
  | some ("primitive", payload) => .primitive (payload.text?.getD "")
  | some ("tuple", payload) =>
      .tuple (payload.items.attach.map fun ⟨element, _⟩ => RustType.ofJson element)
  | some ("slice", payload) => .slice (RustType.ofJson payload)
  | some ("array", payload) =>
      .array (RustType.ofJson (payload.field "type"))
        (((Entries.get? "len" payload.record).map Json.plainText).getD "")
  | some ("raw_pointer", payload) =>
      .rawPointer (RustType.ofJson (payload.field "type"))
        (payload.flag ["is_mutable", "mutable"])
  | some ("borrowed_ref", payload) =>
      .borrowed (RustType.ofJson (payload.field "type"))
        (payload.flag ["is_mutable", "mutable"]) (payload.string? ["lifetime"])
  | some ("function_pointer", payload) =>
      .functionPointer (FunctionSignature.ofJson (payload.either "sig" "decl"))
        ((payload.list "generic_params").attach.map fun ⟨parameter, _⟩ =>
          GenericParameter.ofJson parameter)
        (FunctionHeader.ofJson (payload.field "header"))
  | some ("qualified_path", payload) =>
      .qualified (payload.string ["name"]) (RustType.ofJson (payload.field "self_type"))
        (match _given : payload.given? "trait" with
          | none => none
          | some inner => some (PathReference.ofJson inner))
        (match _given : payload.given? "args" with
          | none => none
          | some inner => some (GenericArguments.ofJson inner))
  | some ("impl_trait", payload) =>
      .implTrait (payload.items.attach.map fun ⟨bound, _⟩ => GenericBound.ofJson bound)
  | some ("dyn_trait", payload) =>
      .dynTrait ((payload.list "traits").attach.map fun ⟨trait, _⟩ => PolyTrait.ofJson trait)
        (payload.string? ["lifetime"])
  | some ("infer", _) => .infer
  | some ("generic", payload) => .generic (payload.text?.getD "")
  | some (tag, _) => .unknown (some tag)
  | none => .unknown none
termination_by 3 * sizeOf value
decreasing_by all_goals grind

def PathReference.ofJson (value : Json String) : PathReference :=
  { path := value.string ["path", "name"]
    id := (value.field "id").id?
    arguments :=
      match _given : value.given? "args" with
      | none => none
      | some inner => some (GenericArguments.ofJson inner) }
termination_by 3 * sizeOf value
decreasing_by all_goals grind

def GenericArguments.ofJson (value : Json String) : GenericArguments :=
  match _tagged : value.tagged? with
  | some ("angle_bracketed", payload) =>
      .angleBracketed
        ((payload.list "args").attach.map fun ⟨argument, _⟩ => GenericArgument.ofJson argument)
        (if (payload.list "constraints").isEmpty then
          (payload.list "bindings").attach.map fun ⟨constraint, _⟩ =>
            AssociatedConstraint.ofJson constraint
        else
          (payload.list "constraints").attach.map fun ⟨constraint, _⟩ =>
            AssociatedConstraint.ofJson constraint)
  | some ("parenthesized", payload) =>
      .parenthesized ((payload.list "inputs").attach.map fun ⟨input, _⟩ => RustType.ofJson input)
        (match _given : payload.given? "output" with
          | none => none
          | some inner => some (RustType.ofJson inner))
  | some (tag, _) => .unknown (some tag)
  | none => .unknown none
termination_by 3 * sizeOf value
decreasing_by all_goals grind

def GenericArgument.ofJson (value : Json String) : GenericArgument :=
  match _tagged : value.tagged? with
  | some ("lifetime", payload) => .lifetime (payload.text?.getD "")
  | some ("type", payload) => .type (RustType.ofJson payload)
  | some ("const", payload) =>
      .const (payload.string? ["value"]) (payload.string? ["expr"]) (payload.flag ["is_literal"])
  | some ("infer", _) => .infer
  | some (tag, _) => .unknown (some tag)
  | none => .unknown none
termination_by 3 * sizeOf value
decreasing_by all_goals grind

def AssociatedConstraint.ofJson (value : Json String) : AssociatedConstraint :=
  { name := value.string ["name"]
    arguments :=
      match _given : value.given? "args" with
      | none => none
      | some inner => some (GenericArguments.ofJson inner)
    equality :=
      match _tagged : (value.field "binding").tagged? with
      | some ("equality", term) =>
          match _equal : EqualityTerm.ofJson term with
          | .type inner => some (RustType.ofJson inner)
          | .constant => none
      | _ => none
    bounds :=
      match _tagged : (value.field "binding").tagged? with
      | some ("constraint", terms) =>
          terms.items.attach.map fun ⟨bound, _⟩ => GenericBound.ofJson bound
      | _ => [] }
termination_by 3 * sizeOf value
decreasing_by all_goals grind

def GenericBound.ofJson (value : Json String) : GenericBound :=
  match _tagged : value.tagged? with
  | some ("trait_bound", payload) =>
      .trait (PathReference.ofJson (payload.field "trait"))
        ((payload.field "modifier").text?.getD "none")
        ((payload.list "generic_params").attach.map fun ⟨parameter, _⟩ =>
          GenericParameter.ofJson parameter)
  | some ("outlives", payload) => .outlives (payload.text?.getD "")
  | some ("use", payload) => .capture payload.items
  | some (tag, _) => .unknown (some tag)
  | none => .unknown none
termination_by 3 * sizeOf value
decreasing_by all_goals grind

def GenericParameterKind.ofJson (value : Json String) : GenericParameterKind :=
  match _tagged : value.tagged? with
  | some ("lifetime", payload) => .lifetime (payload.strings "outlives")
  | some ("type", payload) =>
      .type ((payload.list "bounds").attach.map fun ⟨bound, _⟩ => GenericBound.ofJson bound)
        (match _given : payload.given? "default" with
          | none => none
          | some inner => some (RustType.ofJson inner))
        (payload.flag ["is_synthetic", "synthetic"])
  | some ("const", payload) =>
      .const (RustType.ofJson (payload.field "type")) (payload.string? ["default"])
  | some (tag, _) => .unknown (some tag)
  | none => .unknown none
termination_by 3 * sizeOf value
decreasing_by all_goals grind

def GenericParameter.ofJson (value : Json String) : GenericParameter :=
  { name := value.string ["name"]
    kind := GenericParameterKind.ofJson (value.field "kind") }
termination_by 3 * sizeOf value + 1
decreasing_by all_goals grind

def PolyTrait.ofJson (value : Json String) : PolyTrait :=
  { trait := PathReference.ofJson (value.field "trait")
    parameters :=
      (value.list "generic_params").attach.map fun ⟨parameter, _⟩ =>
        GenericParameter.ofJson parameter }
termination_by 3 * sizeOf value + 1
decreasing_by all_goals grind

def FunctionSignature.ofJson (value : Json String) : FunctionSignature :=
  { inputs := (value.list "inputs").attach.filterMap fun ⟨input, _⟩ =>
      match _parts : FunctionInput.parts? input with
      | none => none
      | some (name, inner) => some ⟨name.text?.getD "", RustType.ofJson inner⟩
    output :=
      match _given : value.given? "output" with
      | none => none
      | some inner => some (RustType.ofJson inner)
    isVariadic := value.flag ["is_c_variadic", "c_variadic"] }
termination_by 3 * sizeOf value + 1
decreasing_by all_goals grind

end

def WherePredicate.ofJson (value : Json String) : WherePredicate :=
  match value.tagged? with
  | some ("bound_predicate", payload) =>
      .bound (RustType.ofJson (payload.field "type"))
        ((payload.list "bounds").map GenericBound.ofJson)
        ((payload.list "generic_params").map GenericParameter.ofJson)
  | some ("lifetime_predicate", payload) =>
      .lifetime (payload.string ["lifetime"]) (payload.strings "outlives")
  | some ("eq_predicate", payload) =>
      .equality (RustType.ofJson (payload.field "lhs")) (RustType.ofJson (payload.field "rhs"))
  | some (tag, _) => .unknown (some tag)
  | none => .unknown none

def Generics.ofJson (value : Json String) : Generics where
  parameters := (value.list "params").map GenericParameter.ofJson
  wherePredicates := (value.list "where_predicates").map WherePredicate.ofJson

end CrateGraph
