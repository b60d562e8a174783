import CrateGraph.Crate.ReadTypes

/-!
What each reader of type references makes of a value, in terms of what the readers of its parts make
of them.

The readers carry along why the parts are smaller than the whole. These equations leave that out.
-/

namespace CrateGraph

theorem RustType.ofJson_eq (value : Json String) :
    RustType.ofJson value =
      match value.tagged? with
      | some ("resolved_path", payload) => .path (PathReference.ofJson payload)
      | some ("primitive", payload) => .primitive (payload.text?.getD "")
      | some ("tuple", payload) => .tuple (payload.items.map RustType.ofJson)
      | some ("slice", payload) => .slice (RustType.ofJson payload)
      | some ("array", payload) =>
          .array (RustType.ofJson (payload.field "type"))
            (((Entries.get? "len" payload.record).map Json.plainText).getD "")
      | some ("raw_pointer", payload) =>
          .rawPointer (RustType.ofJson (payload.field "type"))
            (payload.flag ["is_mutable", "mutable"])
      | some ("borrowed_ref", payload) =>
          .borrowed (RustType.ofJson (payload.field "type"))
            (payload.flag ["is_mutable", "mutable"]) (payload.string? ["lifetime"])
      | some ("function_pointer", payload) =>
          .functionPointer (FunctionSignature.ofJson (payload.either "sig" "decl"))
            ((payload.list "generic_params").map GenericParameter.ofJson)
            (FunctionHeader.ofJson (payload.field "header"))
      | some ("qualified_path", payload) =>
          .qualified (payload.string ["name"]) (RustType.ofJson (payload.field "self_type"))
            ((payload.given? "trait").map PathReference.ofJson)
            ((payload.given? "args").map GenericArguments.ofJson)
      | some ("impl_trait", payload) => .implTrait (payload.items.map GenericBound.ofJson)
      | some ("dyn_trait", payload) =>
          .dynTrait ((payload.list "traits").map PolyTrait.ofJson) (payload.string? ["lifetime"])
      | some ("infer", _) => .infer
      | some ("generic", payload) => .generic (payload.text?.getD "")
      | some (tag, _) => .unknown (some tag)
      | none => .unknown none := by
  rw [RustType.ofJson]
  split
  case h_9 payload tagged =>
    simp only [tagged, RustType.qualified.injEq, true_and]
    constructor <;> split <;> simp_all
  all_goals simp_all

theorem PathReference.ofJson_eq (value : Json String) :
    PathReference.ofJson value =
      { path := value.string ["path", "name"]
        id := (value.field "id").id?
        arguments := (value.given? "args").map GenericArguments.ofJson } := by
  rw [PathReference.ofJson]
  congr 1
  split <;> simp_all

theorem GenericArguments.ofJson_eq (value : Json String) :
    GenericArguments.ofJson value =
      match value.tagged? with
      | some ("angle_bracketed", payload) =>
          .angleBracketed ((payload.list "args").map GenericArgument.ofJson)
            ((if (payload.list "constraints").isEmpty then payload.list "bindings"
              else payload.list "constraints").map AssociatedConstraint.ofJson)
      | some ("parenthesized", payload) =>
          .parenthesized ((payload.list "inputs").map RustType.ofJson)
            ((payload.given? "output").map RustType.ofJson)
      | some (tag, _) => .unknown (some tag)
      | none => .unknown none := by
  rw [GenericArguments.ofJson]
  split
  case h_1 payload tagged =>
    simp only [tagged, GenericArguments.angleBracketed.injEq]
    constructor
    · simp
    · split <;> simp
  case h_2 payload tagged =>
    simp only [tagged, GenericArguments.parenthesized.injEq]
    constructor
    · simp
    · split <;> simp_all
  all_goals simp_all

theorem GenericArgument.ofJson_eq (value : Json String) :
    GenericArgument.ofJson value =
      match value.tagged? with
      | some ("lifetime", payload) => .lifetime (payload.text?.getD "")
      | some ("type", payload) => .type (RustType.ofJson payload)
      | some ("const", payload) =>
          .const (payload.string? ["value"]) (payload.string? ["expr"])
            (payload.flag ["is_literal"])
      | some ("infer", _) => .infer
      | some (tag, _) => .unknown (some tag)
      | none => .unknown none := by
  rw [GenericArgument.ofJson]
  split <;> simp_all

/-- The type that a term stands for, if it stands for one. -/
def EqualityTerm.type? : EqualityTerm → Option (Json String)
  | .type value => some value
  | .constant => none

theorem AssociatedConstraint.ofJson_eq (value : Json String) :
    AssociatedConstraint.ofJson value =
      { name := value.string ["name"]
        arguments := (value.given? "args").map GenericArguments.ofJson
        equality :=
          match (value.field "binding").tagged? with
          | some ("equality", term) => (EqualityTerm.ofJson term).type?.map RustType.ofJson
          | _ => none
        bounds :=
          match (value.field "binding").tagged? with
          | some ("constraint", terms) => terms.items.map GenericBound.ofJson
          | _ => [] } := by
  rw [AssociatedConstraint.ofJson]
  congr 1
  · split <;> simp_all
  · split
    · split <;> simp_all [EqualityTerm.type?]
    · simp_all
  · split <;> simp_all

theorem GenericBound.ofJson_eq (value : Json String) :
    GenericBound.ofJson value =
      match value.tagged? with
      | some ("trait_bound", payload) =>
          .trait (PathReference.ofJson (payload.field "trait"))
            ((payload.field "modifier").text?.getD "none")
            ((payload.list "generic_params").map GenericParameter.ofJson)
      | some ("outlives", payload) => .outlives (payload.text?.getD "")
      | some ("use", payload) => .capture payload.items
      | some (tag, _) => .unknown (some tag)
      | none => .unknown none := by
  rw [GenericBound.ofJson]
  split <;> simp_all

theorem GenericParameterKind.ofJson_eq (value : Json String) :
    GenericParameterKind.ofJson value =
      match value.tagged? with
      | some ("lifetime", payload) => .lifetime (payload.strings "outlives")
      | some ("type", payload) =>
          .type ((payload.list "bounds").map GenericBound.ofJson)
            ((payload.given? "default").map RustType.ofJson)
            (payload.flag ["is_synthetic", "synthetic"])
      | some ("const", payload) =>
          .const (RustType.ofJson (payload.field "type")) (payload.string? ["default"])
      | some (tag, _) => .unknown (some tag)
      | none => .unknown none := by
  rw [GenericParameterKind.ofJson]
  split
  case h_2 payload tagged =>
    simp only [tagged, GenericParameterKind.type.injEq, and_true]
    constructor
    · simp
    · split <;> simp_all
  all_goals simp_all

theorem GenericParameter.ofJson_eq (value : Json String) :
    GenericParameter.ofJson value =
      { name := value.string ["name"]
        kind := GenericParameterKind.ofJson (value.field "kind") } := by
  rw [GenericParameter.ofJson]

theorem PolyTrait.ofJson_eq (value : Json String) :
    PolyTrait.ofJson value =
      { trait := PathReference.ofJson (value.field "trait")
        parameters := (value.list "generic_params").map GenericParameter.ofJson } := by
  rw [PolyTrait.ofJson]
  simp

/-- An input that is not a pair is none at all. -/
def FunctionInput.ofJson? (value : Json String) : Option FunctionInput :=
  (FunctionInput.parts? value).map fun (name, type) => ⟨name.text?.getD "", RustType.ofJson type⟩

theorem FunctionSignature.ofJson_eq (value : Json String) :
    FunctionSignature.ofJson value =
      { inputs := (value.list "inputs").filterMap FunctionInput.ofJson?
        output := (value.given? "output").map RustType.ofJson
        isVariadic := value.flag ["is_c_variadic", "c_variadic"] } := by
  rw [FunctionSignature.ofJson]
  congr 1
  · conv => rhs; rw [← List.attach_map_subtype_val (value.list "inputs"), List.filterMap_map]
    congr 1
    funext ⟨input, _⟩
    simp only [Function.comp_apply, FunctionInput.ofJson?]
    split <;> simp_all
  · split <;> simp_all

end CrateGraph
