import Mathlib.Data.Option.Basic
import CrateGraph.Proofs.Crate.ReadingEquations
import CrateGraph.Proofs.Json.Texts

/-!
Which type references a document can give.

Two things never come out of a reader: an unknown tag that the reader knows, and a constraint that
both sets an associated item equal to a type and bounds it. Beyond that, the characters of a type
reference are those of the document that it is read from, ASCII apart.
-/

namespace CrateGraph

/-! ### Tags -/

def RustType.tags : List String :=
  ["resolved_path", "primitive", "tuple", "slice", "array", "raw_pointer", "borrowed_ref",
    "function_pointer", "qualified_path", "impl_trait", "dyn_trait", "infer", "generic"]

def GenericArguments.tags : List String := ["angle_bracketed", "parenthesized"]

def GenericArgument.tags : List String := ["lifetime", "type", "const", "infer"]

def GenericBound.tags : List String := ["trait_bound", "outlives", "use"]

def GenericParameterKind.tags : List String := ["lifetime", "type", "const"]

def WherePredicate.tags : List String :=
  ["bound_predicate", "lifetime_predicate", "eq_predicate"]

/-- A tag of allowed characters that is not among the known ones, or no tag at all. -/
def UnknownTag (allowed : Char → Prop) (known : List String) (tag : Option String) : Prop :=
  ∀ text ∈ tag, text ∉ known ∧ Text.Within allowed text

@[simp] theorem unknownTag_none (allowed : Char → Prop) (known : List String) :
    UnknownTag allowed known none := by
  simp [UnknownTag]

@[simp] theorem unknownTag_some (allowed : Char → Prop) (known : List String) (tag : String) :
    UnknownTag allowed known (some tag) ↔ tag ∉ known ∧ Text.Within allowed tag := by
  simp [UnknownTag]

/-! ### What a document can give -/

def FunctionHeader.Readable (allowed : Char → Prop) (header : FunctionHeader) : Prop :=
  header.abi.Within allowed

section Readable

variable (allowed : Char → Prop)

mutual

def RustType.Readable : RustType → Prop
  | .path reference => reference.Readable
  | .primitive name => Text.Within allowed name
  | .tuple elements => ∀ element ∈ elements, element.Readable
  | .slice element => element.Readable
  | .array element length => element.Readable ∧ Text.Within allowed length
  | .rawPointer target _ => target.Readable
  | .borrowed target _ lifetime => target.Readable ∧ ∀ text ∈ lifetime, Text.Within allowed text
  | .functionPointer signature parameters header =>
      signature.Readable ∧ (∀ parameter ∈ parameters, parameter.Readable) ∧
        header.Readable allowed
  | .qualified name selfType trait arguments =>
      Text.Within allowed name ∧ selfType.Readable ∧ (∀ reference ∈ trait, reference.Readable) ∧
        ∀ given ∈ arguments, given.Readable
  | .implTrait bounds => ∀ bound ∈ bounds, bound.Readable
  | .dynTrait traits lifetime =>
      (∀ trait ∈ traits, trait.Readable) ∧ ∀ text ∈ lifetime, Text.Within allowed text
  | .infer => True
  | .generic name => Text.Within allowed name
  | .unknown tag => UnknownTag allowed RustType.tags tag
termination_by type => sizeOf type

def PathReference.Readable : PathReference → Prop
  | ⟨path, id, arguments⟩ =>
      Text.Within allowed path ∧ (∀ text ∈ id, Text.Within allowed text) ∧
        ∀ given ∈ arguments, given.Readable
termination_by reference => sizeOf reference

def GenericArguments.Readable : GenericArguments → Prop
  | .angleBracketed arguments constraints =>
      (∀ argument ∈ arguments, argument.Readable) ∧
        ∀ constraint ∈ constraints, constraint.Readable
  | .parenthesized inputs output =>
      (∀ input ∈ inputs, input.Readable) ∧ ∀ type ∈ output, type.Readable
  | .unknown tag => UnknownTag allowed GenericArguments.tags tag
termination_by arguments => sizeOf arguments

def GenericArgument.Readable : GenericArgument → Prop
  | .lifetime name => Text.Within allowed name
  | .type type => type.Readable
  | .const value expression _ =>
      (∀ text ∈ value, Text.Within allowed text) ∧ ∀ text ∈ expression, Text.Within allowed text
  | .infer => True
  | .unknown tag => UnknownTag allowed GenericArgument.tags tag
termination_by argument => sizeOf argument

def AssociatedConstraint.Readable : AssociatedConstraint → Prop
  | ⟨name, arguments, equality, bounds⟩ =>
      Text.Within allowed name ∧ (∀ given ∈ arguments, given.Readable) ∧
        (∀ type ∈ equality, type.Readable) ∧ (∀ bound ∈ bounds, bound.Readable) ∧
        (equality = none ∨ bounds = [])
termination_by constraint => sizeOf constraint

def GenericBound.Readable : GenericBound → Prop
  | .trait trait modifier parameters =>
      trait.Readable ∧ Text.Within allowed modifier ∧
        ∀ parameter ∈ parameters, parameter.Readable
  | .outlives lifetime => Text.Within allowed lifetime
  | .capture parameters => ∀ parameter ∈ parameters, parameter.Within allowed
  | .unknown tag => UnknownTag allowed GenericBound.tags tag
termination_by bound => sizeOf bound

def GenericParameterKind.Readable : GenericParameterKind → Prop
  | .lifetime outlives => ∀ lifetime ∈ outlives, Text.Within allowed lifetime
  | .type bounds default _ => (∀ bound ∈ bounds, bound.Readable) ∧ ∀ type ∈ default, type.Readable
  | .const type default => type.Readable ∧ ∀ text ∈ default, Text.Within allowed text
  | .unknown tag => UnknownTag allowed GenericParameterKind.tags tag
termination_by kind => sizeOf kind
decreasing_by all_goals grind [→ List.sizeOf_lt_of_mem, Option.mem_def]

def GenericParameter.Readable : GenericParameter → Prop
  | ⟨name, kind⟩ => Text.Within allowed name ∧ kind.Readable
termination_by parameter => sizeOf parameter

def PolyTrait.Readable : PolyTrait → Prop
  | ⟨trait, parameters⟩ => trait.Readable ∧ ∀ parameter ∈ parameters, parameter.Readable
termination_by trait => sizeOf trait

def FunctionInput.Readable : FunctionInput → Prop
  | ⟨name, type⟩ => Text.Within allowed name ∧ type.Readable
termination_by input => sizeOf input

def FunctionSignature.Readable : FunctionSignature → Prop
  | ⟨inputs, output, _⟩ =>
      (∀ input ∈ inputs, input.Readable) ∧ ∀ type ∈ output, type.Readable
termination_by signature => sizeOf signature
decreasing_by all_goals grind [→ List.sizeOf_lt_of_mem, Option.mem_def]

end

def WherePredicate.Readable : WherePredicate → Prop
  | .bound type bounds parameters =>
      type.Readable allowed ∧ (∀ bound ∈ bounds, bound.Readable allowed) ∧
        ∀ parameter ∈ parameters, parameter.Readable allowed
  | .lifetime name outlives =>
      Text.Within allowed name ∧ ∀ text ∈ outlives, Text.Within allowed text
  | .equality left right => left.Readable allowed ∧ right.Readable allowed
  | .unknown tag => UnknownTag allowed WherePredicate.tags tag

def Generics.Readable (generics : Generics) : Prop :=
  (∀ parameter ∈ generics.parameters, parameter.Readable allowed) ∧
    ∀ predicate ∈ generics.wherePredicates, predicate.Readable allowed

end Readable

/-! ### What the readers give -/

section Reading

variable {allowed : Char → Prop}

theorem FunctionHeader.readable_ofJson {value : Json String} (within : value.Within allowed) :
    (FunctionHeader.ofJson value).Readable allowed :=
  within.field "abi"

theorem Text.within_text?_getD {value : Json String} (within : value.Within allowed)
    {default : String} (otherwise : Text.Within allowed default) :
    Text.Within allowed (value.text?.getD default) := by
  cases given : value.text? with
  | none => exact otherwise
  | some text => exact within.of_text? given

/-- The length of an array is the text of any value whatsoever. -/
theorem Text.within_plainText_getD (ascii : Text.AllowsAscii allowed) {value : Json String}
    (within : value.Within allowed) (key : String) :
    Text.Within allowed (((Entries.get? key value.record).map Json.plainText).getD "") := by
  cases found : Entries.get? key value.record with
  | none => exact Text.within_empty
  | some inner => exact (within.of_get? found).plainText ascii

theorem EqualityTerm.sizeOf_le_of_type? {term inner : Json String}
    (stands : (EqualityTerm.ofJson term).type? = some inner) : sizeOf inner ≤ sizeOf term := by
  cases equal : EqualityTerm.ofJson term with
  | type value =>
      rw [equal] at stands
      cases stands
      exact EqualityTerm.sizeOf_le_of_ofJson equal
  | constant => simp [equal, EqualityTerm.type?] at stands

theorem EqualityTerm.within_of_type? {term inner : Json String} (within : term.Within allowed)
    (stands : (EqualityTerm.ofJson term).type? = some inner) : inner.Within allowed := by
  unfold EqualityTerm.ofJson at stands
  split at stands
  · next tagged =>
      cases stands
      exact (within.of_tagged? tagged).2
  · cases stands
  · cases stands
    exact within

theorem FunctionInput.within_of_parts? {value name type : Json String}
    (within : value.Within allowed) (parts : FunctionInput.parts? value = some (name, type)) :
    name.Within allowed ∧ type.Within allowed := by
  unfold FunctionInput.parts? at parts
  split at parts
  · cases parts
    simpa using within
  · cases parts

/-- What the readers of type references give of one value, whichever of them reads it. -/
structure ReadersGive (allowed : Char → Prop) (value : Json String) : Prop where
  type : (RustType.ofJson value).Readable allowed
  path : (PathReference.ofJson value).Readable allowed
  arguments : (GenericArguments.ofJson value).Readable allowed
  argument : (GenericArgument.ofJson value).Readable allowed
  constraint : (AssociatedConstraint.ofJson value).Readable allowed
  bound : (GenericBound.ofJson value).Readable allowed
  parameterKind : (GenericParameterKind.ofJson value).Readable allowed
  parameter : (GenericParameter.ofJson value).Readable allowed
  polyTrait : (PolyTrait.ofJson value).Readable allowed
  signature : (FunctionSignature.ofJson value).Readable allowed

section Parts

variable {value : Json String} (within : value.Within allowed)
  (parts : ∀ part : Json String, sizeOf part < sizeOf value → part.Within allowed →
    ReadersGive allowed part)
include within parts

theorem RustType.readable_ofJson_of_parts (ascii : Text.AllowsAscii allowed) :
    (RustType.ofJson value).Readable allowed := by
  rw [RustType.ofJson_eq]
  split
  case h_14 tag payload _ _ _ _ _ _ _ _ _ _ _ _ _ tagged =>
    rw [RustType.Readable, unknownTag_some]
    exact ⟨by simp_all [RustType.tags], (within.of_tagged? tagged).1⟩
  case h_15 => rw [RustType.Readable]; exact unknownTag_none _ _
  case h_12 => rw [RustType.Readable]; trivial
  case h_1 payload tagged =>
    rw [RustType.Readable]
    exact (parts payload (by grind) (within.of_tagged? tagged).2).path
  case h_2 payload tagged =>
    rw [RustType.Readable]
    exact Text.within_text?_getD (within.of_tagged? tagged).2 Text.within_empty
  case h_3 payload tagged =>
    have inside := (within.of_tagged? tagged).2
    rw [RustType.Readable, List.forall_mem_map]
    exact fun element member => (parts element (by grind) (inside.of_mem_items member)).type
  case h_4 payload tagged =>
    rw [RustType.Readable]
    exact (parts payload (by grind) (within.of_tagged? tagged).2).type
  case h_5 payload tagged =>
    have inside := (within.of_tagged? tagged).2
    rw [RustType.Readable]
    exact ⟨(parts _ (by grind) (inside.field "type")).type,
      Text.within_plainText_getD ascii inside "len"⟩
  case h_6 payload tagged =>
    rw [RustType.Readable]
    exact (parts _ (by grind) ((within.of_tagged? tagged).2.field "type")).type
  case h_7 payload tagged =>
    have inside := (within.of_tagged? tagged).2
    rw [RustType.Readable]
    exact ⟨(parts _ (by grind) (inside.field "type")).type,
      fun text given => inside.of_string? given⟩
  case h_8 payload tagged =>
    have inside := (within.of_tagged? tagged).2
    rw [RustType.Readable, List.forall_mem_map]
    exact ⟨(parts _ (by grind) (inside.either "sig" "decl")).signature,
      fun parameter member =>
        (parts parameter (by grind) (inside.of_mem_list member)).parameter,
      FunctionHeader.readable_ofJson (inside.field "header")⟩
  case h_9 payload tagged =>
    have inside := (within.of_tagged? tagged).2
    rw [RustType.Readable, Option.forall_mem_map, Option.forall_mem_map]
    exact ⟨inside.string _, (parts _ (by grind) (inside.field "self_type")).type,
      fun inner given => (parts inner (by grind [Option.mem_def]) (inside.of_given? given)).path,
      fun inner given =>
        (parts inner (by grind [Option.mem_def]) (inside.of_given? given)).arguments⟩
  case h_10 payload tagged =>
    have inside := (within.of_tagged? tagged).2
    rw [RustType.Readable, List.forall_mem_map]
    exact fun bound member => (parts bound (by grind) (inside.of_mem_items member)).bound
  case h_11 payload tagged =>
    have inside := (within.of_tagged? tagged).2
    rw [RustType.Readable, List.forall_mem_map]
    exact ⟨fun trait member => (parts trait (by grind) (inside.of_mem_list member)).polyTrait,
      fun text given => inside.of_string? given⟩
  case h_13 payload tagged =>
    rw [RustType.Readable]
    exact Text.within_text?_getD (within.of_tagged? tagged).2 Text.within_empty

theorem PathReference.readable_ofJson_of_parts (ascii : Text.AllowsAscii allowed) :
    (PathReference.ofJson value).Readable allowed := by
  rw [PathReference.ofJson_eq, PathReference.Readable, Option.forall_mem_map]
  exact ⟨within.string _, fun id given => (within.field "id").of_id? ascii given,
    fun inner given => (parts inner (by grind [Option.mem_def]) (within.of_given? given)).arguments⟩

theorem GenericArguments.readable_ofJson_of_parts :
    (GenericArguments.ofJson value).Readable allowed := by
  rw [GenericArguments.ofJson_eq]
  split
  case h_1 payload tagged =>
    have inside := (within.of_tagged? tagged).2
    rw [GenericArguments.Readable, List.forall_mem_map, List.forall_mem_map]
    refine ⟨fun argument member =>
      (parts argument (by grind) (inside.of_mem_list member)).argument, ?_⟩
    intro constraint member
    split at member
    · exact (parts constraint (by grind) (inside.of_mem_list member)).constraint
    · exact (parts constraint (by grind) (inside.of_mem_list member)).constraint
  case h_2 payload tagged =>
    have inside := (within.of_tagged? tagged).2
    rw [GenericArguments.Readable, List.forall_mem_map, Option.forall_mem_map]
    exact ⟨fun input member => (parts input (by grind) (inside.of_mem_list member)).type,
      fun inner given => (parts inner (by grind [Option.mem_def]) (inside.of_given? given)).type⟩
  case h_3 tag payload _ _ tagged =>
    rw [GenericArguments.Readable, unknownTag_some]
    exact ⟨by simp_all [GenericArguments.tags], (within.of_tagged? tagged).1⟩
  case h_4 => rw [GenericArguments.Readable]; exact unknownTag_none _ _

theorem GenericArgument.readable_ofJson_of_parts :
    (GenericArgument.ofJson value).Readable allowed := by
  rw [GenericArgument.ofJson_eq]
  split
  case h_1 payload tagged =>
    rw [GenericArgument.Readable]
    exact Text.within_text?_getD (within.of_tagged? tagged).2 Text.within_empty
  case h_2 payload tagged =>
    rw [GenericArgument.Readable]
    exact (parts payload (by grind) (within.of_tagged? tagged).2).type
  case h_3 payload tagged =>
    have inside := (within.of_tagged? tagged).2
    rw [GenericArgument.Readable]
    exact ⟨fun text given => inside.of_string? given, fun text given => inside.of_string? given⟩
  case h_4 => rw [GenericArgument.Readable]; trivial
  case h_5 tag payload _ _ _ _ tagged =>
    rw [GenericArgument.Readable, unknownTag_some]
    exact ⟨by simp_all [GenericArgument.tags], (within.of_tagged? tagged).1⟩
  case h_6 => rw [GenericArgument.Readable]; exact unknownTag_none _ _

theorem AssociatedConstraint.readable_ofJson_of_parts :
    (AssociatedConstraint.ofJson value).Readable allowed := by
  rw [AssociatedConstraint.ofJson_eq, AssociatedConstraint.Readable, Option.forall_mem_map]
  refine ⟨within.string _, fun inner given =>
    (parts inner (by grind [Option.mem_def]) (within.of_given? given)).arguments, ?_, ?_, ?_⟩
  · split
    · next term tagged =>
        rw [Option.forall_mem_map]
        intro inner stands
        have inTerm := ((within.field "binding").of_tagged? tagged).2
        have smaller := EqualityTerm.sizeOf_le_of_type? stands
        have inside := EqualityTerm.within_of_type? inTerm stands
        exact (parts inner (by grind [Option.mem_def]) inside).type
    · simp
  · split
    · next terms tagged =>
        rw [List.forall_mem_map]
        have inTerms := ((within.field "binding").of_tagged? tagged).2
        exact fun bound member =>
          (parts bound (by grind) (inTerms.of_mem_items member)).bound
    · simp
  · split <;> simp_all

theorem GenericBound.readable_ofJson_of_parts (ascii : Text.AllowsAscii allowed) :
    (GenericBound.ofJson value).Readable allowed := by
  rw [GenericBound.ofJson_eq]
  split
  case h_1 payload tagged =>
    have inside := (within.of_tagged? tagged).2
    have modifier : Text.Within allowed "none" := ascii.within (by decide)
    rw [GenericBound.Readable, List.forall_mem_map]
    exact ⟨(parts _ (by grind) (inside.field "trait")).path,
      Text.within_text?_getD (inside.field "modifier") modifier,
      fun parameter member =>
        (parts parameter (by grind) (inside.of_mem_list member)).parameter⟩
  case h_2 payload tagged =>
    rw [GenericBound.Readable]
    exact Text.within_text?_getD (within.of_tagged? tagged).2 Text.within_empty
  case h_3 payload tagged =>
    rw [GenericBound.Readable]
    exact fun parameter member => (within.of_tagged? tagged).2.of_mem_items member
  case h_4 tag payload _ _ _ tagged =>
    rw [GenericBound.Readable, unknownTag_some]
    exact ⟨by simp_all [GenericBound.tags], (within.of_tagged? tagged).1⟩
  case h_5 => rw [GenericBound.Readable]; exact unknownTag_none _ _

theorem GenericParameterKind.readable_ofJson_of_parts :
    (GenericParameterKind.ofJson value).Readable allowed := by
  rw [GenericParameterKind.ofJson_eq]
  split
  case h_1 payload tagged =>
    rw [GenericParameterKind.Readable]
    exact fun lifetime member => (within.of_tagged? tagged).2.of_mem_strings member
  case h_2 payload tagged =>
    have inside := (within.of_tagged? tagged).2
    rw [GenericParameterKind.Readable, List.forall_mem_map, Option.forall_mem_map]
    exact ⟨fun bound member => (parts bound (by grind) (inside.of_mem_list member)).bound,
      fun inner given => (parts inner (by grind [Option.mem_def]) (inside.of_given? given)).type⟩
  case h_3 payload tagged =>
    have inside := (within.of_tagged? tagged).2
    rw [GenericParameterKind.Readable]
    exact ⟨(parts _ (by grind) (inside.field "type")).type,
      fun text given => inside.of_string? given⟩
  case h_4 tag payload _ _ _ tagged =>
    rw [GenericParameterKind.Readable, unknownTag_some]
    exact ⟨by simp_all [GenericParameterKind.tags], (within.of_tagged? tagged).1⟩
  case h_5 => rw [GenericParameterKind.Readable]; exact unknownTag_none _ _

theorem FunctionSignature.readable_ofJson_of_parts :
    (FunctionSignature.ofJson value).Readable allowed := by
  rw [FunctionSignature.ofJson_eq, FunctionSignature.Readable, Option.forall_mem_map]
  refine ⟨?_, fun inner given =>
    (parts inner (by grind [Option.mem_def]) (within.of_given? given)).type⟩
  intro input member
  rcases List.mem_filterMap.mp member with ⟨pair, listed, read⟩
  rcases Option.map_eq_some_iff.mp read with ⟨⟨name, type⟩, halves, rfl⟩
  have inside := FunctionInput.within_of_parts? (within.of_mem_list listed) halves
  rw [FunctionInput.Readable]
  exact ⟨Text.within_text?_getD inside.1 Text.within_empty,
    (parts type (by grind) inside.2).type⟩

end Parts

/-- Every reader descends into smaller parts of its value; a parameter and a quantified trait first
pass to a field, which need not be smaller. -/
theorem readersGive (ascii : Text.AllowsAscii allowed) (value : Json String)
    (within : value.Within allowed) : ReadersGive allowed value := by
  have parts : ∀ inner : Json String, sizeOf inner ≤ sizeOf value → ∀ part : Json String,
      sizeOf part < sizeOf inner → part.Within allowed → ReadersGive allowed part :=
    fun inner fits part smaller within => readersGive ascii part within
  have own := parts value (Nat.le_refl _)
  have inField := fun key => parts (value.field key) (value.sizeOf_field_le key)
  refine
    { type := RustType.readable_ofJson_of_parts within own ascii
      path := PathReference.readable_ofJson_of_parts within own ascii
      arguments := GenericArguments.readable_ofJson_of_parts within own
      argument := GenericArgument.readable_ofJson_of_parts within own
      constraint := AssociatedConstraint.readable_ofJson_of_parts within own
      bound := GenericBound.readable_ofJson_of_parts within own ascii
      parameterKind := GenericParameterKind.readable_ofJson_of_parts within own
      parameter := ?_
      polyTrait := ?_
      signature := FunctionSignature.readable_ofJson_of_parts within own }
  · rw [GenericParameter.ofJson_eq, GenericParameter.Readable]
    exact ⟨within.string _,
      GenericParameterKind.readable_ofJson_of_parts (within.field "kind") (inField "kind")⟩
  · rw [PolyTrait.ofJson_eq, PolyTrait.Readable, List.forall_mem_map]
    exact ⟨PathReference.readable_ofJson_of_parts (within.field "trait") (inField "trait") ascii,
      fun parameter member => (own parameter (by grind) (within.of_mem_list member)).parameter⟩
termination_by sizeOf value
decreasing_by omega

theorem WherePredicate.readable_ofJson (ascii : Text.AllowsAscii allowed) {value : Json String}
    (within : value.Within allowed) : (WherePredicate.ofJson value).Readable allowed := by
  unfold WherePredicate.ofJson
  split
  case h_1 payload tagged =>
    have inside := (within.of_tagged? tagged).2
    rw [WherePredicate.Readable, List.forall_mem_map, List.forall_mem_map]
    exact ⟨(readersGive ascii _ (inside.field "type")).type,
      fun bound member => (readersGive ascii bound (inside.of_mem_list member)).bound,
      fun parameter member =>
        (readersGive ascii parameter (inside.of_mem_list member)).parameter⟩
  case h_2 payload tagged =>
    have inside := (within.of_tagged? tagged).2
    exact ⟨inside.string _, fun text member => inside.of_mem_strings member⟩
  case h_3 payload tagged =>
    have inside := (within.of_tagged? tagged).2
    exact ⟨(readersGive ascii _ (inside.field "lhs")).type,
      (readersGive ascii _ (inside.field "rhs")).type⟩
  case h_4 tag payload _ _ _ tagged =>
    rw [WherePredicate.Readable, unknownTag_some]
    exact ⟨by simp_all [WherePredicate.tags], (within.of_tagged? tagged).1⟩
  case h_5 => exact unknownTag_none _ _

theorem Generics.readable_ofJson (ascii : Text.AllowsAscii allowed) {value : Json String}
    (within : value.Within allowed) : (Generics.ofJson value).Readable allowed := by
  rw [Generics.ofJson, Generics.Readable, List.forall_mem_map, List.forall_mem_map]
  exact ⟨fun parameter member =>
      (readersGive ascii parameter (within.of_mem_list member)).parameter,
    fun predicate member => WherePredicate.readable_ofJson ascii (within.of_mem_list member)⟩

end Reading

end CrateGraph
