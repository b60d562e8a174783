import Mathlib.Data.List.OfFn
import CrateGraph.Proofs.Crate.ReadableCrates
import CrateGraph.Proofs.Crate.Writing

/-!
Reading a written crate.

Whatever the spelling, each reader gives back what was written, part by part: the types and all that
occurs in them by one induction over their mutual structure, then the items, then the document. So a
crate that was read from some document can be written in any of the formats without loss.
-/

namespace CrateGraph

/-! ### Written parts -/

section Parts

variable {Part : Type} [SizeOf Part] {spelling : Spelling}

/-- The parts of a list are read back if each is, and each is smaller than the list. -/
theorem Spelling.map_items_each {Read : Type} {parts : List Part}
    {write : (part : Part) → part ∈ parts → Spelling → Json String} {read : Json String → Read}
    {given : Part → Read}
    (readBack : ∀ part member, sizeOf part < sizeOf parts → ∀ spelling,
      read (write part member spelling) = given part) :
    (spelling.each parts write).items.map read = parts.map given := by
  unfold Spelling.each
  rw [Json.items, List.map_ofFn]
  conv => rhs; rw [← List.ofFn_get parts, List.map_ofFn]
  congr 1
  funext index
  exact readBack _ _ (List.sizeOf_lt_of_mem (List.get_mem parts index)) _

theorem Spelling.map_each {parts : List Part}
    {write : (part : Part) → part ∈ parts → Spelling → Json String} {read : Json String → Part}
    (readBack : ∀ part member, sizeOf part < sizeOf parts → ∀ spelling,
      read (write part member spelling) = part) :
    (spelling.each parts write).items.map read = parts := by
  rw [Spelling.map_items_each readBack]
  exact List.map_id parts

theorem Spelling.filterMap_each {parts : List Part}
    {write : (part : Part) → part ∈ parts → Spelling → Json String}
    {read : Json String → Option Part}
    (readBack : ∀ part member, sizeOf part < sizeOf parts → ∀ spelling,
      read (write part member spelling) = some part) :
    (spelling.each parts write).items.filterMap read = parts := by
  have mapped : (spelling.each parts write).items.map read = parts.map some :=
    Spelling.map_items_each readBack
  calc (spelling.each parts write).items.filterMap read
      = ((spelling.each parts write).items.map read).filterMap id := by rw [List.filterMap_map]; rfl
    _ = parts := by rw [mapped, List.filterMap_map]; simp

omit [SizeOf Part] in
theorem Json.map_given?_of_field {value : Json String} {name : String} {given : Option Part}
    {write : (part : Part) → given = some part → Json String} {read : Json String → Part}
    (written : value.field name = .optional given write)
    (present : ∀ part same, write part same ≠ .null)
    (readBack : ∀ part same, read (write part same) = part) :
    (value.given? name).map read = given := by
  unfold Json.given?
  rw [written]
  cases given with
  | none => rfl
  | some part =>
      rw [Json.optional]
      split
      · next isNull => exact absurd isNull (present part rfl)
      · exact congrArg some (readBack part rfl)

end Parts

theorem Json.text?_optionalText (text : Option String) : (Json.optionalText text).text? = text := by
  cases text <;> rfl

theorem Json.string?_of_field {value : Json String} {name : String} {text : Option String}
    (written : value.field name = .optionalText text) : value.string? [name] = text := by
  rw [Json.string?, List.findSome?_cons, written, Json.text?_optionalText]
  cases text <;> rfl

theorem Json.filterMap_text?_str (texts : List String) :
    (texts.map Json.str).filterMap Json.text? = texts := by
  rw [List.filterMap_map]
  exact List.filterMap_some

section Ids

variable (spelling : Spelling)

theorem ItemId.id_write (id : ItemId) : (ItemId.write spelling id).id = .ok id := by
  unfold ItemId.write
  split
  · next number _ isNumber =>
      rw [ItemId.number?_eq_some_iff.mp isNumber]
      rfl
  · rfl

theorem ItemId.id?_write (id : ItemId) : (ItemId.write spelling id).id? = some id := by
  rw [Json.id?, ItemId.id_write]
  rfl

theorem ItemId.id?_writeOptional (id : Option ItemId) :
    (ItemId.writeOptional spelling id).id? = id := by
  cases id with
  | none => rfl
  | some id => exact ItemId.id?_write spelling id

theorem ItemId.ids_writeAll (ids : List ItemId) : (ItemId.writeAll spelling ids).ids = ids :=
  Spelling.filterMap_each fun id _ _ spelling => ItemId.id?_write spelling id

theorem ItemId.optionalIds_writeGaps (fields : List (Option ItemId)) :
    (ItemId.writeGaps spelling fields).optionalIds = fields :=
  Spelling.map_each fun id _ _ spelling => ItemId.id?_writeOptional spelling id

end Ids

/-! ### Type references -/

theorem FunctionHeader.ofJson_write (spelling : Spelling) (header : FunctionHeader) :
    FunctionHeader.ofJson (header.write spelling) = header := by
  unfold FunctionHeader.write Spelling.name
  split <;> split <;> split <;> rfl

theorem RustType.write_ne_null (spelling : Spelling) (type : RustType) :
    type.write spelling ≠ .null := by
  cases type
  case unknown tag => cases tag <;> simp [RustType.write, Json.untagged]
  all_goals simp [RustType.write, Json.tagged]

theorem PathReference.write_ne_null (spelling : Spelling) (reference : PathReference) :
    reference.write spelling ≠ .null := by
  obtain ⟨path, id, arguments⟩ := reference
  simp [PathReference.write]

theorem GenericArguments.write_ne_null (spelling : Spelling) (given : GenericArguments) :
    given.write spelling ≠ .null := by
  cases given
  case unknown tag => cases tag <;> simp [GenericArguments.write, Json.untagged]
  all_goals simp [GenericArguments.write, Json.tagged]

/-- A type that stands alone is not taken for a term with a tag of its own. -/
theorem EqualityTerm.ofJson_write {type : RustType} (alone : type.standsAlone)
    (spelling : Spelling) :
    EqualityTerm.ofJson (type.write spelling) = .type (type.write spelling) := by
  cases type
  case unknown tag =>
    cases tag with
    | none => rw [RustType.write]; rfl
    | some tag =>
        simp only [RustType.standsAlone, Bool.and_eq_true, bne_iff_ne] at alone
        rw [RustType.write, Json.untagged, EqualityTerm.ofJson]
        split <;> simp_all [Json.tagged?]
  all_goals rw [RustType.write]; rfl

/-- A list under either name is read alike: the second name counts where the first has no items. -/
theorem Json.list_constraints (spelling : Spelling) (arguments constraints : Json String) :
    (let payload := Json.obj
        [("args", arguments), (spelling.name "constraints" "bindings", constraints)]
      if (payload.list "constraints").isEmpty then payload.list "bindings"
      else payload.list "constraints") = constraints.items := by
  unfold Spelling.name
  split
  · rfl
  · change (if constraints.items.isEmpty then [] else constraints.items) = constraints.items
    split
    · next empty => exact (List.isEmpty_iff.mp empty).symm
    · rfl

section Types

variable {allowed : Char → Prop}

mutual

theorem RustType.ofJson_write (type : RustType) (readable : type.Readable allowed)
    (spelling : Spelling) : RustType.ofJson (type.write spelling) = type := by
  cases type with
  | path reference =>
      rw [RustType.Readable] at readable
      rw [RustType.write, RustType.ofJson_eq]
      exact congrArg RustType.path (PathReference.ofJson_write reference readable _)
  | primitive name => rw [RustType.write, RustType.ofJson_eq]; rfl
  | tuple elements =>
      rw [RustType.Readable] at readable
      rw [RustType.write, RustType.ofJson_eq]
      exact congrArg RustType.tuple (Spelling.map_each fun element member _ spelling =>
        RustType.ofJson_write element (readable element member) spelling)
  | slice element =>
      rw [RustType.Readable] at readable
      rw [RustType.write, RustType.ofJson_eq]
      exact congrArg RustType.slice (RustType.ofJson_write element readable _)
  | array element length =>
      rw [RustType.Readable] at readable
      rw [RustType.write, RustType.ofJson_eq]
      exact congrArg (RustType.array · length) (RustType.ofJson_write element readable.1 _)
  | rawPointer target isMutable =>
      rw [RustType.Readable] at readable
      rw [RustType.write, RustType.ofJson_eq]
      refine (RustType.rawPointer.injEq ..).mpr ⟨RustType.ofJson_write target readable _, ?_⟩
      unfold Spelling.name
      split <;> rfl
  | borrowed target isMutable lifetime =>
      rw [RustType.Readable] at readable
      rw [RustType.write, RustType.ofJson_eq]
      refine (RustType.borrowed.injEq ..).mpr
        ⟨RustType.ofJson_write target readable.1 _, ?_, Json.string?_of_field rfl⟩
      unfold Spelling.name
      split <;> rfl
  | functionPointer signature parameters header =>
      rw [RustType.Readable] at readable
      rw [RustType.write, RustType.ofJson_eq]
      refine (RustType.functionPointer.injEq ..).mpr ⟨?_, ?_, ?_⟩
      · refine Eq.trans (congrArg FunctionSignature.ofJson ?_)
          (FunctionSignature.ofJson_write signature readable.1
            ((spelling.under "function_pointer").under "sig"))
        unfold Spelling.name
        split <;> rfl
      · exact Spelling.map_each fun parameter member _ spelling =>
          GenericParameter.ofJson_write parameter (readable.2.1 parameter member) spelling
      · exact FunctionHeader.ofJson_write _ header
  | qualified name selfType trait arguments =>
      rw [RustType.Readable] at readable
      obtain ⟨-, ofSelf, ofTrait, ofArguments⟩ := readable
      rw [RustType.write, RustType.ofJson_eq]
      refine (RustType.qualified.injEq ..).mpr
        ⟨rfl, RustType.ofJson_write selfType ofSelf _, ?_, ?_⟩
      · exact Json.map_given?_of_field rfl (fun _ _ => PathReference.write_ne_null _ _)
          fun reference given => PathReference.ofJson_write reference (ofTrait reference given) _
      · exact Json.map_given?_of_field rfl (fun _ _ => GenericArguments.write_ne_null _ _)
          fun part given => GenericArguments.ofJson_write part (ofArguments part given) _
  | implTrait bounds =>
      rw [RustType.Readable] at readable
      rw [RustType.write, RustType.ofJson_eq]
      exact congrArg RustType.implTrait (Spelling.map_each fun bound member _ spelling =>
        GenericBound.ofJson_write bound (readable bound member) spelling)
  | dynTrait traits lifetime =>
      rw [RustType.Readable] at readable
      rw [RustType.write, RustType.ofJson_eq]
      refine (RustType.dynTrait.injEq ..).mpr ⟨?_, Json.string?_of_field rfl⟩
      exact Spelling.map_each fun trait member _ spelling =>
        PolyTrait.ofJson_write trait (readable.1 trait member) spelling
  | infer => rw [RustType.write, RustType.ofJson_eq]; rfl
  | generic name => rw [RustType.write, RustType.ofJson_eq]; rfl
  | unknown tag =>
      rw [RustType.Readable] at readable
      rw [RustType.write, RustType.ofJson_eq]
      cases tag with
      | none => rfl
      | some tag =>
          rw [unknownTag_some] at readable
          split <;> simp_all [Json.untagged, Json.tagged?, RustType.tags]
termination_by sizeOf type
decreasing_by all_goals subst_vars; simp <;> omega

theorem PathReference.ofJson_write (reference : PathReference)
    (readable : reference.Readable allowed) (spelling : Spelling) :
    PathReference.ofJson (reference.write spelling) = reference := by
  cases reference with
  | mk path id arguments =>
      rw [PathReference.Readable] at readable
      rw [PathReference.write, PathReference.ofJson_eq]
      refine (PathReference.mk.injEq ..).mpr ⟨?_, ItemId.id?_writeOptional _ id, ?_⟩
      · unfold Spelling.name
        split <;> rfl
      · exact Json.map_given?_of_field rfl (fun _ _ => GenericArguments.write_ne_null _ _)
          fun part given => GenericArguments.ofJson_write part (readable.2.2 part given) _
termination_by sizeOf reference
decreasing_by all_goals subst_vars; simp; omega

theorem GenericArguments.ofJson_write (arguments : GenericArguments)
    (readable : arguments.Readable allowed) (spelling : Spelling) :
    GenericArguments.ofJson (arguments.write spelling) = arguments := by
  cases arguments with
  | angleBracketed arguments constraints =>
      rw [GenericArguments.Readable] at readable
      rw [GenericArguments.write, GenericArguments.ofJson_eq]
      refine (GenericArguments.angleBracketed.injEq ..).mpr ⟨?_, ?_⟩
      · exact Spelling.map_each fun argument member _ spelling =>
          GenericArgument.ofJson_write argument (readable.1 argument member) spelling
      · exact (congrArg (List.map AssociatedConstraint.ofJson) (Json.list_constraints ..)).trans
          (Spelling.map_each fun constraint member _ spelling =>
            AssociatedConstraint.ofJson_write constraint (readable.2 constraint member) spelling)
  | parenthesized inputs output =>
      rw [GenericArguments.Readable] at readable
      rw [GenericArguments.write, GenericArguments.ofJson_eq]
      refine (GenericArguments.parenthesized.injEq ..).mpr ⟨?_, ?_⟩
      · exact Spelling.map_each fun input member _ spelling =>
          RustType.ofJson_write input (readable.1 input member) spelling
      · exact Json.map_given?_of_field rfl (fun _ _ => RustType.write_ne_null _ _)
          fun type given => RustType.ofJson_write type (readable.2 type given) _
  | unknown tag =>
      rw [GenericArguments.Readable] at readable
      rw [GenericArguments.write, GenericArguments.ofJson_eq]
      cases tag with
      | none => rfl
      | some tag =>
          rw [unknownTag_some] at readable
          split <;> simp_all [Json.untagged, Json.tagged?, GenericArguments.tags]
termination_by sizeOf arguments
decreasing_by all_goals subst_vars; simp; omega

theorem GenericArgument.ofJson_write (argument : GenericArgument)
    (readable : argument.Readable allowed) (spelling : Spelling) :
    GenericArgument.ofJson (argument.write spelling) = argument := by
  cases argument with
  | lifetime name => rw [GenericArgument.write, GenericArgument.ofJson_eq]; rfl
  | type type =>
      rw [GenericArgument.Readable] at readable
      rw [GenericArgument.write, GenericArgument.ofJson_eq]
      exact congrArg GenericArgument.type (RustType.ofJson_write type readable _)
  | const value expression isLiteral =>
      rw [GenericArgument.write, GenericArgument.ofJson_eq]
      exact (GenericArgument.const.injEq ..).mpr
        ⟨Json.string?_of_field rfl, Json.string?_of_field rfl, rfl⟩
  | infer => rw [GenericArgument.write, GenericArgument.ofJson_eq]; rfl
  | unknown tag =>
      rw [GenericArgument.Readable] at readable
      rw [GenericArgument.write, GenericArgument.ofJson_eq]
      cases tag with
      | none => rfl
      | some tag =>
          rw [unknownTag_some] at readable
          split <;> simp_all [Json.untagged, Json.tagged?, GenericArgument.tags]
termination_by sizeOf argument
decreasing_by all_goals subst_vars; simp

theorem AssociatedConstraint.ofJson_write (constraint : AssociatedConstraint)
    (readable : constraint.Readable allowed) (spelling : Spelling) :
    AssociatedConstraint.ofJson (constraint.write spelling) = constraint := by
  cases constraint with
  | mk name arguments equality bounds =>
      rw [AssociatedConstraint.Readable] at readable
      obtain ⟨-, ofArguments, ofEquality, ofBounds, apart⟩ := readable
      have givenArguments :=
        fun (part : GenericArguments) (given : arguments = some part) spelling =>
          GenericArguments.ofJson_write part (ofArguments part given) spelling
      cases equality with
      | none =>
          rw [AssociatedConstraint.write, AssociatedConstraint.ofJson_eq]
          refine (AssociatedConstraint.mk.injEq ..).mpr ⟨rfl, ?_, rfl, ?_⟩
          · exact Json.map_given?_of_field rfl (fun _ _ => GenericArguments.write_ne_null _ _)
              fun part given => givenArguments part given _
          · exact Spelling.map_each fun bound member _ spelling =>
              GenericBound.ofJson_write bound (ofBounds bound member) spelling
      | some type =>
          have back := fun spelling => RustType.ofJson_write type (ofEquality type rfl) spelling
          rw [AssociatedConstraint.write, AssociatedConstraint.ofJson_eq]
          refine (AssociatedConstraint.mk.injEq ..).mpr
            ⟨rfl, ?_, ?_, (apart.resolve_left (by simp)).symm⟩
          · exact Json.map_given?_of_field rfl (fun _ _ => GenericArguments.write_ne_null _ _)
              fun part given => givenArguments part given _
          · change (EqualityTerm.ofJson (if _ then _ else _)).type?.map RustType.ofJson = _
            split
            · next alone =>
                rw [EqualityTerm.ofJson_write (Bool.and_eq_true_iff.mp alone).2]
                exact congrArg some (back _)
            · exact congrArg some (back _)
termination_by sizeOf constraint
decreasing_by all_goals subst_vars; simp; omega

theorem GenericBound.ofJson_write (bound : GenericBound) (readable : bound.Readable allowed)
    (spelling : Spelling) : GenericBound.ofJson (bound.write spelling) = bound := by
  cases bound with
  | trait trait modifier parameters =>
      rw [GenericBound.Readable] at readable
      rw [GenericBound.write, GenericBound.ofJson_eq]
      refine (GenericBound.trait.injEq ..).mpr
        ⟨PathReference.ofJson_write trait readable.1 _, rfl, ?_⟩
      exact Spelling.map_each fun parameter member _ spelling =>
        GenericParameter.ofJson_write parameter (readable.2.2 parameter member) spelling
  | outlives lifetime => rw [GenericBound.write, GenericBound.ofJson_eq]; rfl
  | capture parameters => rw [GenericBound.write, GenericBound.ofJson_eq]; rfl
  | unknown tag =>
      rw [GenericBound.Readable] at readable
      rw [GenericBound.write, GenericBound.ofJson_eq]
      cases tag with
      | none => rfl
      | some tag =>
          rw [unknownTag_some] at readable
          split <;> simp_all [Json.untagged, Json.tagged?, GenericBound.tags]
termination_by sizeOf bound
decreasing_by all_goals subst_vars; simp; omega

theorem GenericParameterKind.ofJson_write (kind : GenericParameterKind)
    (readable : kind.Readable allowed) (spelling : Spelling) :
    GenericParameterKind.ofJson (kind.write spelling) = kind := by
  cases kind with
  | lifetime outlives =>
      rw [GenericParameterKind.write, GenericParameterKind.ofJson_eq]
      exact congrArg GenericParameterKind.lifetime (Json.filterMap_text?_str outlives)
  | type bounds default isSynthetic =>
      rw [GenericParameterKind.Readable] at readable
      rw [GenericParameterKind.write, GenericParameterKind.ofJson_eq]
      refine (GenericParameterKind.type.injEq ..).mpr ⟨?_, ?_, ?_⟩
      · exact Spelling.map_each fun bound member _ spelling =>
          GenericBound.ofJson_write bound (readable.1 bound member) spelling
      · exact Json.map_given?_of_field rfl (fun _ _ => RustType.write_ne_null _ _)
          fun type given => RustType.ofJson_write type (readable.2 type given) _
      · unfold Spelling.name
        split <;> rfl
  | const type default =>
      rw [GenericParameterKind.Readable] at readable
      rw [GenericParameterKind.write, GenericParameterKind.ofJson_eq]
      exact (GenericParameterKind.const.injEq ..).mpr
        ⟨RustType.ofJson_write type readable.1 _, Json.string?_of_field rfl⟩
  | unknown tag =>
      rw [GenericParameterKind.Readable] at readable
      rw [GenericParameterKind.write, GenericParameterKind.ofJson_eq]
      cases tag with
      | none => rfl
      | some tag =>
          rw [unknownTag_some] at readable
          split <;> simp_all [Json.untagged, Json.tagged?, GenericParameterKind.tags]
termination_by sizeOf kind
decreasing_by all_goals subst_vars; simp; omega

theorem GenericParameter.ofJson_write (parameter : GenericParameter)
    (readable : parameter.Readable allowed) (spelling : Spelling) :
    GenericParameter.ofJson (parameter.write spelling) = parameter := by
  cases parameter with
  | mk name kind =>
      rw [GenericParameter.Readable] at readable
      rw [GenericParameter.write, GenericParameter.ofJson_eq]
      exact congrArg (GenericParameter.mk name)
        (GenericParameterKind.ofJson_write kind readable.2 _)
termination_by sizeOf parameter
decreasing_by all_goals grind

theorem PolyTrait.ofJson_write (quantified : PolyTrait) (readable : quantified.Readable allowed)
    (spelling : Spelling) : PolyTrait.ofJson (quantified.write spelling) = quantified := by
  cases quantified with
  | mk trait parameters =>
      rw [PolyTrait.Readable] at readable
      rw [PolyTrait.write, PolyTrait.ofJson_eq]
      refine (PolyTrait.mk.injEq ..).mpr ⟨?_, ?_⟩
      · exact PathReference.ofJson_write trait readable.1 _
      · exact Spelling.map_each fun parameter member _ spelling =>
          GenericParameter.ofJson_write parameter (readable.2 parameter member) spelling
termination_by sizeOf quantified
decreasing_by all_goals subst_vars; simp; omega

theorem FunctionInput.ofJson?_write (input : FunctionInput) (readable : input.Readable allowed)
    (spelling : Spelling) : FunctionInput.ofJson? (input.write spelling) = some input := by
  cases input with
  | mk name type =>
      rw [FunctionInput.Readable] at readable
      rw [FunctionInput.write]
      exact congrArg (fun type => some (FunctionInput.mk name type))
        (RustType.ofJson_write type readable.2 _)
termination_by sizeOf input
decreasing_by all_goals grind

theorem FunctionSignature.ofJson_write (signature : FunctionSignature)
    (readable : signature.Readable allowed) (spelling : Spelling) :
    FunctionSignature.ofJson (signature.write spelling) = signature := by
  cases signature with
  | mk inputs output isVariadic =>
      rw [FunctionSignature.Readable] at readable
      rw [FunctionSignature.write, FunctionSignature.ofJson_eq]
      refine (FunctionSignature.mk.injEq ..).mpr ⟨?_, ?_, ?_⟩
      · exact Spelling.filterMap_each fun input member _ spelling =>
          FunctionInput.ofJson?_write input (readable.1 input member) spelling
      · exact Json.map_given?_of_field rfl (fun _ _ => RustType.write_ne_null _ _)
          fun type given => RustType.ofJson_write type (readable.2 type given) _
      · unfold Spelling.name
        split <;> rfl
termination_by sizeOf signature
decreasing_by all_goals subst_vars; simp; omega

end

end Types

end CrateGraph
