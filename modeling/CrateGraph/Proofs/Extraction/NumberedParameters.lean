import CrateGraph.Proofs.Extraction.CoveredDescriptions
import CrateGraph.Proofs.Extraction.Instances
import CrateGraph.Proofs.Extraction.NodeAddresses
import CrateGraph.Proofs.Extraction.Origins
import CrateGraph.Proofs.Extraction.StepViews
import CrateGraph.Proofs.Extraction.TypePlaces

/-!
How parameters are numbered.

The parameters of a function are numbered without the receivers among its inputs. Generic parameters
are numbered by their place in the whole list, in which lifetimes and parameters of unknown kinds
take a place too, without getting a number. Main statement: the nodes of parameters are exactly
those with these numbers, in order, and each says of its own parameter what there is to say.
-/

namespace CrateGraph

open Iri (Entity)
open Rdf (Term Triple)
open Ontology

/-! ### Addresses under an owner -/

/-- The triple, if its subject has an address that starts like this. -/
def under? (front : String) (triple : Triple) : Option Triple :=
  if front.toList <+: triple.subject.toList then some triple else none

def under (front : String) (triples : List Triple) : List Triple :=
  triples.filterMap (under? front)

namespace Iri

theorem prefix_owned_iff (owner front rest : String) :
    (owner ++ front).toList <+: (owner ++ rest).toList ↔ front.toList <+: rest.toList := by
  rw [String.toList_append, String.toList_append, List.prefix_append_right_inj]

theorem not_prefix_owner (owner : String) {front : String} (nonempty : front ≠ "") :
    ¬(owner ++ front).toList <+: owner.toList := by
  intro starts
  have owned := (prefix_owned_iff owner front "").mp (by simpa using starts)
  simp [nonempty] at owned

theorem prefix_parameter (owner : String) (ordinal : Int) :
    (owner ++ "/param/").toList <+: (parameter owner ordinal).toList := by
  simp [parameter]

theorem prefix_typeParameter (owner : String) (ordinal : Int) :
    (owner ++ "/typeparam/").toList <+: (typeParameter owner ordinal).toList := by
  simp [typeParameter]

theorem not_prefix_typeParameter (owner : String) (ordinal : Int) :
    ¬(owner ++ "/param/").toList <+: (typeParameter owner ordinal).toList := by
  rw [typeParameter, String.append_assoc, prefix_owned_iff]
  simp

theorem not_prefix_lifetime (owner name : String) :
    ¬(owner ++ "/param/").toList <+: (lifetime owner name).toList ∧
      ¬(owner ++ "/typeparam/").toList <+: (lifetime owner name).toList := by
  rw [lifetime, String.append_assoc, prefix_owned_iff, prefix_owned_iff]
  simp

namespace Entity

theorem count_slash_afterSlash {segments : List String}
    (single : ∀ segment ∈ segments, '/' ∉ segment.toList) :
    (segments.flatMap afterSlash).count '/' = segments.length := by
  induction segments with
  | nil => rfl
  | cons segment rest induction =>
      rcases List.forall_mem_cons.mp single with ⟨first, further⟩
      rw [List.flatMap_cons, List.count_append, induction further, afterSlash,
        List.count_cons_self, List.count_eq_zero_of_not_mem first, List.length_cons]
      omega

/-- Each segment of an address is behind a slash of its own. -/
theorem count_slash_iri (minter : Minter) (entity : Entity) :
    (entity.iri minter).toList.count '/' =
      minter.base.toList.count '/' + entity.bare.segments.length := by
  rw [toList_iri, List.count_append, count_slash_afterSlash (slash_not_mem_segments entity.bare)]

theorem three_le_length_segments (entity : Entity) : 3 ≤ entity.segments.length := by
  induction entity with
  | crate | module | type | implementation => simp [segments]
  | member _ _ _ induction | parameter _ _ induction | typeParameter _ _ induction
  | lifetime _ _ induction | variant _ _ induction =>
      rw [segments, List.length_append]
      omega

end Entity

end Iri

namespace Extraction

variable (extraction : Extraction)

/-- Types have addresses with too few slashes to be of something that has an owner. -/
theorem not_prefix_typeIri (owner : Entity) {front : String}
    (slashes : 2 ≤ front.toList.count '/') (path : String) :
    ¬(owner.iri extraction.minter ++ front).toList <+: (extraction.typeIri path).toList := by
  intro starts
  have few := starts.sublist.count_le '/'
  have enough := owner.bare.three_le_length_segments
  rw [String.toList_append, List.count_append, Entity.count_slash_iri, extraction.typeIri_eq,
    Entity.count_slash_iri] at few
  simp only [typeEntity, Entity.bare, Entity.segments, List.length_cons, List.length_nil] at few
  omega

end Extraction

/-! ### Views of nodes -/

section Views

variable {View : Type} {view : Triple → Option View}

/-- Of the node, nothing comes into the view but its classes. -/
def Overlooks (view : Triple → Option View) (node : String) : Prop :=
  ∀ predicate object, predicate ≠ Property.type → view ⟨node, predicate, object⟩ = none

theorem overlooks_instance? (classes : List String) (node : String) :
    Overlooks (instance? classes) node := by
  intro predicate object notType
  cases object <;> simp [instance?, notType]

theorem overlooks_under? {front node : String} (outside : ¬front.toList <+: node.toList) :
    Overlooks (under? front) node :=
  fun _ _ _ => if_neg outside

/-- Whatever can be said of one node, but for its classes. -/
def remarks (node : String) : Lexicon :=
  .about
    (fun
      | .classOf _ => False
      | .edge property | .text property | .value property => property ≠ Property.type
      | .function => True)
    (fun other => other = node)

theorem Overlooks.inView_eq_nil {node : String} (overlooks : Overlooks view node)
    {steps : List Step} (covers : (remarks node).CoversAll steps) : inView view steps = [] := by
  refine CrateGraph.inView_eq_nil fun triple stated => ?_
  cases covers _ stated with
  | classOf _ isClass => exact isClass.elim
  | edge isNode notType => exact isNode ▸ overlooks _ _ notType
  | text isNode notType => exact isNode ▸ overlooks _ _ notType
  | value isNode notType => exact isNode ▸ overlooks _ _ notType

end Views

namespace Extraction

variable (extraction : Extraction)

/-! ### Generic parameters -/

/-- The owner of some generics, or a node that belongs to them. -/
def IsOfGenerics (owner node : String) : Prop :=
  node = owner ∨ (∃ ordinal : Nat, node = Iri.typeParameter owner ordinal) ∨
    ∃ name, node = Iri.lifetime owner name

/-- What descriptions of the generics of an owner say. -/
def genericsLexicon (owner : String) : Lexicon :=
  .about
    (fun
      | .classOf nodeClass => nodeClass ≠ Class.parameter
      | .edge property => property ≠ Property.type
      | _ => True)
    (IsOfGenerics owner)

theorem covers_genericsLexicon (owner : String) (generics : Generics) :
    (genericsLexicon owner).CoversAll (extraction.generics generics owner) := by
  have knows : (genericsLexicon owner).KnowsGenerics owner :=
    ⟨Or.inl rfl, fun ordinal => Or.inr (Or.inl ⟨ordinal, rfl⟩),
      fun name => Or.inr (Or.inr ⟨name, rfl⟩)⟩
  have allowed : (genericsLexicon owner).Allows genericTopics := by
    simp [genericTopics, genericsLexicon, Lexicon.about, Class.parameter, Class.typeParameter,
      Class.constParameter, Class.lifetime, Property.hasTypeParameter, Property.typeParameterOf,
      Property.traitBound, Property.hasLifetime, Property.parameterType]
  exact covers_generics (Lexicon.suits_about _ _ extraction) knows allowed fun _ _ => trivial

/-! ### What the nodes say -/

/-- A number as it stands in the graph. -/
def ordinalTerm (ordinal : Nat) : Term :=
  .typed (toString ordinal) "http://www.w3.org/2001/XMLSchema#integer"

theorem int_natCast (ordinal : Nat) : Term.int ordinal = ordinalTerm ordinal :=
  rfl

theorem parameter_natCast (function : String) (ordinal : Nat) :
    Iri.parameter function ordinal = function ++ "/param/" ++ toString ordinal :=
  rfl

theorem typeParameter_natCast (owner : String) (ordinal : Nat) :
    Iri.typeParameter owner ordinal = owner ++ "/typeparam/" ++ toString ordinal :=
  rfl

def parameterTypeTriples (node : String) (type : RustType) : List Triple :=
  (extraction.typeIri? type).toList.map fun target =>
    ⟨node, Property.parameterType, .iri target⟩

/-- The triples about the node of a parameter of a function, with its address and its ordinal
written out. -/
def parameterNode (function : String) : FunctionInput × Nat → List Triple
  | (input, ordinal) =>
      let node := function ++ "/param/" ++ toString ordinal
      [⟨node, Property.type, .iri Class.parameter⟩,
        ⟨node, Property.name, .literal input.name⟩,
        ⟨node, Property.ordinal, ordinalTerm ordinal⟩,
        ⟨node, Property.parameterOf, .iri function⟩] ++
      extraction.parameterTypeTriples node input.type

/-- The triples about the node of a generic parameter, if its kind has one. -/
def genericNode (owner : String) : GenericParameter × Nat → List Triple
  | (⟨name, .type bounds _ _⟩, ordinal) =>
      let node := owner ++ "/typeparam/" ++ toString ordinal
      [⟨node, Property.type, .iri Class.typeParameter⟩,
        ⟨node, Property.name, .literal name⟩,
        ⟨node, Property.ordinal, ordinalTerm ordinal⟩,
        ⟨node, Property.typeParameterOf, .iri owner⟩] ++
      (boundTraits bounds).map fun trait =>
        ⟨node, Property.traitBound, .iri (extraction.referenceIri trait)⟩
  | (⟨name, .const type _⟩, ordinal) =>
      let node := owner ++ "/typeparam/" ++ toString ordinal
      [⟨node, Property.type, .iri Class.constParameter⟩,
        ⟨node, Property.name, .literal name⟩,
        ⟨node, Property.ordinal, ordinalTerm ordinal⟩] ++
      extraction.parameterTypeTriples node type
  | _ => []

def isNumbered (parameter : GenericParameter) : Bool :=
  match parameter.kind with
  | .type .. | .const .. => true
  | .lifetime _ | .unknown _ => false

section Stated

variable {View : Type} {view : Triple → Option View} {node : String}

/-- A view that overlooks a function and its generics shows its parameters alone. -/
theorem inView_functionDetails (overlooks : Overlooks view node) {body : FunctionBody}
    (generics : inView view (extraction.generics body.generics node) = []) :
    inView view (extraction.functionDetails node body) =
      (numberedInputs body).zipIdx.flatMap fun (input, ordinal) =>
        inView view (extraction.parameter node ordinal input) := by
  have flags {property : String} (notType : property ≠ Property.type) (value : Bool) :
      inView view (flag node property value) = [] :=
    overlooks.inView_eq_nil (covers_flag rfl trivial notType value)
  have suits : (remarks node).Suits extraction := Lexicon.suits_about _ _ _
  have notType : Property.returnType ≠ Property.type := by simp [Property.returnType]
  have output : inView view
      (extraction.optionalTypeEdge node Property.returnType body.signature.output) = [] :=
    overlooks.inView_eq_nil (covers_optionalTypeEdge suits rfl notType _)
  rw [functionDetails]
  simp only [inView_append]
  rw [flags (by simp [Property.isUnsafe]), flags (by simp [Property.isAsync]),
    flags (by simp [Property.isConst]), generics, output, parameters_eq_flatMap, inView_flatMap]
  simp [numberedInputs]

end Stated

theorem inView_instance_parameter (function : String) (input : FunctionInput) (ordinal : Nat) :
    inView (instance? [Class.parameter]) (extraction.parameter function ordinal input) =
      [Iri.parameter function ordinal] := by
  rw [parameter, inView_append, inView_typeEdge]
  simp [Step.iri, Step.literal, Step.int, instance?, Term.int, Property.hasParameter,
    Property.parameterOf, Property.parameterType]

theorem inView_under_parameter (function : String) (input : FunctionInput) (ordinal : Nat) :
    inView (under? (function ++ "/param/")) (extraction.parameter function ordinal input) =
      extraction.parameterNode function (input, ordinal) := by
  have inNode : ∀ predicate object,
      under? (function ++ "/param/") ⟨Iri.parameter function ordinal, predicate, object⟩ =
        some ⟨Iri.parameter function ordinal, predicate, object⟩ :=
    fun _ _ => if_pos (Iri.prefix_parameter function ordinal)
  have ofFunction : ∀ predicate object,
      under? (function ++ "/param/") ⟨function, predicate, object⟩ = none :=
    fun _ _ => if_neg (Iri.not_prefix_owner function (by decide))
  rw [parameter, inView_append, inView_typeEdge, parameterNode, parameterTypeTriples,
    ← int_natCast, ← parameter_natCast]
  simp [Step.iri, Step.literal, Step.int, inNode, ofFunction]

theorem inView_instance_genericParameter (owner : String) (parameter : GenericParameter)
    (ordinal : Nat) :
    inView (instance? [Class.typeParameter, Class.constParameter])
        (extraction.genericParameter owner ordinal parameter) =
      if isNumbered parameter then [Iri.typeParameter owner ordinal] else [] := by
  rcases parameter with ⟨name, kind⟩
  cases kind with
  | type bounds =>
      rw [genericParameter, inView_append, inView_boundEdges]
      simp [isNumbered, Step.iri, Step.literal, Step.int, instance?, Term.int,
        Property.hasTypeParameter, Property.typeParameterOf, Property.traitBound]
  | lifetime =>
      simp [genericParameter, isNumbered, Step.iri, Step.literal, instance?, Property.hasLifetime,
        Class.lifetime, Class.typeParameter, Class.constParameter]
  | const type =>
      rw [genericParameter, inView_append, inView_typeEdge]
      simp [isNumbered, Step.iri, Step.literal, Step.int, instance?, Term.int,
        Property.hasTypeParameter, Property.parameterType]
  | unknown => rfl

theorem inView_under_genericParameter (owner : String) (parameter : GenericParameter)
    (ordinal : Nat) :
    inView (under? (owner ++ "/typeparam/"))
        (extraction.genericParameter owner ordinal parameter) =
      extraction.genericNode owner (parameter, ordinal) := by
  have inNode : ∀ predicate object,
      under? (owner ++ "/typeparam/") ⟨Iri.typeParameter owner ordinal, predicate, object⟩ =
        some ⟨Iri.typeParameter owner ordinal, predicate, object⟩ :=
    fun _ _ => if_pos (Iri.prefix_typeParameter owner ordinal)
  have ofOwner : ∀ predicate object,
      under? (owner ++ "/typeparam/") ⟨owner, predicate, object⟩ = none :=
    fun _ _ => if_neg (Iri.not_prefix_owner owner (by decide))
  have ofLifetime : ∀ name predicate object,
      under? (owner ++ "/typeparam/") ⟨Iri.lifetime owner name, predicate, object⟩ = none :=
    fun name _ _ => if_neg (Iri.not_prefix_lifetime owner name).2
  rcases parameter with ⟨name, kind⟩
  cases kind with
  | type bounds =>
      rw [genericParameter, inView_append, inView_boundEdges, genericNode, ← int_natCast,
        ← typeParameter_natCast]
      simp [Step.iri, Step.literal, Step.int, inNode, ofOwner]
  | lifetime => simp [genericParameter, genericNode, Step.iri, Step.literal, ofOwner, ofLifetime]
  | const type =>
      rw [genericParameter, inView_append, inView_typeEdge, genericNode, parameterTypeTriples,
        ← int_natCast, ← typeParameter_natCast]
      simp [Step.iri, Step.literal, Step.int, inNode, ofOwner]
  | unknown => rfl

/-- Nothing of the generics of a function counts as one of its parameters. -/
theorem inView_instance_generics (generics : Generics) (function : String) :
    inView (instance? [Class.parameter]) (extraction.generics generics function) = [] := by
  refine inView_eq_nil fun triple stated => ?_
  cases extraction.covers_genericsLexicon function generics _ stated with
  | classOf _ other => simp [instance?, show _ ≠ Class.parameter from other]
  | edge _ notType => simp [instance?, show _ ≠ Property.type from notType]
  | text | value => rfl

theorem inView_under_generics (generics : Generics) (function : String) :
    inView (under? (function ++ "/param/")) (extraction.generics generics function) = [] := by
  refine inView_eq_nil fun triple stated => if_neg ?_
  rcases (extraction.covers_genericsLexicon function generics _ stated).subject with
    owner | ⟨ordinal, node⟩ | ⟨name, lifetime⟩
  · rw [owner]
    exact Iri.not_prefix_owner function (by decide)
  · rw [node]
    exact Iri.not_prefix_typeParameter function ordinal
  · rw [lifetime]
    exact (Iri.not_prefix_lifetime function name).1

theorem inView_instance_functionDetails (function : String) (body : FunctionBody) :
    inView (instance? [Class.parameter]) (extraction.functionDetails function body) =
      (List.range (numberedInputs body).length).map fun ordinal : Nat =>
        Iri.parameter function ordinal := by
  rw [extraction.inView_functionDetails (overlooks_instance? _ _)
    (extraction.inView_instance_generics body.generics function)]
  simp only [inView_instance_parameter]
  rw [← List.map_eq_flatMap, List.range_eq_range', ← List.zipIdx_map_snd 0, List.map_map]
  rfl

theorem inView_under_functionDetails (function : String) (body : FunctionBody) :
    inView (under? (function ++ "/param/")) (extraction.functionDetails function body) =
      (numberedInputs body).zipIdx.flatMap (extraction.parameterNode function) := by
  rw [extraction.inView_functionDetails
    (overlooks_under? (Iri.not_prefix_owner function (by decide)))
    (extraction.inView_under_generics body.generics function)]
  simp only [inView_under_parameter]

theorem inView_instance_genericParameters (owner : String) (ordinal : Nat)
    (parameters : List GenericParameter) :
    inView (instance? [Class.typeParameter, Class.constParameter])
        (extraction.genericParameters owner ordinal parameters) =
      ((parameters.zipIdx ordinal).filter (isNumbered ·.1)).map (Iri.typeParameter owner ·.2) := by
  induction parameters generalizing ordinal with
  | nil => rfl
  | cons parameter rest induction =>
      rw [genericParameters, inView_append, inView_instance_genericParameter, induction,
        List.zipIdx_cons, List.filter_cons]
      split <;> rfl

theorem inView_under_genericParameters (owner : String) (parameters : List GenericParameter) :
    inView (under? (owner ++ "/typeparam/")) (extraction.genericParameters owner 0 parameters) =
      parameters.zipIdx.flatMap (extraction.genericNode owner) := by
  rw [genericParameters_eq_flatMap, inView_flatMap]
  simp only [inView_under_genericParameter]

/-! ### What a run writes -/

theorem skipsStubs_instance? {classes : List String} (notType : Class.type ∉ classes) :
    Progress.SkipsStubs (instance? classes) := by
  intro iri name
  simp [Progress.stubNode, instance?, notType]

/-- Steps that mention types of the crate alone write nothing else under an owner. -/
theorem under_runSteps {steps : List Step}
    (mentions : ∀ iri name, .mention iri name ∈ steps → ∃ path, iri = extraction.typeIri path)
    (owner : Entity) {front : String} (slashes : 2 ≤ front.toList.count '/')
    (progress : Progress) :
    under (owner.iri extraction.minter ++ front) (progress.runSteps steps).2 =
      inView (under? (owner.iri extraction.minter ++ front)) steps := by
  refine Progress.filterMap_runSteps_of_mentions ?_ progress
  intro iri name mentioned
  rcases mentions iri name mentioned with ⟨path, rfl⟩
  have apart := extraction.not_prefix_typeIri owner slashes path
  simp only [Progress.stubNode, under?, List.filterMap_cons, if_neg apart, List.filterMap_nil]

/-- What mentions types of the crate alone. -/
def ownMentions : Lexicon :=
  { Lexicon.ofTopics (fun _ => True) with
    mention := fun iri => ∃ path, iri = extraction.typeIri path }

theorem suits_ownMentions : extraction.ownMentions.Suits extraction where
  node _ := trivial
  type _ := trivial
  reference _ := ⟨trivial, _, rfl⟩
  truth := trivial
  numbers _ := trivial

theorem mentions_genericParameters {owner : String} {parameters : List GenericParameter}
    {iri name : String}
    (mentioned : .mention iri name ∈ extraction.genericParameters owner 0 parameters) :
    ∃ path, iri = extraction.typeIri path := by
  have knows : extraction.ownMentions.KnowsGenerics owner :=
    ⟨trivial, fun _ => trivial, fun _ => trivial⟩
  cases covers_genericParameters extraction.suits_ownMentions knows (fun _ _ => trivial) 0
    (fun _ _ => trivial) _ mentioned with
  | mention own => exact own

theorem mentions_functionDetails {function : String} {body : FunctionBody} {iri name : String}
    (mentioned : .mention iri name ∈ extraction.functionDetails function body) :
    ∃ path, iri = extraction.typeIri path := by
  have nodes : extraction.ownMentions.KnowsNodes extraction := by
    constructor <;> intros <;> exact trivial
  cases covers_functionDetails extraction.suits_ownMentions nodes trivial (fun _ _ => trivial)
    (fun _ _ => trivial) _ mentioned with
  | mention own => exact own

/-- Carrying out the description of a function gives the inputs that are no receivers a node each,
in order, with the numbers from zero at the ends of their addresses; that of some generics gives
types and constants a node each, numbered by their place among all of them. A node says of its
parameter what there is to say. Nothing else is written there under the address of an entity; a text
that is no such address may be the start of the address of a type that a bound mentions. -/
theorem parameters_are_numbered (progress : Progress) :
    (∀ function body,
      instances [Class.parameter]
          (progress.runSteps (extraction.functionDetails function body)).2 =
        ((List.range (numberedInputs body).length).map fun ordinal =>
          function ++ "/param/" ++ toString ordinal) ∧
      under (function ++ "/param/")
          (progress.writtenAt (!·.isMention) (extraction.functionDetails function body)) =
        (numberedInputs body).zipIdx.flatMap (extraction.parameterNode function)) ∧
    (∀ (function : Entity) body,
      under (function.iri extraction.minter ++ "/param/")
          (progress.runSteps
            (extraction.functionDetails (function.iri extraction.minter) body)).2 =
        (numberedInputs body).zipIdx.flatMap
          (extraction.parameterNode (function.iri extraction.minter))) ∧
    (∀ owner parameters,
      instances [Class.typeParameter, Class.constParameter]
          (progress.runSteps (extraction.genericParameters owner 0 parameters)).2 =
        (parameters.zipIdx.filter (isNumbered ·.1)).map (fun (_, place) =>
          owner ++ "/typeparam/" ++ toString place) ∧
      under (owner ++ "/typeparam/")
          (progress.writtenAt (!·.isMention) (extraction.genericParameters owner 0 parameters)) =
        parameters.zipIdx.flatMap (extraction.genericNode owner)) ∧
    ∀ (owner : Entity) parameters,
      under (owner.iri extraction.minter ++ "/typeparam/")
          (progress.runSteps
            (extraction.genericParameters (owner.iri extraction.minter) 0 parameters)).2 =
        parameters.zipIdx.flatMap (extraction.genericNode (owner.iri extraction.minter)) := by
  refine ⟨fun function body => ⟨?_, ?_⟩, fun function body => ?_,
    fun owner parameters => ⟨?_, ?_⟩, fun owner parameters => ?_⟩
  · rw [instances, Progress.filterMap_runSteps (skipsStubs_instance? (by
      simp [Class.type, Class.parameter]))]
    exact extraction.inView_instance_functionDetails function body
  · rw [under, Progress.writtenAt_statements]
    exact extraction.inView_under_functionDetails function body
  · rw [extraction.under_runSteps (fun _ _ => extraction.mentions_functionDetails) function
      (by decide)]
    exact extraction.inView_under_functionDetails _ body
  · rw [instances, Progress.filterMap_runSteps (skipsStubs_instance? (by
      simp [Class.type, Class.typeParameter, Class.constParameter]))]
    exact extraction.inView_instance_genericParameters owner 0 parameters
  · rw [under, Progress.writtenAt_statements]
    exact extraction.inView_under_genericParameters owner parameters
  · rw [extraction.under_runSteps (fun _ _ => extraction.mentions_genericParameters) owner
      (by decide)]
    exact extraction.inView_under_genericParameters _ parameters

-- A lifetime and a parameter of an unknown kind leave out their numbers.
example :
    (([⟨"'a", .lifetime []⟩, ⟨"T", .type [] none false⟩, ⟨"?", .unknown none⟩,
        ⟨"N", .const .infer none⟩] : List GenericParameter).zipIdx.filter (isNumbered ·.1)).map
      (Iri.typeParameter "owner" ·.2) = ["owner/typeparam/1", "owner/typeparam/3"] := by
  decide +kernel

end Extraction

end CrateGraph
