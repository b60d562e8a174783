import CrateGraph.Extraction.Description

/-!
What descriptions may say.

A lexicon names the topics that steps may have, the nodes that they may be about, the ends of their
edges and their words. A description keeps to every lexicon that has its topics and that knows the
nodes and words it makes. So whoever wants to know something of every step of a description gives a
lexicon, and need not look at the description again.
-/

namespace CrateGraph

open Ontology
open Rdf (Term Triple)

/-- What a step is about: it gives a class, states an edge, a text or a value by a property, or
counts a function. -/
inductive Topic where
  | classOf (nodeClass : String)
  | edge (property : String)
  | text (property : String)
  | value (property : String)
  | function
deriving DecidableEq

structure Lexicon where
  topic : Topic → Prop
  node : String → Prop
  target : String → Prop
  mention : String → Prop
  word : String → Prop
  /-- Texts with a datatype. -/
  value : String → String → Prop

namespace Lexicon

/-- A lexicon that looks at topics and at the nodes that steps are about. -/
def about (topic : Topic → Prop) (node : String → Prop) : Lexicon where
  topic := topic
  node := node
  target _ := True
  mention _ := True
  word _ := True
  value _ _ := True

/-- A lexicon that looks at topics alone. -/
abbrev ofTopics (topic : Topic → Prop) : Lexicon :=
  about topic fun _ => True

/-- A lexicon that looks at texts alone. -/
def ofTexts (word : String → Prop) (value : String → String → Prop) : Lexicon where
  topic _ := True
  node _ := True
  target _ := True
  mention _ := True
  word := word
  value := value

variable (lexicon : Lexicon)

inductive Covers : Step → Prop
  | classOf {node nodeClass : String} (known : lexicon.node node)
      (topic : lexicon.topic (.classOf nodeClass)) :
      Covers (.triple ⟨node, Property.type, .iri nodeClass⟩)
  | edge {node property target : String} (known : lexicon.node node)
      (topic : lexicon.topic (.edge property)) (reached : lexicon.target target) :
      Covers (.triple ⟨node, property, .iri target⟩)
  | text {node property text : String} (known : lexicon.node node)
      (topic : lexicon.topic (.text property)) (word : lexicon.word text) :
      Covers (.triple ⟨node, property, .literal text⟩)
  | value {node property text datatype : String} (known : lexicon.node node)
      (topic : lexicon.topic (.value property)) (value : lexicon.value text datatype) :
      Covers (.triple ⟨node, property, .typed text datatype⟩)
  | mention {iri name : String} (mention : lexicon.mention iri) (word : lexicon.word name) :
      Covers (.mention iri name)
  | countFunction (topic : lexicon.topic .function) : Covers .countFunction
  | countUnresolved : Covers .countUnresolved

variable {lexicon} in
theorem Covers.subject {triple : Triple} (covers : lexicon.Covers (.triple triple)) :
    lexicon.node triple.subject := by
  cases covers <;> assumption

def CoversAll (steps : List Step) : Prop :=
  ∀ step ∈ steps, lexicon.Covers step

def Allows (topics : List Topic) : Prop :=
  ∀ topic ∈ topics, lexicon.topic topic

variable {lexicon}

@[simp] theorem coversAll_nil : lexicon.CoversAll [] :=
  List.forall_mem_nil _

@[simp] theorem coversAll_cons (step : Step) (rest : List Step) :
    lexicon.CoversAll (step :: rest) ↔ lexicon.Covers step ∧ lexicon.CoversAll rest :=
  List.forall_mem_cons

@[simp] theorem coversAll_append (left right : List Step) :
    lexicon.CoversAll (left ++ right) ↔ lexicon.CoversAll left ∧ lexicon.CoversAll right :=
  List.forall_mem_append

theorem CoversAll.about_mono {topic wider : Topic → Prop} {node more : String → Prop}
    {steps : List Step} (covers : (about topic node).CoversAll steps)
    (topics : ∀ subject, topic subject → wider subject)
    (nodes : ∀ subject, node subject → more subject) :
    (about wider more).CoversAll steps := by
  intro step member
  cases covers step member with
  | classOf known ofTopic => exact .classOf (nodes _ known) (topics _ ofTopic)
  | edge known ofTopic => exact .edge (nodes _ known) (topics _ ofTopic) trivial
  | text known ofTopic => exact .text (nodes _ known) (topics _ ofTopic) trivial
  | value known ofTopic => exact .value (nodes _ known) (topics _ ofTopic) trivial
  | mention => exact .mention trivial trivial
  | countFunction ofTopic => exact .countFunction (topics _ ofTopic)
  | countUnresolved => exact .countUnresolved

theorem coversAll_flatMap {Source : Type} {sources : List Source}
    {describe : Source → List Step}
    (each : ∀ source ∈ sources, lexicon.CoversAll (describe source)) :
    lexicon.CoversAll (sources.flatMap describe) :=
  List.forall_mem_flatMap.mpr each

theorem Allows.topic {topics : List Topic} {topic : Topic} (allowed : lexicon.Allows topics)
    (listed : topic ∈ topics) : lexicon.topic topic :=
  allowed topic listed

theorem Allows.mono {topics fewer : List Topic} (allowed : lexicon.Allows topics)
    (part : ∀ topic ∈ fewer, topic ∈ topics) : lexicon.Allows fewer :=
  fun topic listed => allowed topic (part topic listed)

@[simp] theorem allows_nil : lexicon.Allows [] :=
  List.forall_mem_nil _

@[simp] theorem allows_cons (topic : Topic) (rest : List Topic) :
    lexicon.Allows (topic :: rest) ↔ lexicon.topic topic ∧ lexicon.Allows rest :=
  List.forall_mem_cons

@[simp] theorem allows_append (left right : List Topic) :
    lexicon.Allows (left ++ right) ↔ lexicon.Allows left ∧ lexicon.Allows right :=
  List.forall_mem_append

def HasNumbers (lexicon : Lexicon) : Prop :=
  ∀ number : Nat, lexicon.value (toString (number : Int)) Rdf.xsdInteger

section Steps

variable {node property : String} (known : lexicon.node node)
include known

@[simp] theorem covers_class {nodeClass : String} (topic : lexicon.topic (.classOf nodeClass)) :
    lexicon.Covers (.iri node Property.type nodeClass) :=
  .classOf known topic

@[simp] theorem covers_iri {target : String} (topic : lexicon.topic (.edge property))
    (reached : lexicon.target target) : lexicon.Covers (.iri node property target) :=
  .edge known topic reached

@[simp] theorem covers_literal {text : String} (topic : lexicon.topic (.text property))
    (word : lexicon.word text) : lexicon.Covers (.literal node property text) :=
  .text known topic word

@[simp] theorem covers_true (topic : lexicon.topic (.value property))
    (truth : lexicon.value "true" Rdf.xsdBoolean) :
    lexicon.Covers (.bool node property true) :=
  .value known topic truth

@[simp] theorem covers_number {number : Nat} (topic : lexicon.topic (.value property))
    (numbers : lexicon.HasNumbers) : lexicon.Covers (.int node property number) :=
  .value known topic (numbers number)

end Steps

@[simp] theorem covers_mention {iri name : String} (mention : lexicon.mention iri)
    (word : lexicon.word name) : lexicon.Covers (.mention iri name) :=
  .mention mention word

@[simp] theorem covers_countFunction (topic : lexicon.topic .function) :
    lexicon.Covers .countFunction :=
  .countFunction topic

@[simp] theorem covers_countUnresolved : lexicon.Covers .countUnresolved :=
  .countUnresolved

def Spells (lexicon : Lexicon) (words : List String) : Prop :=
  ∀ word ∈ words, lexicon.word word

@[simp] theorem spells_nil : lexicon.Spells [] :=
  List.forall_mem_nil _

@[simp] theorem spells_cons (word : String) (rest : List String) :
    lexicon.Spells (word :: rest) ↔ lexicon.word word ∧ lexicon.Spells rest :=
  List.forall_mem_cons

@[simp] theorem spells_append (left right : List String) :
    lexicon.Spells (left ++ right) ↔ lexicon.Spells left ∧ lexicon.Spells right :=
  List.forall_mem_append

@[simp] theorem spells_flatMap {Source : Type} (sources : List Source)
    (words : Source → List String) :
    lexicon.Spells (sources.flatMap words) ↔ ∀ source ∈ sources, lexicon.Spells (words source) :=
  List.forall_mem_flatMap

end Lexicon

/-! ### The words of a crate -/

def GenericBound.words : GenericBound → List String
  | .trait reference _ _ => [reference.path]
  | _ => []

def GenericParameter.words (parameter : GenericParameter) : List String :=
  parameter.name ::
    match parameter.kind with
    | .type bounds _ _ => bounds.flatMap GenericBound.words
    | _ => []

def Generics.words (generics : Generics) : List String :=
  generics.parameters.flatMap GenericParameter.words

def FunctionBody.words (body : FunctionBody) : List String :=
  body.generics.words ++ body.signature.inputs.map FunctionInput.name

def ItemBody.words : ItemBody → List String
  | .struct body => body.generics.words
  | .union body => body.generics.words
  | .enum body => body.generics.words
  | .trait body => body.generics.words ++ body.bounds.flatMap GenericBound.words
  | .typeAlias body => body.generics.words
  | .function body => body.words
  | .implementation body => body.trait.toList.map PathReference.path
  | _ => []

def Item.words (item : Item) : List String :=
  item.properName?.toList ++ item.attributes.filterMap Attribute.text? ++ item.body.words

/-- The words that descriptions use of their own accord. -/
def ownWords : List String :=
  ["Public", "Private", "Protected", "Internal", "plain", "tuple", "struct", "unnamed", "unknown",
    "rust"]

theorem label_mem_ownWords (visibility : Visibility) : visibility.label ∈ ownWords := by
  unfold Visibility.label
  split <;> simp [ownWords]

namespace Lexicon

variable {lexicon : Lexicon}

section Item

variable {item : Item} (spells : lexicon.Spells item.words)
include spells

theorem Spells.name {name : String} (named : item.properName? = some name) :
    lexicon.word name := by
  rw [Item.words, spells_append, spells_append] at spells
  exact spells.1.1 name (Option.mem_toList.mpr named)

theorem Spells.nameOr {otherwise : String} (plain : lexicon.word otherwise) :
    lexicon.word (item.properName?.getD otherwise) := by
  cases named : item.properName? with
  | none => exact plain
  | some name => exact spells.name named

theorem Spells.attribute {text : String}
    (listed : text ∈ item.attributes.filterMap Attribute.text?) : lexicon.word text := by
  rw [Item.words, spells_append, spells_append] at spells
  exact spells.1.2 text listed

theorem Spells.body : lexicon.Spells item.body.words := by
  rw [Item.words, spells_append] at spells
  exact spells.2

end Item

/-- The lexicon has the ends of edges and the values that descriptions come to. -/
structure Suits (lexicon : Lexicon) (extraction : Extraction) : Prop where
  node {node : String} (known : lexicon.node node) : lexicon.target node
  type {type : RustType} {target : String} (resolves : extraction.typeIri? type = some target) :
    lexicon.target target
  reference (reference : PathReference) :
    lexicon.target (extraction.referenceIri reference) ∧
      lexicon.mention (extraction.referenceIri reference)
  truth : lexicon.value "true" Rdf.xsdBoolean
  numbers : lexicon.HasNumbers

/-- The lexicon knows the nodes that descriptions make. -/
structure KnowsNodes (lexicon : Lexicon) (extraction : Extraction) : Prop where
  crate (name version : String) : lexicon.node (extraction.minter.crate name version)
  module (path : String) : lexicon.node (extraction.moduleIri path)
  type (path : String) : lexicon.node (extraction.typeIri path)
  implementation (id : ItemId) : lexicon.node (extraction.implementationIri id)
  resolved {type : RustType} {target : String}
    (resolves : extraction.typeIri? type = some target) : lexicon.node target
  member {owner : String} (known : lexicon.node owner) (name : String) :
    lexicon.node (Iri.member owner name "")
  parameter {owner : String} (known : lexicon.node owner) (ordinal : Nat) :
    lexicon.node (Iri.parameter owner ordinal)
  typeParameter {owner : String} (known : lexicon.node owner) (ordinal : Nat) :
    lexicon.node (Iri.typeParameter owner ordinal)
  lifetime {owner : String} (known : lexicon.node owner) (name : String) :
    lexicon.node (Iri.lifetime owner name)
  variant {owner : String} (known : lexicon.node owner) (name : String) :
    lexicon.node (Iri.variant owner name)

/-- The lexicon knows the nodes of the generics of an owner. -/
structure KnowsGenerics (lexicon : Lexicon) (owner : String) : Prop where
  self : lexicon.node owner
  typeParameter (ordinal : Nat) : lexicon.node (Iri.typeParameter owner ordinal)
  lifetime (name : String) : lexicon.node (Iri.lifetime owner name)

theorem KnowsNodes.generics {extraction : Extraction} (knows : lexicon.KnowsNodes extraction)
    {owner : String} (known : lexicon.node owner) : lexicon.KnowsGenerics owner :=
  ⟨known, knows.typeParameter known, knows.lifetime known⟩

structure KnowsWords (lexicon : Lexicon) (extraction : Extraction) : Prop where
  own : lexicon.Spells ownWords
  extendPath {path name : String} (ofPath : lexicon.word path) (ofName : lexicon.word name) :
    lexicon.word (extendPath path name)
  item {id : ItemId} {item : Item} (found : extraction.item? id = some item) :
    lexicon.Spells item.words
  version : lexicon.word extraction.crateVersion
  dependency {external : ExternalCrate}
    (listed : external ∈ extraction.crate.externalCrates.values) : lexicon.word external.name

section About

variable (topic : Topic → Prop) (node : String → Prop) (extraction : Extraction)

@[simp] theorem topic_about (subject : Topic) : (about topic node).topic subject ↔ topic subject :=
  Iff.rfl

@[simp] theorem node_about (subject : String) : (about topic node).node subject ↔ node subject :=
  Iff.rfl

@[simp] theorem target_about (target : String) : (about topic node).target target :=
  trivial

@[simp] theorem mention_about (iri : String) : (about topic node).mention iri :=
  trivial

@[simp] theorem word_about (word : String) : (about topic node).word word :=
  trivial

@[simp] theorem value_about (text datatype : String) : (about topic node).value text datatype :=
  trivial

@[simp] theorem hasNumbers_about : (about topic node).HasNumbers :=
  fun _ => trivial

@[simp] theorem spells_about (words : List String) : (about topic node).Spells words :=
  fun _ _ => trivial

@[simp] theorem suits_about : (about topic node).Suits extraction := by
  constructor <;> simp

@[simp] theorem knowsWords_about : (about topic node).KnowsWords extraction := by
  constructor <;> simp

@[simp] theorem knowsNodes_ofTopics : (ofTopics topic).KnowsNodes extraction := by
  constructor <;> simp

@[simp] theorem knowsGenerics_ofTopics (owner : String) : (ofTopics topic).KnowsGenerics owner := by
  constructor <;> simp

end About

section OfTexts

variable {word : String → Prop} {value : String → String → Prop} (extraction : Extraction)

theorem allows_ofTexts (topics : List Topic) : (ofTexts word value).Allows topics :=
  fun _ _ => trivial

theorem knowsNodes_ofTexts : (ofTexts word value).KnowsNodes extraction := by
  constructor <;> intros <;> exact trivial

theorem suits_ofTexts (truth : value "true" Rdf.xsdBoolean)
    (numbers : (ofTexts word value).HasNumbers) : (ofTexts word value).Suits extraction where
  node _ := trivial
  type _ := trivial
  reference _ := ⟨trivial, trivial⟩
  truth := truth
  numbers := numbers

end OfTexts

end Lexicon

namespace Extraction

/-! ### Topics -/

variable (extraction : Extraction)

def attributeTopics : List Topic :=
  if extraction.options.includeAttributes then [.text Property.hasAttribute] else []

def errorTopics : List Topic :=
  if extraction.options.extractErrorTypes then [.edge Property.errorType] else []

def deriveTopics : List Topic :=
  if extraction.options.extractDerives then [.text Property.derives] else []

def genericTopics : List Topic :=
  [.value Property.isGeneric, .classOf Class.typeParameter, .classOf Class.lifetime,
    .classOf Class.constParameter, .text Property.name, .value Property.ordinal,
    .edge Property.hasTypeParameter, .edge Property.typeParameterOf, .edge Property.traitBound,
    .edge Property.hasLifetime, .edge Property.parameterType]

def parameterTopics : List Topic :=
  [.classOf Class.parameter, .text Property.name, .value Property.ordinal,
    .edge Property.hasParameter, .edge Property.parameterOf, .edge Property.parameterType]

def signatureTopics : List Topic :=
  [.value Property.isUnsafe, .value Property.isAsync, .value Property.isConst,
    .edge Property.returnType] ++ genericTopics ++ parameterTopics

def memberTopics : List Topic :=
  [.text Property.name, .edge Property.hasMember, .edge Property.memberOf,
    .text Property.accessibility]

def methodTopics : List Topic :=
  [.function, .classOf Class.method, .value Property.isAbstract] ++ memberTopics ++
    signatureTopics ++ extraction.errorTopics

def functionTopics : List Topic :=
  [.text Property.fullName] ++ extraction.methodTopics ++ extraction.attributeTopics

def constantTopics : List Topic :=
  [.classOf Class.field, .classOf Class.constant, .value Property.isConst,
    .edge Property.fieldType] ++ memberTopics

def staticTopics : List Topic :=
  [.classOf Class.static, .value Property.isMutable, .edge Property.fieldType] ++ memberTopics

def fieldTopics : List Topic :=
  [.classOf Class.field, .edge Property.fieldType] ++ memberTopics

def variantTopics : List Topic :=
  [.classOf Class.enumVariant, .classOf Class.field, .text Property.name,
    .text Property.variantKind, .edge Property.hasVariant, .edge Property.variantField,
    .edge Property.fieldType]

def headerTopics : List Topic :=
  [.classOf Class.struct, .classOf Class.enum, .classOf Class.interface, .classOf Class.trait,
    .classOf Class.typeAlias, .classOf Class.union, .text Property.name, .text Property.fullName,
    .edge Property.definedInAssembly, .edge Property.inNamespace, .text Property.accessibility] ++
    extraction.attributeTopics

def typeTopics : List Topic :=
  [.edge Property.superTrait, .edge Property.relatedTo] ++ extraction.headerTopics ++
    fieldTopics ++ variantTopics ++ extraction.methodTopics ++ extraction.deriveTopics

def crateTopics : List Topic :=
  [.classOf Class.crate, .classOf Class.assembly, .text Property.name, .text Property.language,
    .text Property.version, .edge Property.dependsOn]

def moduleTopics : List Topic :=
  [.classOf Class.module, .classOf Class.container, .text Property.name, .text Property.fullName,
    .edge Property.definedInAssembly, .text Property.accessibility,
    .edge Property.parentNamespace]

def implementationTopics : List Topic :=
  [.classOf Class.traitImplementation, .classOf Class.inherentImplementation,
    .classOf Class.member, .edge Property.implementationFor, .edge Property.implementedTrait,
    .edge Property.implements] ++ extraction.methodTopics

/-- The topics of everything that is said of a crate. -/
def topics : List Topic :=
  crateTopics ++ moduleTopics ++ extraction.functionTopics ++ constantTopics ++ staticTopics ++
    extraction.typeTopics ++ extraction.implementationTopics

end Extraction

namespace Lexicon

variable {lexicon : Lexicon} {extraction : Extraction}

/-! ### Topics that depend on flags -/

theorem allows_attributeTopics (topic : lexicon.topic (.text Property.hasAttribute)) :
    lexicon.Allows extraction.attributeTopics := by
  unfold Extraction.attributeTopics
  split <;> simp [topic]

theorem allows_errorTopics (topic : lexicon.topic (.edge Property.errorType)) :
    lexicon.Allows extraction.errorTopics := by
  unfold Extraction.errorTopics
  split <;> simp [topic]

theorem allows_deriveTopics (topic : lexicon.topic (.text Property.derives)) :
    lexicon.Allows extraction.deriveTopics := by
  unfold Extraction.deriveTopics
  split <;> simp [topic]

namespace Allows

variable (allowed : lexicon.Allows extraction.methodTopics)
include allowed

theorem signature : lexicon.Allows Extraction.signatureTopics :=
  allowed.mono (by simp +contextual [Extraction.methodTopics])

theorem errors : lexicon.Allows extraction.errorTopics :=
  allowed.mono (by simp +contextual [Extraction.methodTopics])

end Allows

end Lexicon

end CrateGraph
