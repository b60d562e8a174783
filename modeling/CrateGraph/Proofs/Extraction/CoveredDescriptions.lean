import CrateGraph.Proofs.Extraction.Descriptions
import CrateGraph.Proofs.Extraction.Lexicon

/-!
Descriptions keep to every lexicon that has their topics.

There is one lemma for each kind of description, and it holds for all lexicons. Main statement: if a
lexicon has all topics, the nodes that descriptions make and the words of the crate, then it covers
every step that may be said of the crate.
-/

namespace CrateGraph

open Ontology

namespace Extraction

open Lexicon

variable {extraction : Extraction} {lexicon : Lexicon}

/-! ### Parts that several kinds of items share -/

@[simp] theorem covers_memberHeader {member owner name : String} {item : Item}
    (node : lexicon.node member) (known : lexicon.node owner)
    (leads : ∀ {node}, lexicon.node node → lexicon.target node)
    (allowed : lexicon.Allows memberTopics) (ofName : lexicon.word name)
    (own : lexicon.Spells ownWords) :
    lexicon.CoversAll (memberHeader member name owner item) := by
  simp only [memberTopics, allows_cons] at allowed
  have label := own _ (label_mem_ownWords item.visibility)
  simp [memberHeader, node, known, allowed, ofName, label, leads]

section Signatures

variable (suits : lexicon.Suits extraction)

section Subject

variable {subject property : String} (known : lexicon.node subject)
include suits known

@[simp] theorem covers_typeEdge (topic : lexicon.topic (.edge property)) (type : RustType) :
    lexicon.CoversAll (extraction.typeEdge subject property type) := by
  unfold typeEdge
  split
  · next target resolves => simp [known, topic, suits.type resolves]
  · simp

@[simp] theorem covers_optionalTypeEdge (topic : lexicon.topic (.edge property))
    (type : Option RustType) :
    lexicon.CoversAll (extraction.optionalTypeEdge subject property type) := by
  cases type with
  | none => exact coversAll_nil
  | some type => exact covers_typeEdge suits known topic type

omit suits in
@[simp] theorem covers_flag (truth : lexicon.value "true" Rdf.xsdBoolean)
    (topic : lexicon.topic (.value property)) (value : Bool) :
    lexicon.CoversAll (flag subject property value) := by
  cases value <;> simp [flag, known, topic, truth]

omit suits in
@[simp] theorem covers_attributes {item : Item}
    (allowed : lexicon.Allows extraction.attributeTopics) (spells : lexicon.Spells item.words) :
    lexicon.CoversAll (extraction.attributes item subject) := by
  intro step member
  unfold attributes at member
  split at member
  · next included =>
      rw [attributeTopics, if_pos included, allows_cons] at allowed
      rcases List.mem_filterMap.mp member with ⟨text, listed, said⟩
      split at said
      · cases said
      · cases said
        exact .text known allowed.1 (spells.attribute listed)
  · cases member

@[simp] theorem covers_boundEdges (topic : lexicon.topic (.edge property))
    {bounds : List GenericBound} (spells : lexicon.Spells (bounds.flatMap GenericBound.words)) :
    lexicon.CoversAll (extraction.boundEdges subject property bounds) := by
  apply coversAll_flatMap
  intro bound listed
  have ofBound := (spells_flatMap _ _).mp spells bound listed
  cases bound with
  | trait reference =>
      rw [GenericBound.words, spells_cons] at ofBound
      simp [known, topic, suits.reference reference, ofBound.1]
  | outlives | capture | unknown => exact coversAll_nil

@[simp] theorem covers_errorTypeEdge (allowed : lexicon.Allows extraction.errorTopics)
    (body : FunctionBody) : lexicon.CoversAll (extraction.errorTypeEdge subject body) := by
  unfold errorTypeEdge
  split
  · next included =>
      rw [errorTopics, if_pos included, allows_cons] at allowed
      exact covers_optionalTypeEdge suits known allowed.1 _
  · exact coversAll_nil

end Subject

/-! ### Signatures -/

include suits

@[simp] theorem covers_genericParameter {owner : String} (knows : lexicon.KnowsGenerics owner)
    (allowed : lexicon.Allows genericTopics) (ordinal : Nat) {parameter : GenericParameter}
    (spells : lexicon.Spells parameter.words) :
    lexicon.CoversAll (extraction.genericParameter owner ordinal parameter) := by
  have node := knows.typeParameter ordinal
  have bound : lexicon.topic (.edge Property.traitBound) := allowed.topic (by simp [genericTopics])
  have type : lexicon.topic (.edge Property.parameterType) :=
    allowed.topic (by simp [genericTopics])
  simp only [genericTopics, allows_cons] at allowed
  rcases parameter with ⟨name, kind⟩
  rw [GenericParameter.words, spells_cons] at spells
  cases kind with
  | type bounds =>
      simp [genericParameter, node, knows.self, allowed, spells.1, suits.numbers, suits.node,
        covers_boundEdges suits node bound spells.2]
  | lifetime =>
      simp [genericParameter, knows.lifetime name, knows.self, allowed, spells.1, suits.node]
  | const =>
      simp [genericParameter, node, knows.self, allowed, spells.1, suits.numbers, suits.node,
        covers_typeEdge suits node type]
  | unknown => exact coversAll_nil

@[simp] theorem covers_genericParameters {owner : String} (knows : lexicon.KnowsGenerics owner)
    (allowed : lexicon.Allows genericTopics) (ordinal : Nat) {parameters : List GenericParameter}
    (spells : lexicon.Spells (parameters.flatMap GenericParameter.words)) :
    lexicon.CoversAll (extraction.genericParameters owner ordinal parameters) := by
  rw [genericParameters_eq_flatMap]
  apply coversAll_flatMap
  intro numbered member
  exact covers_genericParameter suits knows allowed numbered.2
    ((spells_flatMap _ _).mp spells _ (List.fst_mem_of_mem_zipIdx member))

@[simp] theorem covers_generics {owner : String} (knows : lexicon.KnowsGenerics owner)
    (allowed : lexicon.Allows genericTopics) {generics : Generics}
    (spells : lexicon.Spells generics.words) :
    lexicon.CoversAll (extraction.generics generics owner) := by
  have isGeneric : lexicon.topic (.value Property.isGeneric) :=
    allowed.topic (by simp [genericTopics])
  rw [Extraction.generics, coversAll_append]
  exact ⟨covers_flag knows.self suits.truth isGeneric _,
    covers_genericParameters suits knows allowed 0 spells⟩

section Nodes

variable (nodes : lexicon.KnowsNodes extraction)
include nodes

@[simp] theorem covers_parameters {function : String} (known : lexicon.node function)
    (allowed : lexicon.Allows parameterTopics) (ordinal : Nat) {inputs : List FunctionInput}
    (spells : lexicon.Spells (inputs.map FunctionInput.name)) :
    lexicon.CoversAll (extraction.parameters function ordinal inputs) := by
  have type : lexicon.topic (.edge Property.parameterType) :=
    allowed.topic (by simp [parameterTopics])
  simp only [parameterTopics, allows_cons] at allowed
  rw [parameters_eq_flatMap]
  apply coversAll_flatMap
  rintro ⟨input, ordinal⟩ member
  have node := nodes.parameter known ordinal
  have ofName := spells _ (List.mem_map_of_mem
    (List.mem_of_mem_filter (List.fst_mem_of_mem_zipIdx member)))
  simp [parameter, node, known, allowed, ofName, suits.numbers, suits.node,
    covers_typeEdge suits node type]

@[simp] theorem covers_functionDetails {function : String} (known : lexicon.node function)
    (allowed : lexicon.Allows signatureTopics) {body : FunctionBody}
    (spells : lexicon.Spells body.words) :
    lexicon.CoversAll (extraction.functionDetails function body) := by
  have ofGenerics : lexicon.Allows genericTopics :=
    allowed.mono (by simp +contextual [signatureTopics])
  have ofParameters : lexicon.Allows parameterTopics :=
    allowed.mono (by simp +contextual [signatureTopics])
  simp only [signatureTopics, allows_append, allows_cons] at allowed
  rw [FunctionBody.words, spells_append] at spells
  simp [functionDetails, covers_flag known suits.truth, allowed,
    covers_generics suits (nodes.generics known) ofGenerics spells.1,
    covers_parameters suits nodes known ofParameters 0 spells.2,
    covers_optionalTypeEdge suits known]

end Nodes

end Signatures

/-! ### Items of modules -/

section Words

variable (suits : lexicon.Suits extraction) (nodes : lexicon.KnowsNodes extraction)
  (words : lexicon.KnowsWords extraction)
include suits nodes words

section Item

variable {item : Item} (spells : lexicon.Spells item.words) {path : String}
include spells

@[simp] theorem covers_moduleFunction (ofPath : lexicon.word path)
    (allowed : lexicon.Allows extraction.functionTopics) {body : FunctionBody}
    (ofBody : lexicon.Spells body.words) :
    lexicon.CoversAll (extraction.moduleFunction item body path) := by
  have ofMethod : lexicon.Allows extraction.methodTopics :=
    allowed.mono (by simp +contextual [functionTopics])
  have attributes : lexicon.Allows extraction.attributeTopics :=
    allowed.mono (by simp +contextual [functionTopics])
  simp only [functionTopics, methodTopics, memberTopics, allows_append, allows_cons] at allowed
  unfold moduleFunction
  split
  · exact coversAll_nil
  · next name named =>
      have owner := nodes.module path
      have node := nodes.member owner name
      have ofName := spells.name named
      have label := words.own _ (label_mem_ownWords item.visibility)
      simp [owner, node, allowed, ofName, label, words.extendPath ofPath ofName, suits.node,
        covers_attributes node attributes spells,
        covers_functionDetails suits nodes node ofMethod.signature ofBody,
        covers_errorTypeEdge suits node ofMethod.errors]

@[simp] theorem covers_constant (allowed : lexicon.Allows constantTopics) (body : ConstantBody) :
    lexicon.CoversAll (extraction.constant item body path) := by
  simp only [constantTopics, memberTopics, allows_append, allows_cons] at allowed
  unfold constant
  split
  · exact coversAll_nil
  · next name named =>
      have owner := nodes.module path
      have node := nodes.member owner name
      have label := words.own _ (label_mem_ownWords item.visibility)
      simp [owner, node, allowed, spells.name named, label, suits.node, suits.truth,
        covers_typeEdge suits node]

@[simp] theorem covers_static (allowed : lexicon.Allows staticTopics) (body : StaticBody) :
    lexicon.CoversAll (extraction.static item body path) := by
  have ofMember : lexicon.Allows memberTopics :=
    allowed.mono (by simp +contextual [staticTopics])
  simp only [staticTopics, allows_append, allows_cons] at allowed
  unfold static
  split
  · exact coversAll_nil
  · next name named =>
      have owner := nodes.module path
      have node := nodes.member owner name
      simp [node, allowed, covers_flag node suits.truth, covers_typeEdge suits node,
        covers_memberHeader node owner suits.node ofMember (spells.name named) words.own]

end Item

/-! ### Types -/

omit suits nodes in
theorem word_fieldName {id : ItemId} {item : Item} (found : extraction.item? id = some item) :
    lexicon.word (fieldName item) :=
  (words.item found).nameOr (words.own "unnamed" (by simp [ownWords]))

omit suits nodes in
theorem word_variantKind (fields : VariantFields) : lexicon.word (variantKind fields) := by
  cases fields <;> exact words.own _ (by simp [ownWords, variantKind])

section Owner

variable {owner : String} (known : lexicon.node owner)
include known

@[simp] theorem covers_method (allowed : lexicon.Allows extraction.methodTopics) (id : ItemId) :
    lexicon.CoversAll (extraction.method id owner) := by
  have ofMember : lexicon.Allows memberTopics :=
    allowed.mono (by simp +contextual [methodTopics])
  have isAbstract : lexicon.topic (.value Property.isAbstract) :=
    allowed.topic (by simp [methodTopics])
  unfold method
  split
  · exact coversAll_nil
  · next item found =>
      have spells := words.item found
      split
      · exact coversAll_nil
      · next name named =>
          have node := nodes.member known name
          simp only [coversAll_append, and_assoc]
          refine ⟨by simp [node, allowed.topic, methodTopics],
            covers_memberHeader node known suits.node ofMember (spells.name named) words.own, ?_⟩
          split
          · next body isFunction =>
              have ofBody := spells.body
              rw [isFunction] at ofBody
              simp [covers_functionDetails suits nodes node allowed.signature ofBody,
                covers_flag node suits.truth isAbstract,
                covers_errorTypeEdge suits node allowed.errors]
          · exact coversAll_nil

@[simp] theorem covers_field (allowed : lexicon.Allows fieldTopics) (id : ItemId) :
    lexicon.CoversAll (extraction.field owner id) := by
  have ofMember : lexicon.Allows memberTopics :=
    allowed.mono (by simp +contextual [fieldTopics])
  simp only [fieldTopics, allows_append, allows_cons] at allowed
  unfold field
  split
  · next item found =>
      split
      · have node := nodes.member known (fieldName item)
        simp [node, allowed, covers_typeEdge suits node,
          covers_memberHeader node known suits.node ofMember (word_fieldName words found) words.own]
      · exact coversAll_nil
  · exact coversAll_nil

@[simp] theorem covers_variantField (allowed : lexicon.Allows variantTopics) (id : ItemId) :
    lexicon.CoversAll (extraction.variantField owner id) := by
  simp only [variantTopics, allows_cons] at allowed
  unfold variantField
  split
  · next item found =>
      split
      · have node := nodes.member known (fieldName item)
        simp [node, known, allowed, word_fieldName words found, suits.node,
          covers_typeEdge suits node]
      · exact coversAll_nil
  · exact coversAll_nil

@[simp] theorem covers_variant (allowed : lexicon.Allows variantTopics) (id : ItemId) :
    lexicon.CoversAll (extraction.variant owner id) := by
  unfold variant
  split
  · exact coversAll_nil
  · next item found =>
      split
      · exact coversAll_nil
      · next name named =>
          have node := nodes.variant known name
          have kind : lexicon.topic (.text Property.variantKind) :=
            allowed.topic (by simp [variantTopics])
          have ofFields := covers_variantField suits nodes words node allowed
          simp only [variantTopics, allows_cons] at allowed
          rw [coversAll_append]
          refine ⟨by simp [node, known, allowed, (words.item found).name named, suits.node], ?_⟩
          split
          · next body _ =>
              rw [coversAll_cons]
              exact ⟨.text node kind (word_variantKind words body.fields),
                coversAll_flatMap fun fieldId _ => ofFields fieldId⟩
          · exact coversAll_nil

omit suits nodes in
@[simp] theorem covers_derives (allowed : lexicon.Allows extraction.deriveTopics)
    (implementations : List ItemId) :
    lexicon.CoversAll (extraction.derives owner implementations) := by
  unfold derives
  split
  · next included =>
      rw [deriveTopics, if_pos included, allows_cons] at allowed
      apply coversAll_flatMap
      intro id _
      split
      · exact coversAll_nil
      · next item found =>
          split
          · next body isImplementation =>
              split
              · next trait ofTrait =>
                  split
                  · have ofBody := (words.item found).body
                    rw [isImplementation] at ofBody
                    have ofPath := ofBody trait.path (by simp [ItemBody.words, ofTrait])
                    simp [known, allowed, ofPath]
                  · exact coversAll_nil
              · exact coversAll_nil
          · exact coversAll_nil
  · exact coversAll_nil

@[simp] theorem covers_typeDetails {body : ItemBody}
    (allowed : lexicon.Allows extraction.typeTopics) (spells : lexicon.Spells body.words) :
    lexicon.CoversAll (extraction.typeDetails owner body) := by
  have ofMethod : lexicon.Allows extraction.methodTopics :=
    allowed.mono (by simp +contextual [typeTopics])
  have ofField : lexicon.Allows fieldTopics := allowed.mono (by simp +contextual [typeTopics])
  have ofVariant : lexicon.Allows variantTopics := allowed.mono (by simp +contextual [typeTopics])
  have ofDerives : lexicon.Allows extraction.deriveTopics :=
    allowed.mono (by simp +contextual [typeTopics])
  have ofGenerics : lexicon.Allows genericTopics :=
    ofMethod.signature.mono (by simp +contextual [signatureTopics])
  have generics {generics : Generics} (spells : lexicon.Spells generics.words) :=
    covers_generics suits (nodes.generics known) ofGenerics spells
  have fields (ids : List ItemId) : lexicon.CoversAll (ids.flatMap (extraction.field owner)) :=
    coversAll_flatMap fun id _ => covers_field suits nodes words known ofField id
  have derives := covers_derives words known ofDerives
  cases body with
  | struct => simp [typeDetails, generics spells, fields, derives]
  | union => simp [typeDetails, generics spells, fields]
  | enum =>
      simp only [typeDetails, coversAll_append]
      exact ⟨⟨generics spells, coversAll_flatMap fun id _ =>
        covers_variant suits nodes words known ofVariant id⟩, derives _⟩
  | trait body =>
      rw [ItemBody.words, spells_append] at spells
      have isUnsafe : lexicon.topic (.value Property.isUnsafe) :=
        ofMethod.signature.topic (by simp [signatureTopics])
      have superTrait : lexicon.topic (.edge Property.superTrait) :=
        allowed.topic (by simp [typeTopics])
      simp only [typeDetails, coversAll_append]
      exact ⟨⟨⟨covers_flag known suits.truth isUnsafe _, generics spells.1⟩,
        covers_boundEdges suits known superTrait spells.2⟩,
        coversAll_flatMap fun id _ => covers_method suits nodes words known ofMethod id⟩
  | typeAlias =>
      have related : lexicon.topic (.edge Property.relatedTo) :=
        allowed.topic (by simp [typeTopics])
      simp [typeDetails, generics spells, covers_optionalTypeEdge suits known related]
  | module | variant | function | implementation | reexport | constant | static | field
  | macroSource | associatedConstant | associatedType | unknown => exact coversAll_nil

end Owner

omit suits nodes words in
theorem classOf_mem_headerTopics {body : ItemBody} {nodeClass : String}
    (listed : nodeClass ∈ typeClasses body) : .classOf nodeClass ∈ extraction.headerTopics := by
  cases body with
  | struct | enum | trait | typeAlias | union =>
      simp only [typeClasses, List.mem_cons, List.not_mem_nil, or_false] at listed
      rcases listed with rfl | rfl
      all_goals simp [headerTopics]
  | module | variant | function | implementation | reexport | constant | static | field
  | macroSource | associatedConstant | associatedType | unknown => cases listed

@[simp] theorem covers_typeHeader {type name path : String} {item : Item}
    (known : lexicon.node type) (allowed : lexicon.Allows extraction.headerTopics)
    (spells : lexicon.Spells item.words) (ofName : lexicon.word name)
    (ofPath : lexicon.word path) (body : ItemBody) :
    lexicon.CoversAll (extraction.typeHeader type name path item (typeClasses body)) := by
  have attributes : lexicon.Allows extraction.attributeTopics :=
    allowed.mono (by simp +contextual [headerTopics])
  have classes : lexicon.CoversAll ((typeClasses body).map (Step.iri type Property.type ·)) := by
    intro step member
    rcases List.mem_map.mp member with ⟨nodeClass, listed, rfl⟩
    exact .classOf known (allowed _ (classOf_mem_headerTopics listed))
  have label := words.own _ (label_mem_ownWords item.visibility)
  simp only [headerTopics, allows_append, allows_cons] at allowed
  simp [typeHeader, classes, known, allowed, ofName, words.extendPath ofPath ofName, label,
    suits.node, nodes.module, nodes.crate, crateIri, covers_attributes known attributes spells]

/-! ### Crates and modules -/

omit suits in
@[simp] theorem covers_crateNode (allowed : lexicon.Allows crateTopics)
    (ofName : lexicon.word extraction.crateName) : lexicon.CoversAll extraction.crateNode := by
  have node : lexicon.node extraction.crateIri := nodes.crate _ _
  have language : lexicon.word languageName := words.own _ (by simp [ownWords, languageName])
  simp only [crateTopics, allows_cons] at allowed
  simp [crateNode, node, allowed, ofName, language, words.version]

@[simp] theorem covers_dependency (allowed : lexicon.Allows crateTopics) {external : ExternalCrate}
    (listed : external ∈ extraction.crate.externalCrates.values) :
    lexicon.CoversAll (extraction.dependency external) := by
  simp only [crateTopics, allows_cons] at allowed
  unfold dependency
  split
  · exact coversAll_nil
  · simp [crateIri, nodes.crate, allowed, suits.node, words.dependency listed]

@[simp] theorem covers_moduleNode (allowed : lexicon.Allows moduleTopics) {item : Item}
    (spells : lexicon.Spells item.words) {path : String} (ofPath : lexicon.word path) :
    lexicon.CoversAll (extraction.moduleNode path item) := by
  have label := words.own _ (label_mem_ownWords item.visibility)
  simp only [moduleTopics, allows_cons] at allowed
  unfold moduleNode
  rw [coversAll_append]
  constructor
  · simp [nodes.module, allowed, spells.nameOr ofPath, ofPath, label, suits.node, nodes.crate,
      crateIri]
  · split <;> simp [nodes.module, allowed, suits.node]

/-! ### Implementations -/

@[simp] theorem covers_implementationMember {owner : String} (known : lexicon.node owner)
    (allowed : lexicon.Allows extraction.implementationTopics) (id : ItemId) :
    lexicon.CoversAll (extraction.implementationMember owner id) := by
  have ofMethod : lexicon.Allows extraction.methodTopics :=
    allowed.mono (by simp +contextual [implementationTopics])
  simp only [implementationTopics, methodTopics, memberTopics, allows_append, allows_cons]
    at allowed
  unfold implementationMember
  split
  · exact coversAll_nil
  · next item found =>
      have associated {name : String} (named : item.properName? = some name) :
          lexicon.CoversAll
            [.iri (Iri.member owner name "") Property.type Class.member,
              .literal (Iri.member owner name "") Property.name name,
              .iri owner Property.hasMember (Iri.member owner name "")] := by
        simp [known, nodes.member known name, allowed, (words.item found).name named, suits.node]
      split
      · exact covers_method suits nodes words known ofMethod id
      · split
        · exact coversAll_nil
        · next name named => exact associated named
      · split
        · exact coversAll_nil
        · next name named => exact associated named
      · exact coversAll_nil

@[simp] theorem covers_implementationNode {target : String} (known : lexicon.node target)
    (allowed : lexicon.Allows extraction.implementationTopics) (id : ItemId)
    {body : ImplementationBody}
    (spells : lexicon.Spells (ItemBody.implementation body).words) :
    lexicon.CoversAll (extraction.implementationNode id target body) := by
  have node := nodes.implementation id
  have members {owner : String} (known : lexicon.node owner) :
      lexicon.CoversAll (body.items.flatMap (extraction.implementationMember owner)) :=
    coversAll_flatMap fun memberId _ =>
      covers_implementationMember suits nodes words known allowed memberId
  simp only [implementationTopics, allows_append, allows_cons] at allowed
  unfold implementationNode
  split
  · next trait ofTrait =>
      have ofPath := spells trait.path (by simp [ItemBody.words, ofTrait])
      simp [node, known, allowed, suits.node, suits.reference trait, ofPath, members node]
  · simp [node, known, allowed, suits.node, members known]

/-! ### The whole outline -/

section Outline

variable (allowed : lexicon.Allows extraction.topics)

@[simp] theorem covers_typeEntry (allowed : lexicon.Allows extraction.typeTopics) {item : Item}
    (spells : lexicon.Spells item.words) {path name : String} (ofPath : lexicon.word path)
    (named : item.properName? = some name) :
    lexicon.CoversAll (extraction.typeEntry path name item).steps := by
  have header : lexicon.Allows extraction.headerTopics :=
    allowed.mono (by simp +contextual [typeTopics])
  have node := nodes.type (extendPath path name)
  rw [typeEntry, Entry.steps, coversAll_append]
  exact ⟨covers_typeHeader suits nodes words node header spells (spells.name named) ofPath _,
    covers_typeDetails suits nodes words node allowed spells.body⟩

omit suits nodes in
theorem word_crateName : lexicon.word extraction.crateName := by
  have otherwise : lexicon.word Crate.unnamed := words.own _ (by simp [ownWords, Crate.unnamed])
  unfold crateName Crate.name
  cases found : extraction.crate.rootItem? with
  | none => exact otherwise
  | some item => exact (words.item found).nameOr otherwise

omit suits nodes in
/-- The paths of the walk are made of the name of the crate and those of its modules. -/
theorem word_path_of_reached {stop : Stop}
    (reached : Relation.ReflTransGen extraction.Descends extraction.rootStop stop) :
    lexicon.word stop.path := by
  have otherwise : lexicon.word unnamedModule := words.own _ (by simp [ownWords, unnamedModule])
  induction reached with
  | refl => exact word_crateName words
  | @tail _ inner _ descends induction =>
      rw [descends.path_eq]
      refine words.extendPath induction ?_
      unfold moduleName
      cases found : extraction.item? inner.id with
      | none => exact otherwise
      | some item => exact (words.item found).nameOr otherwise

include allowed

theorem covers_of_mem_walk {entry : Entry} (member : entry ∈ extraction.walk) :
    lexicon.CoversAll entry.steps := by
  by_cases isLog : ∃ record, entry = .log record
  · rcases isLog with ⟨record, rfl⟩
    exact coversAll_nil
  · -- An entry does not tell where its path comes from, but the stop at which it is said does.
    have said : ∀ record, entry ≠ .log record := fun record equal => isLog ⟨record, equal⟩
    rcases extraction.exists_stop_of_mem_moduleEntries said _ _ _ member with ⟨stop, reached, own⟩
    have ofPath := word_path_of_reached words reached
    rcases (extraction.mem_stopEntries_iff stop entry).mp own with
      ⟨outer, body, found, _, ⟨_, rfl⟩ | ⟨child, _, childItem, childFound, ofChild⟩⟩
    · exact covers_moduleNode suits nodes words
        (allowed.mono (by simp +contextual [topics])) (words.item found) ofPath
    · have spells := words.item childFound
      rcases (extraction.mem_itemEntries_iff childItem stop.path entry).mp ofChild with
        ⟨body, isFunction, rfl⟩ | ⟨body, _, rfl⟩ | ⟨body, _, rfl⟩ | ⟨name, _, named, rfl⟩
      · have ofBody := spells.body
        rw [isFunction] at ofBody
        exact covers_moduleFunction suits nodes words spells ofPath
          (allowed.mono (by simp +contextual [topics])) ofBody
      · exact covers_constant suits nodes words spells
          (allowed.mono (by simp +contextual [topics])) body
      · exact covers_static suits nodes words spells
          (allowed.mono (by simp +contextual [topics])) body
      · exact covers_typeEntry suits nodes words (allowed.mono (by simp +contextual [topics]))
          spells ofPath named

theorem covers_of_mem_closing {entry : Entry} (member : entry ∈ extraction.closing) :
    lexicon.CoversAll entry.steps := by
  unfold closing at member
  split at member
  · rcases List.mem_cons.mp member with rfl | later
    · exact coversAll_nil
    · rcases List.mem_flatMap.mp later with ⟨⟨id, body⟩, listed, own⟩
      rcases extraction.mem_implementationEntries_cases own with
        ⟨_, rfl⟩ | rfl | ⟨target, _, _, resolves, rfl⟩
      · exact coversAll_nil
      · simp [Entry.steps]
      · rcases (extraction.mem_implementations_iff id body).mp listed with
          ⟨item, found, isImplementation⟩
        have spells := (words.item found).body
        rw [isImplementation] at spells
        exact covers_implementationNode suits nodes words (nodes.resolved resolves)
          (allowed.mono (by simp +contextual [topics])) id spells
  · cases member

theorem covers_of_mem_outline {entry : Entry} (member : entry ∈ extraction.outline) :
    lexicon.CoversAll entry.steps := by
  have ofCrate : lexicon.Allows crateTopics := allowed.mono (by simp +contextual [topics])
  rw [outline_eq, List.mem_append, List.mem_append] at member
  rcases member with (opening | walked) | closing
  · rcases (extraction.mem_opening_iff entry).mp opening with
      ⟨_, _, _, rfl⟩ | rfl | ⟨external, listed, rfl⟩
    · exact coversAll_nil
    · exact covers_crateNode nodes words ofCrate (word_crateName words)
    · exact covers_dependency suits nodes words ofCrate listed
  · exact covers_of_mem_walk suits nodes words allowed walked
  · exact covers_of_mem_closing suits nodes words allowed closing

end Outline

end Words

end Extraction

end CrateGraph
