import CrateGraph.CommandLine.Run
import CrateGraph.Proofs.Document.Reports
import CrateGraph.Proofs.Extraction.AddressedDescriptions
import CrateGraph.Proofs.Extraction.WordedDescriptions
import CrateGraph.Proofs.Text.Utf8Writing

/-!
An accepted document is always written, and in text that UTF-8 can hold.

A document is asked once whether its texts are ordinary, before anything is read from it. Main
statement: that is enough. The extraction of a crate from an accepted document succeeds under every
ordinary base and in both formats, and each character that it writes is ASCII, or stands in the base
or in a text of the document.
-/

namespace CrateGraph

open Text (AllowsAscii IsAscii)

variable {allowed : Char → Prop}

/-! ### Addresses -/

namespace Iri

theorem isAscii_of_isAddressCharacter {character : Char}
    (ofAddress : isAddressCharacter character) : IsAscii character := by
  rw [isAddressCharacter, isSegmentCharacter, Bool.or_eq_true, Bool.or_eq_true] at ofAddress
  rcases ofAddress with (isAlphanum | mark) | mark
  · exact Text.isAscii_of_isAlphanum isAlphanum
  · simp at mark
    rcases mark with rfl | rfl | rfl | rfl | rfl | rfl
    all_goals decide
  · simp at mark
    rcases mark with rfl | rfl | rfl
    all_goals decide

/-- Whatever the texts of an address are, they are escaped, so only its base brings in characters
beyond ASCII. -/
theorem Minted.within (ascii : AllowsAscii allowed) {minter : Minter}
    (ofBase : Text.Within allowed minter.base) {texts : List String} {iri : String}
    (minted : Minted minter texts iri) : Text.Within allowed iri := by
  intro character member
  rcases minted.within_base_or_address character member with inBase | ofAddress
  · exact ofBase character inBase
  · exact ascii _ (isAscii_of_isAddressCharacter ofAddress)

theorem within_ofBase {base : String} (within : Text.Within allowed base) :
    Text.Within allowed (Minter.ofBase base).base := by
  intro character member
  rw [Minter.ofBase, String.toList_ofList, List.mem_reverse] at member
  have inBase := (List.dropWhile_sublist _).subset member
  exact within character (List.mem_reverse.mp inBase)

end Iri

/-! ### The vocabulary -/

/-- A text whose bytes are all ASCII is ASCII, which spares decoding it. -/
theorem Text.within_of_bytes {text : String}
    (plain : text.toUTF8.data.toList.all (·.toNat < 0x80)) : Text.Within IsAscii text := by
  intro character member
  rw [toList_data_toUTF8, List.all_eq_true] at plain
  rcases List.exists_mem_of_ne_nil (String.utf8EncodeChar character)
    String.utf8EncodeChar_ne_nil with ⟨byte, inBytes⟩
  have below := of_decide_eq_true (plain byte (List.mem_flatMap.mpr ⟨character, member, inBytes⟩))
  rcases Iri.toNat_of_mem_utf8EncodeChar inBytes with same | above
  · exact Nat.lt_of_le_of_lt (Nat.le_of_eq same.symm) below
  · exact absurd below (Nat.not_lt_of_le above)

theorem within_of_uses {flags : ExtractionFlags} {property : String} (uses : flags.Uses property) :
    Text.Within IsAscii property := by
  have plain : ∀ property ∈ plainProperties,
      property.toUTF8.data.toList.all (·.toNat < 0x80) := by decide +kernel
  rcases uses with isPlain | ⟨rfl, _⟩ | ⟨rfl, _⟩ | ⟨rfl, _⟩
  · exact Text.within_of_bytes (plain property isPlain)
  all_goals exact Text.within_of_bytes (by decide +kernel)

theorem within_of_mem_objectTerms {term : String} (member : term ∈ objectTerms) :
    Text.Within IsAscii term := by
  have terms : ∀ term ∈ objectTerms, term.toUTF8.data.toList.all (·.toNat < 0x80) := by
    decide +kernel
  exact Text.within_of_bytes (terms term member)

theorem within_of_mem_namespaceNames {name iri : String}
    (member : (name, iri) ∈ Ontology.namespaceNames) :
    Text.Within IsAscii name ∧ Text.Within IsAscii iri := by
  have each : ∀ entry ∈ Ontology.namespaceNames,
      entry.1.toUTF8.data.toList.all (·.toNat < 0x80) ∧
        entry.2.toUTF8.data.toList.all (·.toNat < 0x80) := by decide +kernel
  exact (each (name, iri) member).imp Text.within_of_bytes Text.within_of_bytes

/-! ### Runs -/

namespace Progress

theorem namespaceName_of_mem_runEntry {progress : Progress} {entry : Entry} {name iri : String}
    (said : .statement (.namespaceName name iri) ∈ (progress.runEntry entry).2) :
    entry = .namespaceName name iri := by
  have described : ∀ (progress : Progress) (steps : List Step),
      Event.statement (.namespaceName name iri) ∉ (progress.describe steps).2 := by
    intro progress steps member
    rcases List.mem_map.mp member with ⟨triple, _, same⟩
    cases same
  cases entry with
  | log record => simp [runEntry] at said
  | namespaceName other otherIri =>
      cases List.mem_singleton.mp said
      rfl
  | description steps => exact absurd said (described _ _)
  | module path steps =>
      rw [runEntry] at said
      split at said
      · cases said
      · exact absurd said (described _ _)
  | type iri fullPath steps =>
      rw [runEntry] at said
      split at said
      · simp at said
      · exact absurd said (described _ _)
  | implementation id target steps =>
      rw [runEntry] at said
      split at said
      · exact absurd said (described _ _)
      · simp at said
  | skippedImplementation reason => cases said

/-- A run names only the namespaces that its entries name. -/
theorem namespaceName_mem_of_mem_runEntries {progress : Progress} {entries : List Entry}
    {name iri : String}
    (said : .statement (.namespaceName name iri) ∈ (progress.runEntries entries).2) :
    .namespaceName name iri ∈ entries := by
  induction entries generalizing progress with
  | nil => cases said
  | cons entry rest induction =>
      rcases List.mem_append.mp said with now | later
      · rw [namespaceName_of_mem_runEntry now]
        exact List.mem_cons_self
      · exact List.mem_cons_of_mem _ (induction later)

end Progress

namespace Extraction

variable {extraction : Extraction}

theorem mem_namespaceNames_of_mem_outline {name iri : String}
    (member : .namespaceName name iri ∈ extraction.outline) :
    (name, iri) ∈ Ontology.namespaceNames := by
  rw [outline_eq, List.mem_append, List.mem_append] at member
  rcases member with (opening | walked) | closing
  · rcases (extraction.mem_opening_iff _).mp opening with
      ⟨_, _, listed, same⟩ | same | ⟨_, _, same⟩
    · cases same
      exact listed
    all_goals cases same
  · cases extraction.walkEntry_of_mem_walk walked
  · unfold Extraction.closing at closing
    split at closing
    · rcases List.mem_cons.mp closing with same | later
      · cases same
      · rcases List.mem_flatMap.mp later with ⟨_, _, own⟩
        rcases extraction.mem_implementationEntries_cases own with
          ⟨_, same⟩ | same | ⟨_, _, _, _, same⟩
        all_goals cases same
    · cases closing

/-- The statements of a run over the crate, whatever was written before it. -/
def statementsFrom (extraction : Extraction) (progress : Progress) : List Rdf.Statement :=
  (extraction.run progress).2.filterMap Event.statement?

/-- The record that completes a run is no statement. -/
theorem said_of_mem_statementsFrom {progress : Progress} {statement : Rdf.Statement}
    (handed : statement ∈ extraction.statementsFrom progress) :
    .statement statement ∈ (progress.runEntries extraction.outline).2 := by
  rcases List.mem_filterMap.mp handed with ⟨event, member, isStatement⟩
  cases event with
  | log => cases isStatement
  | statement =>
      cases isStatement
      rcases List.mem_append.mp member with inEntries | last
      · exact inEntries
      · cases List.mem_singleton.mp last

theorem mem_namespaceNames_of_mem_statementsFrom {progress : Progress} {name iri : String}
    (handed : .namespaceName name iri ∈ extraction.statementsFrom progress) :
    (name, iri) ∈ Ontology.namespaceNames :=
  mem_namespaceNames_of_mem_outline
    (Progress.namespaceName_mem_of_mem_runEntries (said_of_mem_statementsFrom handed))

/-- The texts that such a run writes in a format, one for each statement. -/
def writtenTexts (extraction : Extraction) (format : Rdf.Format) (progress : Progress) :
    List String :=
  ((Rdf.Writer.ofFormat format).addAll (extraction.statementsFrom progress)).2

section Readable

variable (ascii : AllowsAscii allowed) (ofBase : Text.Within allowed extraction.options.base)
include ascii ofBase

theorem IsMinted.within {iri : String} (minted : extraction.IsMinted iri) :
    Text.Within allowed iri := by
  rcases minted with ⟨texts, ofTexts⟩
  exact ofTexts.within ascii (Iri.within_ofBase ofBase)

theorem AddressedTriple.within {triple : Rdf.Triple}
    (addressed : extraction.AddressedTriple triple) :
    ∀ iri ∈ triple.iris, Text.Within allowed iri := by
  intro iri member
  rw [Rdf.Triple.iris, List.mem_cons, List.mem_cons] at member
  rcases member with rfl | rfl | inObject
  · exact addressed.subject.within ascii ofBase
  · exact ascii.within (within_of_uses addressed.property)
  · rcases addressed.object iri inObject with minted | isTerm
    · exact minted.within ascii ofBase
    · exact ascii.within (within_of_mem_objectTerms isTerm)

/-- What a run hands over is made of the characters of the base and of the crate's texts, and of
ASCII. -/
theorem within_of_mem_statementsFrom (readable : extraction.crate.Readable allowed)
    {progress : Progress} {statement : Rdf.Statement}
    (handed : statement ∈ extraction.statementsFrom progress) : statement.Within allowed := by
  have said := said_of_mem_statementsFrom handed
  cases statement with
  | namespaceName name iri =>
      have named := mem_namespaceNames_of_mem_statementsFrom handed
      exact (within_of_mem_namespaceNames named).imp ascii.within ascii.within
  | triple triple =>
      have mayBeWritten := progress.runEntries_subset_mayWrite extraction.outline
        (List.mem_filterMap.mpr ⟨.statement (.triple triple), said, rfl⟩)
      rcases List.mem_flatMap.mp mayBeWritten with ⟨step, own, written⟩
      rcases List.mem_flatMap.mp own with ⟨entry, member, inEntry⟩
      exact
        { iris := (extraction.addressedTriple_of_mem_outline member inEntry written).within
            ascii ofBase
          lexical := within_lexical_of_mem_outline ascii readable member inEntry written }

end Readable

end Extraction

/-! ### Documents -/

theorem Configuration.exists_options?_eq_some {configuration : Configuration}
    (ordinary : ∀ point ∈ configuration.base, point.isSurrogate = false) :
    ∃ options, configuration.options? = some options ∧
      configuration.base = WideText.ofString options.base := by
  rcases WideText.exists_toString?_eq_some ordinary with ⟨base, given⟩
  exact ⟨_, by rw [options?, given]; rfl, WideText.eq_ofString_of_toString? given⟩

/-! ### Sessions -/

namespace CommandLine.Session

theorem output_appendToLog (session : Session) (text : String) :
    (session.appendToLog text).output = session.output := by
  unfold appendToLog
  split <;> rfl

theorem output_log (session : Session) (record : LogRecord) :
    (session.log record).output = session.output := by
  unfold log
  split
  · rfl
  · exact output_appendToLog _ _

theorem output_logAll (session : Session) (records : List LogRecord) :
    (session.logAll records).output = session.output := by
  induction records generalizing session with
  | nil => rfl
  | cons record rest induction => exact (induction _).trans (session.output_log record)

/-- Beside the graph nothing goes to the standard output. -/
theorem output_extract (session : Session) (arguments : Arguments) (format : Rdf.Format)
    (extraction : Extraction) :
    (session.extract arguments format extraction .standard).output =
      session.output ++
        String.join (extraction.writtenTexts format (Progress.start extraction)) := by
  unfold extract
  dsimp only
  have afterGraph : ∀ (session : Session) (message : String),
      (if arguments.has .quiet then session else session.complain message).output =
        session.output := by
    intro session message
    split <;> rfl
  rw [afterGraph, output_log, write, print, output_logAll]
  rfl

end CommandLine.Session

/-! ### Accepted documents -/

/-- The character is ASCII, or it stands in the base or in a text of the document. -/
def IsSupplied (base : WideText) (document : Json WideText) (character : Char) : Prop :=
  IsAscii character ∨ .scalar character ∈ base ∨
    ∃ text ∈ document.texts, .scalar character ∈ text

theorem allowsAscii_isSupplied (base : WideText) (document : Json WideText) :
    AllowsAscii (IsSupplied base document) :=
  fun _ => Or.inl

theorem Json.within_isSupplied {base : WideText} {document : Json WideText} {value : Json String}
    (ordinary : document.narrow? = some value) : value.Within (IsSupplied base document) := by
  intro text listed character member
  refine Or.inr (Or.inr ⟨WideText.ofString text, ?_, List.mem_map_of_mem member⟩)
  rw [texts_of_narrow? document ordinary]
  exact List.mem_map_of_mem listed

theorem Crate.readable_of_accepted {strict : Bool} {source : String} {document : Json WideText}
    {crate : Crate}
    (accepted : (DocumentReport.ofJson strict source document).1.crate = some crate)
    (base : WideText) : crate.Readable (IsSupplied base document) := by
  rcases DocumentReport.ofJson_crate_eq_some_iff.mp accepted with ⟨value, ordinary, read⟩
  exact Crate.readable_of_ofJson (allowsAscii_isSupplied base document)
    (Json.within_isSupplied ordinary) read

namespace Extraction

/-- The graph of the crate is written out in the format without a fault, and in characters that
ASCII, the base and the document supply. -/
structure IsWrittenOut (document : Json WideText) (configuration : Configuration)
    (extraction : Extraction) (format : Rdf.Format) : Prop where
  succeeds : ∀ (session : CommandLine.Session) (arguments : CommandLine.Arguments) destination,
    arguments.format = some format →
      session.writeGraph arguments configuration extraction.crate destination =
        (.finished .success, session.extract arguments format extraction destination)
  output : ∀ (session : CommandLine.Session) (arguments : CommandLine.Arguments),
    (session.extract arguments format extraction .standard).output =
      session.output ++ String.join (extraction.writtenTexts format (Progress.start extraction))
  /-- Every implementation that the run goes through is found under its id. -/
  implementations : ∀ id body, (id, body) ∈ extraction.implementations →
    ∃ item, extraction.item? id = some item ∧ item.body = .implementation body
  encoded : ∀ progress, ∀ text ∈ extraction.writtenTexts format progress,
    Text.decodeUtf8 text.toUTF8.toList = .ok text
  supplied : ∀ progress, ∀ text ∈ extraction.writtenTexts format progress,
    Text.Within (IsSupplied configuration.base document) text

/-- No text of an accepted document holds a surrogate, and its crate is extracted under every
ordinary base and in both formats. -/
theorem accepted_document_is_extracted {strict : Bool} {source : String}
    {document : Json WideText} {crate : Crate}
    (accepted : (DocumentReport.ofJson strict source document).1.crate = some crate)
    {configuration : Configuration}
    (ordinary : ∀ point ∈ configuration.base, point.isSurrogate = false) :
    (∀ text ∈ document.texts, ∀ point ∈ text, point.isSurrogate = false) ∧
      ∃ options, configuration.options? = some options ∧
        ∀ format, IsWrittenOut document configuration ⟨crate, options⟩ format := by
  rcases DocumentReport.ofJson_crate_eq_some_iff.mp accepted with ⟨_, narrowed, _⟩
  rcases Configuration.exists_options?_eq_some ordinary with ⟨options, given, same⟩
  have ascii := allowsAscii_isSupplied configuration.base document
  have readable := Crate.readable_of_accepted accepted configuration.base
  have ofBase : Text.Within (IsSupplied configuration.base document) options.base := by
    intro character member
    rw [same]
    exact Or.inr (Or.inl (List.mem_map_of_mem member))
  refine ⟨Json.isSurrogate_of_narrow? narrowed, options, given, fun format => ?_⟩
  exact
    { succeeds := fun session arguments destination named => by
        simp only [CommandLine.Session.writeGraph, named, given]
      output := fun session arguments => session.output_extract arguments format _
      implementations := fun id body => (mem_implementations_iff _ id body).mp
      encoded := fun _ text _ => Text.decodeUtf8_toUTF8 text
      supplied := fun _ => Rdf.Writer.within_addAll ascii (Rdf.Draft.within_ofFormat format)
        fun _ => within_of_mem_statementsFrom ascii ofBase readable }

/-- The crate `größe`, with a struct of an unknown kind, an item of an unknown form, an entry of the
index that is no object, and a reference to an item that is not there. -/
def novelDocument : Json WideText :=
  let struct := .obj [("struct", .obj [("kind", .str "novel"), ("impls", .null)])]
  let root := .obj [("module", .obj [("items", .arr [.int 1, .int 2, .int 7])])]
  Json.widen (.obj
    [("root", .int 0),
      ("index", .obj
        [("0", .obj [("name", .str "größe"), ("inner", root)]),
          ("1", .obj [("name", .str "→"), ("inner", struct)]),
          ("2", .obj [("name", .int 2), ("inner", .obj [("novelty", .arr [])])]),
          ("3", .bool true)])])

def accentedBase : Configuration :=
  { ExtractionFlags.all with base := WideText.ofString "http://é.example/" }

theorem novelDocument_is_extracted :
    ∃ crate, (DocumentReport.ofJson false "novel.json" novelDocument).1.crate = some crate ∧
      (∀ point ∈ accentedBase.base, point.isSurrogate = false) ∧
      (∀ text ∈ novelDocument.texts, ∀ point ∈ text, point.isSurrogate = false) ∧
      ∃ options, accentedBase.options? = some options ∧
        ∀ format, IsWrittenOut novelDocument accentedBase ⟨crate, options⟩ format := by
  have isAccepted :
      (DocumentReport.ofJson false "novel.json" novelDocument).1.crate.isSome := by
    decide +kernel
  have ordinary : ∀ point ∈ accentedBase.base, point.isSurrogate = false := by decide +kernel
  rcases Option.isSome_iff_exists.mp isAccepted with ⟨crate, accepted⟩
  exact ⟨crate, accepted, ordinary, accepted_document_is_extracted accepted ordinary⟩

end Extraction

end CrateGraph
