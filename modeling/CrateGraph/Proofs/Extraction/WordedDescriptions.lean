import CrateGraph.Proofs.Crate.ReadableCrates
import CrateGraph.Proofs.Extraction.CoveredDescriptions
import CrateGraph.Proofs.Rdf.WrittenCharacters

/-!
The words of descriptions.

What a description says in plain text is a name, a path, an attribute or a version that the crate
gives, or a word of the description's own. Where the texts of a crate are made of allowed
characters, ASCII among them, so are all the texts that are said about it.
-/

namespace CrateGraph

open Text (AllowsAscii)

variable {allowed : Char → Prop}

/-! ### The texts of items -/

theorem Attribute.within_text? {written : Json String} (within : written.Within allowed)
    {text : String} (read : Attribute.text? written = some text) : Text.Within allowed text := by
  unfold Attribute.text? at read
  split at read
  · cases read
    exact (Json.within_str _).mp within
  · next tag payload =>
      have inside := (Json.within_obj _).mp within (tag, payload) List.mem_cons_self
      split at read
      · cases read
        exact (Json.within_str _).mp inside.2
      · cases read
        exact Text.within_text?_getD (inside.2.field "content") inside.1
  · cases read

theorem PathReference.Readable.within_path {reference : PathReference}
    (readable : reference.Readable allowed) : Text.Within allowed reference.path := by
  cases reference with
  | mk path id arguments =>
      rw [PathReference.Readable] at readable
      exact readable.1

theorem FunctionSignature.Readable.inputs {signature : FunctionSignature}
    (readable : signature.Readable allowed) :
    ∀ input ∈ signature.inputs, input.Readable allowed := by
  cases signature with
  | mk inputs output isVariadic =>
      rw [FunctionSignature.Readable] at readable
      exact readable.1

/-! ### Characters -/

/-- A lexicon that looks at the characters of texts alone. -/
def Lexicon.ofCharacters (allowed : Char → Prop) : Lexicon :=
  ofTexts (Text.Within allowed) fun text _ => Text.Within allowed text

namespace Lexicon

/-- The texts that a covered step can write, addresses left out, are made of allowed characters. -/
theorem Covers.within_lexical {step : Step} (covers : (ofCharacters allowed).Covers step)
    {triple : Rdf.Triple} (written : triple ∈ Progress.mayWrite step) {text : String}
    (lexical : text ∈ triple.object.lexical?) : Text.Within allowed text := by
  cases covers with
  | classOf | edge =>
      rw [List.mem_singleton.mp written] at lexical
      cases lexical
  | text _ _ word =>
      rw [List.mem_singleton.mp written] at lexical
      cases lexical
      exact word
  | value _ _ word =>
      rw [List.mem_singleton.mp written] at lexical
      cases lexical
      exact word
  | mention _ word =>
      simp only [Progress.mayWrite, Progress.stubNode, List.mem_cons, List.not_mem_nil,
        or_false] at written
      rcases written with rfl | rfl
      · cases lexical
      · cases lexical
        exact word
  | countFunction | countUnresolved => cases written

theorem suits_ofCharacters (ascii : AllowsAscii allowed) (extraction : Extraction) :
    (ofCharacters allowed).Suits extraction :=
  suits_ofTexts extraction (ascii.within (by decide : Text.Within Text.IsAscii "true"))
    fun number => ascii.within (Text.within_toString number)

/-! ### The words of a readable crate -/

theorem spells_bounds {bounds : List GenericBound}
    (readable : ∀ bound ∈ bounds, bound.Readable allowed) :
    (ofCharacters allowed).Spells (bounds.flatMap GenericBound.words) := by
  rw [spells_flatMap]
  intro bound member
  have ofBound := readable bound member
  cases bound with
  | trait =>
      rw [GenericBound.Readable] at ofBound
      exact (spells_cons _ _).mpr ⟨ofBound.1.within_path, spells_nil⟩
  | outlives | capture | unknown => exact spells_nil

theorem spells_genericParameter {parameter : GenericParameter}
    (readable : parameter.Readable allowed) :
    (ofCharacters allowed).Spells parameter.words := by
  rcases parameter with ⟨name, kind⟩
  rw [GenericParameter.Readable] at readable
  rw [GenericParameter.words, spells_cons]
  refine ⟨readable.1, ?_⟩
  cases kind with
  | type =>
      have ofKind := readable.2
      rw [GenericParameterKind.Readable] at ofKind
      exact spells_bounds ofKind.1
  | lifetime | const | unknown => exact spells_nil

theorem spells_generics {generics : Generics} (readable : generics.Readable allowed) :
    (ofCharacters allowed).Spells generics.words :=
  (spells_flatMap _ _).mpr fun parameter member =>
    spells_genericParameter (readable.1 parameter member)

theorem spells_functionBody {body : FunctionBody} (readable : body.Readable allowed) :
    (ofCharacters allowed).Spells body.words := by
  rw [FunctionBody.words, spells_append]
  refine ⟨spells_generics readable.generics, ?_⟩
  intro word member
  rcases List.mem_map.mp member with ⟨⟨name, type⟩, listed, rfl⟩
  have ofInput := readable.signature.inputs _ listed
  rw [FunctionInput.Readable] at ofInput
  exact ofInput.1

theorem spells_itemBody {body : ItemBody} (readable : body.Readable allowed) :
    (ofCharacters allowed).Spells body.words := by
  cases body with
  | struct | union | enum | typeAlias => exact spells_generics readable.generics
  | trait body =>
      exact (spells_append _ _).mpr
        ⟨spells_generics readable.generics, spells_bounds readable.bounds⟩
  | function => exact spells_functionBody readable
  | implementation body =>
      intro word member
      rcases List.mem_map.mp member with ⟨reference, given, rfl⟩
      exact (readable.trait reference (Option.mem_toList.mp given)).within_path
  | module | variant | reexport | constant | static | field | macroSource | associatedConstant
  | associatedType | unknown => exact spells_nil

theorem spells_item {item : Item} (readable : item.Readable allowed) :
    (ofCharacters allowed).Spells item.words := by
  rw [Item.words, spells_append, spells_append]
  refine ⟨⟨?_, ?_⟩, spells_itemBody readable.body⟩
  · intro name named
    exact readable.name name (Option.filter_eq_some_iff.mp (Option.mem_toList.mp named)).1
  · intro text member
    rcases List.mem_filterMap.mp member with ⟨written, given, read⟩
    exact Attribute.within_text? (readable.attributes written given) read

variable {extraction : Extraction} (readable : extraction.crate.Readable allowed)
include readable

theorem within_crateVersion (ascii : AllowsAscii allowed) :
    Text.Within allowed extraction.crateVersion := by
  unfold Extraction.crateVersion
  cases given : extraction.crate.version.filter (· != "") with
  | none => exact ascii.within (by decide)
  | some version => exact readable.version version (Option.filter_eq_some_iff.mp given).1

theorem knowsWords_ofCharacters (ascii : AllowsAscii allowed) :
    (ofCharacters allowed).KnowsWords extraction where
  own word member := by
    have plain : ∀ word ∈ ownWords, Text.Within Text.IsAscii word := by decide
    exact ascii.within (plain word member)
  extendPath ofPath ofName := by
    have separator : Text.Within allowed pathSeparator := ascii.within (by decide)
    exact (Text.within_append _ _).mpr ⟨(Text.within_append _ _).mpr ⟨ofPath, separator⟩, ofName⟩
  item found :=
    spells_item (readable.index (_, _) ((Table.mem_entries_iff _ _ _).mpr found)).2
  version := within_crateVersion readable ascii
  dependency listed := by
    rcases List.mem_map.mp listed with ⟨entry, member, rfl⟩
    exact (readable.externalCrates entry member).2.name

end Lexicon

namespace Extraction

variable {extraction : Extraction}

theorem within_lexical_of_mem_outline (ascii : AllowsAscii allowed)
    (readable : extraction.crate.Readable allowed) {entry : Entry}
    (member : entry ∈ extraction.outline) {step : Step} (inEntry : step ∈ entry.steps)
    {triple : Rdf.Triple} (written : triple ∈ Progress.mayWrite step) :
    ∀ text ∈ triple.object.lexical?, Text.Within allowed text :=
  fun _ lexical => (covers_of_mem_outline (Lexicon.suits_ofCharacters ascii extraction)
    (Lexicon.knowsNodes_ofTexts extraction) (Lexicon.knowsWords_ofCharacters readable ascii)
    (Lexicon.allows_ofTexts _) member step inEntry).within_lexical written lexical

end Extraction

end CrateGraph
