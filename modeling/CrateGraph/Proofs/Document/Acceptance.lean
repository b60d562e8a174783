import CrateGraph.Proofs.Crate.ReadableCrates
import CrateGraph.Proofs.DistinctValues
import CrateGraph.Proofs.Document.Reports
import Mathlib.Algebra.Ring.Nat
import Mathlib.Data.List.Sort
import Mathlib.Data.String.Basic

/-!
Which documents are accepted, and what is then reported of them.

A document is a crate as soon as its texts are ordinary and it names a root; nothing further inside
can make the readers fail. Main statement: every other document is refused with one error, and of an
accepted one the index has the entries of the document in their order, while the items of unknown
kinds are reported by label, each label once.
-/

namespace CrateGraph

/-! ### Entries of a document -/

theorem Table.keys_ofEntries {Value : Type} (entries : Entries String Value) :
    (Table.ofEntries entries).keys = (entries.map Prod.fst).eraseDups := by
  induction entries using List.reverseRecOn with
  | nil => rfl
  | append_singleton earlier entry induction =>
      have inserted : Table.ofEntries (earlier ++ [entry]) =
          (Table.ofEntries earlier).insert entry.1 entry.2 := by
        simp [ofEntries]
      rw [inserted, keys, insert, Entries.keys_insert]
      rw [keys] at induction
      simp only [induction, List.map_append, List.map_cons, List.map_nil, eraseDups_concat,
        List.mem_eraseDups]

/-! ### Counted texts -/

section Counted

variable (texts : List String)

theorem keys_countEach :
    (countEach texts).map Prod.fst =
      texts.eraseDups.mergeSort fun left right => decide (left ≤ right) := by
  rw [countEach, List.map_map]
  exact List.map_id _

theorem ascending_countEach : ((countEach texts).map Prod.fst).Pairwise (· < ·) := by
  rw [keys_countEach]
  have sorted := List.pairwise_mergeSort' (· ≤ ·) texts.eraseDups
  have distinct := (List.mergeSort_perm texts.eraseDups
    fun left right => decide (left ≤ right)).nodup_iff.mpr (nodup_eraseDups texts)
  apply (sorted.and distinct).imp
  intro left right ordered
  exact lt_of_le_of_ne ordered.1 ordered.2

theorem mem_countEach_iff (text : String) (count : Nat) :
    (text, count) ∈ countEach texts ↔ 0 < count ∧ count = texts.count text := by
  simp only [countEach, List.mem_map, Prod.mk.injEq, List.mem_mergeSort, List.mem_eraseDups]
  constructor
  · intro listed
    rcases listed with ⟨_, member, rfl, rfl⟩
    exact ⟨List.count_pos_iff.mpr member, rfl⟩
  · intro occurs
    rcases occurs with ⟨positive, rfl⟩
    exact ⟨text, List.count_pos_iff.mp positive, rfl, rfl⟩

theorem total_countEach : ((countEach texts).map Prod.snd).sum = texts.length := by
  have sorting := List.mergeSort_perm texts.eraseDups fun left right => decide (left ≤ right)
  rw [countEach, List.map_map]
  exact (sorting.map _).sum_eq.trans (sum_map_count_eraseDups texts)

end Counted

/-! ### Labels of unknown kinds -/

def Item.isUnknown (item : Item) : Bool :=
  match item.body with
  | .unknown _ => true
  | _ => false

/-- Is the item of an unknown kind with this label? An absent or empty tag counts as missing. -/
def Item.hasLabel (label : String) (item : Item) : Bool :=
  match item.body with
  | .unknown none => label = "<missing>"
  | .unknown (some tag) => label = if tag = "" then "<missing>" else tag
  | _ => false

/-- The labels in ascending order, each with the number of its items in the index. -/
structure Crate.Tabulates (crate : Crate) (counted : List (String × Nat)) : Prop where
  ascending : (counted.map Prod.fst).Pairwise (· < ·)
  mem_iff : ∀ label count, (label, count) ∈ counted ↔
    0 < count ∧ count = crate.index.values.countP (Item.hasLabel label)
  total : (counted.map Prod.snd).sum = crate.index.values.countP Item.isUnknown

theorem unknownKind?_eq_some_iff (item : Item) (label : String) :
    unknownKind? item = some label ↔ item.hasLabel label := by
  unfold unknownKind? Item.hasLabel
  cases item.body with
  | unknown tag =>
      cases tag with
      | none => simp [@eq_comm _ label]
      | some tag =>
          by_cases empty : tag = "" <;> simp [Option.filter_some, empty, @eq_comm _ label]
  | _ => simp

theorem isSome_unknownKind? (item : Item) : (unknownKind? item).isSome = item.isUnknown := by
  unfold unknownKind? Item.isUnknown
  split <;> simp [*]

theorem count_unknownKinds (crate : Crate) (label : String) :
    (unknownKinds crate).count label = crate.index.values.countP (Item.hasLabel label) := by
  rw [unknownKinds, List.count_filterMap]
  congr 1
  funext item
  rw [Bool.eq_iff_iff, ← unknownKind?_eq_some_iff, beq_iff_eq]

theorem length_unknownKinds (crate : Crate) :
    (unknownKinds crate).length = crate.index.values.countP Item.isUnknown := by
  rw [unknownKinds, List.length_filterMap_eq_countP]
  simp only [isSome_unknownKind?]

theorem tabulates_countEach (crate : Crate) : crate.Tabulates (countEach (unknownKinds crate)) := by
  constructor
  · exact ascending_countEach _
  · intro label count
    rw [mem_countEach_iff, count_unknownKinds]
  · rw [total_countEach, length_unknownKinds]

/-! ### Acceptance -/

/-- Can the value be an id? Ids are written as texts or as whole numbers. -/
def Json.isId {Text : Type} : Json Text → Bool
  | .str _ | .int _ => true
  | _ => false

theorem Json.exists_id_iff (value : Json String) :
    (∃ id, value.id = .ok id) ↔ value.widen.isId := by
  cases value <;> simp [Json.id, widen, isId]

/-- No text of the document holds a surrogate, whether it is a key or a value and however deep it
stands. -/
def Json.IsOrdinary (document : Json WideText) : Prop :=
  ∀ text ∈ document.texts, ∀ point ∈ text, point.isSurrogate = false

/-- The document is an object with a root that can be an id. -/
def Json.NamesRoot (document : Json WideText) : Prop :=
  ∃ entries root, document = .obj entries ∧
    Entries.get? (WideText.ofString "root") entries = some root ∧ root.isId

/-- The keys of the object under `index`, if it is one, in their order. A key that comes twice
counts where it first stands. -/
def Json.indexKeys (document : Json WideText) : List WideText :=
  ((document.field (WideText.ofString "index")).record.map Prod.fst).eraseDups

theorem Json.namesRoot_iff (document : Json WideText) :
    document.NamesRoot ↔
      ∃ root, Entries.get? (WideText.ofString "root") document.record = some root ∧ root.isId := by
  cases document <;> simp [NamesRoot, record, Entries.get?]

/-- Once the root can be an id, no reader further inside fails. -/
theorem Crate.exists_ofJson_eq_ok_iff (value : Json String) :
    (∃ crate, Crate.ofJson value = .ok crate) ↔ value.widen.NamesRoot := by
  simp only [Crate.ofJson_eq_ok_iff]
  rw [Json.namesRoot_iff, Json.get?_record_widen]
  constructor
  · intro reading
    rcases reading with ⟨_, root, id, found, known, _⟩
    exact ⟨root.widen, by rw [found]; rfl, root.exists_id_iff.mp ⟨id, known⟩⟩
  · intro naming
    rcases naming with ⟨_, widened, isId⟩
    rcases Option.map_eq_some_iff.mp widened with ⟨root, found, rfl⟩
    rcases root.exists_id_iff.mpr isId with ⟨id, known⟩
    exact ⟨_, root, id, found, known, rfl⟩

namespace DocumentReport

theorem isSome_crate_iff (strict : Bool) (source : String) (document : Json WideText) :
    (ofJson strict source document).1.crate.isSome ↔
      document.IsOrdinary ∧ document.NamesRoot := by
  rw [Option.isSome_iff_exists]
  simp only [ofJson_crate_eq_some_iff]
  constructor
  · intro reading
    rcases reading with ⟨crate, value, narrowed, read⟩
    refine ⟨Json.isSurrogate_of_narrow? narrowed, ?_⟩
    rw [← Json.widen_of_narrow? document narrowed]
    exact (Crate.exists_ofJson_eq_ok_iff value).mp ⟨crate, read⟩
  · intro acceptable
    rcases acceptable with ⟨ordinary, namesRoot⟩
    rcases Json.exists_narrow?_eq_some document ordinary with ⟨value, narrowed⟩
    rw [← Json.widen_of_narrow? document narrowed] at namesRoot
    rcases (Crate.exists_ofJson_eq_ok_iff value).mpr namesRoot with ⟨crate, read⟩
    exact ⟨crate, value, narrowed, read⟩

theorem keys_index {strict : Bool} {source : String} {document : Json WideText} {crate : Crate}
    (isCrate : (ofJson strict source document).1.crate = some crate) :
    crate.index.keys.map WideText.ofString = document.indexKeys := by
  rcases ofJson_crate_eq_some_iff.mp isCrate with ⟨value, narrowed, read⟩
  rcases Crate.ofJson_eq_ok_iff.mp read with ⟨root, id, _, _, rfl⟩
  have keys : (Crate.ofFields id value).index.keys =
      ((value.field "index").record.map Prod.fst).eraseDups := by
    rw [Crate.ofFields, Crate.indexOfJson, Table.keys_ofEntries, List.map_map]
    rfl
  rw [keys, map_eraseDups WideText.ofString_injective, Json.indexKeys,
    ← Json.widen_of_narrow? document narrowed, Json.field_widen, Json.record_widen,
    Json.widenEntries_eq_map, List.map_map, List.map_map]
  rfl

/-- A document gives a crate exactly if its texts are ordinary and it names a root. If it gives
none, there is one error and no warning. If it gives one, the index has the keys of the document in
their order, and there is one message for each label of unknown kinds, in ascending order, which
says the label and the number of its items: an error in strict mode, else a warning. -/
theorem document_acceptance (strict : Bool) (source : String) (document : Json WideText) :
    ((ofJson strict source document).1.crate.isSome ↔
      document.IsOrdinary ∧ document.NamesRoot) ∧
    ((ofJson strict source document).1.crate = none →
      (ofJson strict source document).1.errors.length = 1 ∧
        (ofJson strict source document).1.warnings = []) ∧
    ∀ crate, (ofJson strict source document).1.crate = some crate →
      crate.index.keys.map WideText.ofString = document.indexKeys ∧
      ∃ counted messages, crate.Tabulates counted ∧
        messages = (counted.map fun (label, count) =>
          "Unrecognized item kind '" ++ label ++ "' (" ++ toString count ++
            " item(s)); left unextracted") ∧
        (ofJson strict source document).1.errors =
          (if strict then messages.map (⟨source, ·⟩) else []) ∧
        (ofJson strict source document).1.warnings =
          (if strict then [] else messages) ++ crate.missingRootWarnings := by
  refine ⟨isSome_crate_iff strict source document, ?_, ?_⟩
  · intro isNone
    rcases exists_eq_refused isNone with ⟨message, isRefused⟩
    rw [isRefused]
    exact ⟨rfl, rfl⟩
  · intro crate isCrate
    refine ⟨keys_index isCrate, countEach (unknownKinds crate), _, tabulates_countEach crate, rfl,
      ?_⟩
    rw [eq_accepted_of_crate isCrate, accepted, Crate.unknownKindMessages]
    exact ⟨rfl, rfl⟩

end DocumentReport

end CrateGraph
