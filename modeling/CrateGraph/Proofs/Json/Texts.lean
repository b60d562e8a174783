import CrateGraph.Crate.Fields
import CrateGraph.Proofs.Text.Characters

/-!
The texts of a JSON value: its keys and the texts among its values, at any depth.

The conventions for records, unions and ids only ever give out texts of the value that they read,
and displaying a value brings in nothing but ASCII.
-/

namespace CrateGraph

theorem WideText.eq_ofString_of_toString? {text : WideText} {plain : String}
    (ordinary : text.toString? = some plain) : text = WideText.ofString plain := by
  rcases Option.map_eq_some_iff.mp ordinary with ⟨characters, given, rfl⟩
  rw [WideText.ofString, String.toList_ofList]
  induction text generalizing characters with
  | nil =>
      cases given
      rfl
  | cons point rest induction =>
      simp only [List.mapM_cons, Option.bind_eq_bind, Option.bind_eq_some_iff] at given
      rcases given with ⟨character, isScalar, others, othersGiven, same⟩
      cases same
      cases point with
      | scalar own =>
          cases isScalar
          simp [← induction others othersGiven (by simp [WideText.toString?, othersGiven])]
      | surrogate => cases isScalar

theorem WideText.ofString_injective : Function.Injective ofString := by
  intro left right same
  have characters : left.toList = right.toList :=
    (List.map_inj_right fun _ _ => CodePoint.scalar.inj).mp same
  exact String.toList_inj.mp characters

theorem WideText.exists_toString?_eq_some {text : WideText}
    (ordinary : ∀ point ∈ text, point.isSurrogate = false) :
    ∃ plain, text.toString? = some plain := by
  have characters : ∃ characters, text.mapM CodePoint.toChar? = some characters := by
    induction text with
    | nil => exact ⟨[], rfl⟩
    | cons point rest induction =>
        rw [List.forall_mem_cons] at ordinary
        rcases induction ordinary.2 with ⟨characters, given⟩
        cases point with
        | scalar character => exact ⟨character :: characters, by simp [CodePoint.toChar?, given]⟩
        | surrogate offset => cases ordinary.1
  rcases characters with ⟨characters, given⟩
  exact ⟨String.ofList characters, by rw [toString?, given]; rfl⟩

namespace Json

/-! ### Texts -/

/-- The keys and texts of a value, from outside to inside. -/
def texts {Text : Type} : Json Text → List Text
  | .str value => [value]
  | .arr items => items.flatMap fun item => item.texts
  | .obj entries => entries.flatMap fun entry => entry.1 :: entry.2.texts
  | _ => []
decreasing_by
  · decreasing_tactic
  · next member =>
      have bound := List.sizeOf_lt_of_mem member
      have : sizeOf entry.2 < sizeOf entry := by
        cases entry
        simp +arith
      simp only [Json.obj.sizeOf_spec]
      omega

/-- Every character of every text of the value is allowed. -/
def Within (allowed : Char → Prop) (value : Json String) : Prop :=
  ∀ text ∈ value.texts, Text.Within allowed text

variable {allowed : Char → Prop}

@[simp] theorem within_true (value : Json String) : value.Within fun _ => True :=
  fun text _ => Text.within_true text

@[simp] theorem within_null : Within allowed .null := by
  simp [Within, texts]

@[simp] theorem within_str (text : String) :
    Within allowed (.str text) ↔ Text.Within allowed text := by
  simp [Within, texts]

@[simp] theorem within_arr (items : List (Json String)) :
    Within allowed (.arr items) ↔ ∀ item ∈ items, item.Within allowed := by
  constructor
  · intro within item member text listed
    exact within text (by rw [texts]; exact List.mem_flatMap.mpr ⟨item, member, listed⟩)
  · intro within text listed
    rw [texts] at listed
    rcases List.mem_flatMap.mp listed with ⟨item, member, own⟩
    exact within item member text own

@[simp] theorem within_obj (entries : List (String × Json String)) :
    Within allowed (.obj entries) ↔
      ∀ entry ∈ entries, Text.Within allowed entry.1 ∧ entry.2.Within allowed := by
  constructor
  · intro within entry member
    refine ⟨within entry.1 ?_, fun text listed => within text ?_⟩
    all_goals
      rw [texts]
      exact List.mem_flatMap.mpr ⟨entry, member, by simp_all⟩
  · intro within text listed
    rw [texts] at listed
    rcases List.mem_flatMap.mp listed with ⟨entry, member, own⟩
    rcases List.mem_cons.mp own with rfl | inside
    · exact (within entry member).1
    · exact (within entry member).2 text inside

/-! ### Parts of a value -/

section Parts

variable {value : Json String} (within : value.Within allowed)
include within

theorem Within.of_text? {text : String} (given : value.text? = some text) :
    Text.Within allowed text := by
  cases value with
  | str => simpa [text?, ← Option.some.inj given] using within
  | null | bool | int | float | arr | obj => cases given

theorem Within.of_mem_items {item : Json String} (member : item ∈ value.items) :
    item.Within allowed := by
  cases value with
  | arr items => exact (within_arr items).mp within item member
  | null | bool | int | float | str | obj => cases member

theorem Within.of_mem_record {entry : String × Json String} (member : entry ∈ value.record) :
    Text.Within allowed entry.1 ∧ entry.2.Within allowed := by
  cases value with
  | obj entries => exact (within_obj entries).mp within entry member
  | null | bool | int | float | str | arr => cases member

theorem Within.of_get? {key : String} {inner : Json String}
    (found : Entries.get? key value.record = some inner) : inner.Within allowed :=
  (within.of_mem_record (Entries.mem_of_get? found)).2

theorem Within.field (key : String) : (value.field key).Within allowed := by
  unfold Json.field
  cases found : Entries.get? key value.record with
  | none => exact within_null
  | some inner => exact within.of_get? found

theorem Within.either (first second : String) : (value.either first second).Within allowed := by
  unfold Json.either
  cases found : Entries.get? first value.record with
  | none => exact within.field second
  | some inner => exact within.of_get? found

theorem Within.of_given? {key : String} {inner : Json String}
    (given : value.given? key = some inner) : inner.Within allowed := by
  have ofField := within.field key
  unfold Json.given? at given
  split at given
  · cases given
  · cases given
    exact ofField

theorem Within.of_string? {names : List String} {text : String}
    (given : value.string? names = some text) : Text.Within allowed text := by
  rcases List.exists_of_findSome?_eq_some given with ⟨name, _, found⟩
  exact (within.field name).of_text? found

theorem Within.string (names : List String) : Text.Within allowed (value.string names) := by
  unfold Json.string
  cases given : value.string? names with
  | none => exact Text.within_empty
  | some text => exact within.of_string? given

theorem Within.of_mem_list {key : String} {item : Json String} (member : item ∈ value.list key) :
    item.Within allowed :=
  (within.field key).of_mem_items member

theorem Within.of_mem_strings {key text : String} (member : text ∈ value.strings key) :
    Text.Within allowed text := by
  rcases List.mem_filterMap.mp member with ⟨item, listed, given⟩
  exact (within.of_mem_list listed).of_text? given

theorem Within.of_tagged? {tag : String} {payload : Json String}
    (tagged : value.tagged? = some (tag, payload)) :
    Text.Within allowed tag ∧ payload.Within allowed := by
  unfold Json.tagged? at tagged
  split at tagged
  · cases tagged
    simpa using within
  · cases tagged
    exact (within_obj _).mp within _ List.mem_cons_self
  · cases tagged

end Parts

/-! ### Displayed values -/

theorem Within.of_id? (ascii : Text.AllowsAscii allowed) {value : Json String}
    (within : value.Within allowed) {id : ItemId} (given : value.id? = some id) :
    Text.Within allowed id := by
  cases value with
  | str text => simpa [id?, Json.id, ← Option.some.inj given] using within
  | int number =>
      rw [← Option.some.inj given]
      exact (Text.within_toString number).mono ascii
  | null | bool | float | arr | obj => cases given

theorem Within.of_mem_ids (ascii : Text.AllowsAscii allowed) {value : Json String}
    (within : value.Within allowed) {id : ItemId} (member : id ∈ value.ids) :
    Text.Within allowed id := by
  rcases List.mem_filterMap.mp member with ⟨item, listed, given⟩
  exact (within.of_mem_items listed).of_id? ascii given

theorem Within.of_some_mem_optionalIds (ascii : Text.AllowsAscii allowed) {value : Json String}
    (within : value.Within allowed) {id : ItemId} (member : some id ∈ value.optionalIds) :
    Text.Within allowed id := by
  rcases List.mem_map.mp member with ⟨item, listed, given⟩
  exact (within.of_mem_items listed).of_id? ascii given

mutual

theorem within_display (ascii : Text.AllowsAscii allowed)
    (value : Json String) (within : value.Within allowed) :
    Text.Within allowed (value.display Text.quoted) := by
  have plain : ∀ text, Text.Within Text.IsAscii text → Text.Within allowed text :=
    fun text written => written.mono ascii
  cases value with
  | null => exact plain _ (by decide)
  | bool value => exact plain _ (by cases value <;> decide)
  | int number => exact plain _ (Text.within_toString number)
  | float value => exact plain _ (Decimal.Layout.within_writeFloat _ value)
  | str text => exact Text.within_quoted ascii ((within_str text).mp within)
  | arr items =>
      have inside := within_displayItems ascii items ((within_arr items).mp within)
      have listed := Text.within_intercalate (plain ", " (by decide)) inside
      simp only [display, Text.within_append]
      exact ⟨⟨plain _ (by decide), listed⟩, plain _ (by decide)⟩
  | obj entries =>
      have inside := within_displayEntries ascii entries ((within_obj entries).mp within)
      have listed := Text.within_intercalate (plain ", " (by decide)) inside
      simp only [display, Text.within_append]
      exact ⟨⟨plain _ (by decide), listed⟩, plain _ (by decide)⟩

theorem within_displayItems (ascii : Text.AllowsAscii allowed) (items : List (Json String))
    (within : ∀ item ∈ items, item.Within allowed) :
    ∀ text ∈ displayItems Text.quoted items, Text.Within allowed text := by
  cases items with
  | nil => simp [displayItems]
  | cons item rest =>
      have first := within_display ascii item (within item List.mem_cons_self)
      have others := within_displayItems ascii rest fun item member =>
        within item (List.mem_cons_of_mem _ member)
      simpa [displayItems] using ⟨first, others⟩

theorem within_displayEntries (ascii : Text.AllowsAscii allowed)
    (entries : List (String × Json String))
    (within : ∀ entry ∈ entries, Text.Within allowed entry.1 ∧ entry.2.Within allowed) :
    ∀ text ∈ displayEntries Text.quoted entries, Text.Within allowed text := by
  cases entries with
  | nil => simp [displayEntries]
  | cons entry rest =>
      obtain ⟨key, value⟩ := entry
      have own := within (key, value) List.mem_cons_self
      have key := Text.within_quoted ascii own.1
      have colon : Text.Within allowed ": " := ascii.within (by decide)
      have value := within_display ascii value own.2
      have others := within_displayEntries ascii rest fun entry member =>
        within entry (List.mem_cons_of_mem _ member)
      simpa [displayEntries, key, colon, value] using others

end

theorem Within.plainText (ascii : Text.AllowsAscii allowed)
    {value : Json String} (within : value.Within allowed) :
    Text.Within allowed value.plainText := by
  cases value with
  | str text => exact (within_str text).mp within
  | null | bool | int | float | arr | obj => exact within_display ascii _ within

/-! ### Values whose texts are all ordinary -/

mutual

/-- Narrowing a value narrows each of its texts. -/
theorem texts_of_narrow? (value : Json WideText) {narrowed : Json String}
    (ordinary : value.narrow? = some narrowed) :
    value.texts = narrowed.texts.map WideText.ofString := by
  cases value with
  | null | bool | int | float =>
      simp only [narrow?, Option.some.injEq] at ordinary
      subst ordinary
      simp [texts]
  | str text =>
      rcases Option.map_eq_some_iff.mp ordinary with ⟨plain, given, rfl⟩
      simp [texts, WideText.eq_ofString_of_toString? given]
  | arr items =>
      rcases Option.map_eq_some_iff.mp ordinary with ⟨inside, given, rfl⟩
      simpa [texts] using texts_of_narrowItems? items given
  | obj entries =>
      rcases Option.map_eq_some_iff.mp ordinary with ⟨inside, given, rfl⟩
      simpa [texts] using texts_of_narrowEntries? entries given

theorem texts_of_narrowItems? (items : List (Json WideText)) {narrowed : List (Json String)}
    (ordinary : narrowItems? items = some narrowed) :
    items.flatMap texts = (narrowed.flatMap texts).map WideText.ofString := by
  cases items with
  | nil =>
      cases ordinary
      rfl
  | cons item rest =>
      simp only [narrowItems?, Option.bind_eq_bind, Option.bind_eq_some_iff] at ordinary
      rcases ordinary with ⟨first, firstGiven, others, othersGiven, same⟩
      cases same
      simp [texts_of_narrow? item firstGiven, texts_of_narrowItems? rest othersGiven]

theorem texts_of_narrowEntries? (entries : List (WideText × Json WideText))
    {narrowed : List (String × Json String)} (ordinary : narrowEntries? entries = some narrowed) :
    entries.flatMap (fun entry => entry.1 :: entry.2.texts) =
      (narrowed.flatMap fun entry => entry.1 :: entry.2.texts).map WideText.ofString := by
  cases entries with
  | nil =>
      cases ordinary
      rfl
  | cons entry rest =>
      obtain ⟨key, value⟩ := entry
      simp only [narrowEntries?, Option.bind_eq_bind, Option.bind_eq_some_iff] at ordinary
      rcases ordinary with ⟨name, nameGiven, first, firstGiven, others, othersGiven, same⟩
      cases same
      simp [WideText.eq_ofString_of_toString? nameGiven, texts_of_narrow? value firstGiven,
        texts_of_narrowEntries? rest othersGiven]

end

/-- What can be narrowed holds no surrogate, at whatever depth its texts stand. -/
theorem isSurrogate_of_narrow? {document : Json WideText} {value : Json String}
    (ordinary : document.narrow? = some value) :
    ∀ text ∈ document.texts, ∀ point ∈ text, point.isSurrogate = false := by
  rw [texts_of_narrow? document ordinary, List.forall_mem_map]
  intro text _ point member
  rcases List.mem_map.mp member with ⟨character, _, rfl⟩
  rfl

mutual

/-- What holds no surrogate can be narrowed. -/
theorem exists_narrow?_eq_some (document : Json WideText)
    (ordinary : ∀ text ∈ document.texts, ∀ point ∈ text, point.isSurrogate = false) :
    ∃ value, document.narrow? = some value := by
  cases document with
  | null | bool | int | float => exact ⟨_, rfl⟩
  | str text =>
      rcases WideText.exists_toString?_eq_some (ordinary text (by simp [texts])) with
        ⟨plain, given⟩
      exact ⟨.str plain, by rw [narrow?, given]; rfl⟩
  | arr items =>
      rw [texts] at ordinary
      rcases exists_narrowItems?_eq_some items ordinary with ⟨narrowed, given⟩
      exact ⟨.arr narrowed, by rw [narrow?, given]; rfl⟩
  | obj entries =>
      rw [texts] at ordinary
      rcases exists_narrowEntries?_eq_some entries ordinary with ⟨narrowed, given⟩
      exact ⟨.obj narrowed, by rw [narrow?, given]; rfl⟩

theorem exists_narrowItems?_eq_some (items : List (Json WideText))
    (ordinary : ∀ text ∈ items.flatMap texts, ∀ point ∈ text, point.isSurrogate = false) :
    ∃ narrowed, narrowItems? items = some narrowed := by
  cases items with
  | nil => exact ⟨[], rfl⟩
  | cons item rest =>
      rw [List.flatMap_cons, List.forall_mem_append] at ordinary
      rcases exists_narrow?_eq_some item ordinary.1 with ⟨first, firstGiven⟩
      rcases exists_narrowItems?_eq_some rest ordinary.2 with ⟨others, othersGiven⟩
      exact ⟨first :: others, by simp [narrowItems?, firstGiven, othersGiven]⟩

theorem exists_narrowEntries?_eq_some (entries : List (WideText × Json WideText))
    (ordinary : ∀ text ∈ entries.flatMap (fun entry => entry.1 :: entry.2.texts),
      ∀ point ∈ text, point.isSurrogate = false) :
    ∃ narrowed, narrowEntries? entries = some narrowed := by
  cases entries with
  | nil => exact ⟨[], rfl⟩
  | cons entry rest =>
      obtain ⟨key, value⟩ := entry
      rw [List.flatMap_cons, List.forall_mem_append, List.forall_mem_cons] at ordinary
      rcases ordinary with ⟨⟨ofKey, ofValue⟩, ofRest⟩
      rcases WideText.exists_toString?_eq_some ofKey with ⟨name, nameGiven⟩
      rcases exists_narrow?_eq_some value ofValue with ⟨first, firstGiven⟩
      rcases exists_narrowEntries?_eq_some rest ofRest with ⟨others, othersGiven⟩
      exact ⟨(name, first) :: others,
        by simp [narrowEntries?, nameGiven, firstGiven, othersGiven]⟩

end

mutual

/-- Narrowing changes nothing but the type of the texts. -/
theorem widen_of_narrow? (document : Json WideText) {value : Json String}
    (narrowed : document.narrow? = some value) : value.widen = document := by
  cases document with
  | null | bool | int | float =>
      cases narrowed
      rfl
  | str text =>
      rcases Option.map_eq_some_iff.mp narrowed with ⟨plain, given, rfl⟩
      rw [widen, WideText.eq_ofString_of_toString? given]
  | arr items =>
      rcases Option.map_eq_some_iff.mp narrowed with ⟨inside, given, rfl⟩
      rw [widen, widenItems_of_narrowItems? items given]
  | obj entries =>
      rcases Option.map_eq_some_iff.mp narrowed with ⟨inside, given, rfl⟩
      rw [widen, widenEntries_of_narrowEntries? entries given]

theorem widenItems_of_narrowItems? (items : List (Json WideText)) {values : List (Json String)}
    (narrowed : narrowItems? items = some values) : widenItems values = items := by
  cases items with
  | nil =>
      cases narrowed
      rfl
  | cons item rest =>
      simp only [narrowItems?, Option.bind_eq_bind, Option.bind_eq_some_iff] at narrowed
      rcases narrowed with ⟨first, firstGiven, others, othersGiven, same⟩
      cases same
      rw [widenItems, widen_of_narrow? item firstGiven,
        widenItems_of_narrowItems? rest othersGiven]

theorem widenEntries_of_narrowEntries? (entries : List (WideText × Json WideText))
    {values : List (String × Json String)} (narrowed : narrowEntries? entries = some values) :
    widenEntries values = entries := by
  cases entries with
  | nil =>
      cases narrowed
      rfl
  | cons entry rest =>
      obtain ⟨key, value⟩ := entry
      simp only [narrowEntries?, Option.bind_eq_bind, Option.bind_eq_some_iff] at narrowed
      rcases narrowed with ⟨name, nameGiven, first, firstGiven, others, othersGiven, same⟩
      cases same
      rw [widenEntries, WideText.eq_ofString_of_toString? nameGiven,
        widen_of_narrow? value firstGiven, widenEntries_of_narrowEntries? rest othersGiven]

end

/-! ### Parts of widened values -/

theorem widenEntries_eq_map (entries : List (String × Json String)) :
    widenEntries entries = entries.map fun entry => (WideText.ofString entry.1, entry.2.widen) := by
  induction entries with
  | nil => rfl
  | cons entry rest induction => rw [widenEntries, induction, List.map_cons]

theorem record_widen (value : Json String) : value.widen.record = widenEntries value.record := by
  cases value <;> rfl

theorem get?_record_widen (value : Json String) (key : String) :
    Entries.get? (WideText.ofString key) value.widen.record =
      (Entries.get? key value.record).map widen := by
  rw [record_widen]
  induction value.record with
  | nil => rfl
  | cons entry rest induction =>
      simp only [widenEntries, Entries.get?, WideText.ofString_injective.eq_iff, induction]
      split <;> rfl

theorem field_widen (value : Json String) (key : String) :
    value.widen.field (WideText.ofString key) = (value.field key).widen := by
  rw [field, field, get?_record_widen]
  cases Entries.get? key value.record <;> rfl

end Json

end CrateGraph
