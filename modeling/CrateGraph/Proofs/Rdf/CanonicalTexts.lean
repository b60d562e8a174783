import CrateGraph.Proofs.Calendar.WrittenTimes
import CrateGraph.Proofs.Decimal.WholeNumbers
import CrateGraph.Proofs.Rdf.CollectedTriples
import CrateGraph.Proofs.Text.Base64Reading
import CrateGraph.Proofs.Text.Trimming

/-!
Canonical texts of canonical texts.

Whole numbers, truth, bytes, dates, times and texts of one line are written so that they are read
back as what they are. Main statement: a graph that holds no other literals is collected again from
its own triples.
-/

namespace CrateGraph.Rdf

namespace Datatype

/-- A text that is the canonical text of some text is its own. -/
def IsSteady (datatype : Datatype) : Prop :=
  ∀ text canonical, datatype.canonical? text = .ok (some canonical) →
    datatype.canonical? canonical = .ok (some canonical)

variable {datatype : Datatype}

/-- Values that are read back from how they are written make a datatype steady. -/
theorem isSteady_of_readBack {Value : Type} {read? : String → Option Value}
    {write : Value → String}
    (form : ∀ text, datatype.canonical? text = .ok ((read? text).map write))
    (back : ∀ text value, read? text = some value → read? (write value) = some value) :
    datatype.IsSteady := by
  intro text canonical written
  rw [form] at written
  rcases Option.map_eq_some_iff.mp (Except.ok.inj written) with ⟨value, read, rfl⟩
  rw [form, back text value read]
  rfl

/-! ### Numbers, truth and bytes -/

theorem isSteady_integer : IsSteady .integer := by
  apply isSteady_of_readBack fun _ => rfl
  intro text value read
  rw [Decimal.wholeNumber?_toString, if_pos (Decimal.length_toDigits_of_wholeNumber? read)]

theorem isSteady_boolean : IsSteady .boolean := by
  intro text canonical form
  have written : canonicalBoolean text = canonical := Option.some.inj (Except.ok.inj form)
  rw [canonicalBoolean] at written
  rw [canonical?, ← written]
  split <;> decide +kernel

theorem toLower_of_isSome_hexValue? {digit : Char} (isDigit : (Text.hexValue? digit).isSome) :
    (Text.hexValue? digit.toLower).isSome ∧ digit.toLower.toLower = digit.toLower := by
  have everyCode : ∀ code : Fin 128, (Text.hexValue? (Char.ofNat code)).isSome →
      (Text.hexValue? (Char.ofNat code).toLower).isSome ∧
        (Char.ofNat code).toLower.toLower = (Char.ofNat code).toLower := by decide +kernel
  have small : digit.toNat < 128 := by
    by_contra large
    rw [Text.hexValue?] at isDigit
    simp only [Bool.and_eq_true, decide_eq_true_eq] at isDigit
    rw [if_neg (by omega), if_neg (by omega), if_neg (by omega)] at isDigit
    cases isDigit
  have ofCode := everyCode ⟨digit.toNat, small⟩
  rw [Char.ofNat_toNat] at ofCode
  exact ofCode isDigit

theorem isSteady_hexadecimalBytes : IsSteady .hexadecimalBytes := by
  intro text canonical form
  have written : canonicalHexadecimal? text = some canonical := Except.ok.inj form
  rw [canonicalHexadecimal?] at written
  split at written
  · next fits =>
      cases written
      rw [Bool.and_eq_true, decide_eq_true_eq, List.all_eq_true] at fits
      rcases fits with ⟨even, digits⟩
      have lowered : (text.toList.map Char.toLower).map Char.toLower =
          text.toList.map Char.toLower := by
        rw [List.map_map]
        exact List.map_congr_left fun digit member =>
          (toLower_of_isSome_hexValue? (digits digit member)).2
      have areDigits : (text.toList.map Char.toLower).all fun digit =>
          (Text.hexValue? digit).isSome := by
        rw [List.all_map, List.all_eq_true]
        exact fun digit member => (toLower_of_isSome_hexValue? (digits digit member)).1
      rw [canonical?, canonicalHexadecimal?, String.toList_ofList, List.length_map, even,
        areDigits, lowered]
      rfl
  · cases written

theorem isSteady_base64Bytes : IsSteady .base64Bytes := by
  apply isSteady_of_readBack fun _ => rfl
  exact fun _ bytes _ => Text.Base64.decode?_encode bytes

/-! ### Dates and times -/

section Zones

variable {characters : List Char}

theorem splitAtLast_of_not_mem {mark : Char} (unmarked : mark ∉ characters) :
    splitAtLast mark characters = ([], characters) := by
  have whole : characters.reverse.takeWhile (· != mark) = characters.reverse := by
    apply List.takeWhile_eq_self_iff.mpr
    rintro character member
    rw [bne_iff_ne]
    rintro rfl
    exact unmarked (List.mem_reverse.mp member)
  have nothing : characters.length - (characters.length + 1) = 0 := by omega
  rw [splitAtLast, whole, List.length_reverse, nothing]
  rfl

theorem withoutOffset_eq_self (noPlus : '+' ∉ characters) (noColon : ':' ∉ characters) :
    withoutOffset characters = characters := by
  have noZone : ':' ∉ (splitAtLast '-' characters).2 := fun member =>
    noColon (List.mem_of_mem_drop member)
  simp [withoutOffset, splitAtLast_of_not_mem noPlus, noZone]

theorem withoutUniversalMark_eq_self (noCapital : 'Z' ∉ characters) (noSmall : 'z' ∉ characters) :
    withoutUniversalMark characters = characters := by
  rw [withoutUniversalMark]
  split
  · next last => exact absurd (List.mem_of_getLast? last) noCapital
  · next last => exact absurd (List.mem_of_getLast? last) noSmall
  · rfl

end Zones

/-- Nothing is taken away from a written date: it has no mark of a zone, and no colon after a
hyphen. -/
theorem canonicalDate?_toString (date : Calendar.Date) :
    canonicalDate? date.toString = some date.toString := by
  have noDigits : "TZz+:".toList.all (!·.isDigit) := by decide
  have plain : ∀ character ∈ date.characters, character ∉ "TZz+:".toList := by
    refine date.forall_mem_characters ?_ ?_
    · intro digit isDigit listed
      simpa [isDigit] using List.all_eq_true.mp noDigits digit listed
    · decide
  have without {mark : Char} (listed : mark ∈ "TZz+:".toList) : mark ∉ date.characters :=
    fun member => plain mark member listed
  have noMark : withoutUniversalMark date.characters = date.characters :=
    withoutUniversalMark_eq_self (without (by simp)) (without (by simp))
  have noTime : 'T' ∉ date.characters := without (by simp)
  have noOffset : withoutOffset date.characters = date.characters :=
    withoutOffset_eq_self (without (by simp)) (without (by simp))
  have noSign : date.characters.head? ≠ some '-' := by
    rw [Calendar.Date.characters, List.append_assoc,
      List.head?_append_of_ne_nil _ (Calendar.padded_ne_nil _ _)]
    intro sign
    exact absurd (Calendar.isDigit_padded _ _ _ (List.mem_of_head? sign)) (by decide)
  have hyphen : '-' ∈ date.characters := by simp [Calendar.Date.characters]
  have written : String.ofList date.characters = date.toString := rfl
  simp [canonicalDate?, Calendar.Date.toList_toString, noMark, noTime, noOffset, noSign, hyphen,
    written, Calendar.Date.ofText?_toString]

theorem isSteady_date : IsSteady .date := by
  intro text canonical form
  have written : canonicalDate? text = some canonical := Except.ok.inj form
  rw [canonicalDate?] at written
  rcases Option.map_eq_some_iff.mp (Option.ite_none_left_eq_some.mp written).2 with ⟨date, _, rfl⟩
  rw [canonical?, canonicalDate?_toString]

theorem isSteady_time : IsSteady .time := by
  apply isSteady_of_readBack fun _ => rfl
  intro text time read
  exact Calendar.ZonedTime.ofText?_toString (Calendar.ZonedTime.isRead_of_ofText? read)

theorem isSteady_dateTime : IsSteady .dateTime := by
  apply isSteady_of_readBack fun _ => rfl
  intro text moment read
  exact Calendar.DateTime.ofText?_toString (Calendar.DateTime.isRead_of_ofText? read)

/-! ### Texts of one line -/

section Lines

variable {characters others : List Char}

theorem toOneLine_of_subset (lines : characters ⊆ toOneLine others) :
    toOneLine characters = characters := by
  apply (List.map_congr_left _).trans (List.map_id' _)
  intro character member
  rcases List.mem_map.mp (lines member) with ⟨original, _, rfl⟩
  by_cases isBreak : original = '\t' ∨ original = '\n' ∨ original = '\r'
  · simp [isBreak, or_assoc]
  · simp [isBreak, or_assoc]

theorem isSteady_normalizedText : IsSteady .normalizedText := by
  intro text canonical form
  rw [← Option.some.inj (Except.ok.inj form), canonical?, String.toList_ofList,
    toOneLine_of_subset (List.Subset.refl _)]

theorem collapseSpaces_cons {character : Char}
    (apart : character = ' ' → characters.head? ≠ some ' ') :
    collapseSpaces (character :: characters) = character :: collapseSpaces characters := by
  rw [collapseSpaces]
  rintro rest rfl rfl
  exact apart rfl rfl

theorem head?_collapseSpaces (characters : List Char) :
    (collapseSpaces characters).head? = characters.head? := by
  fun_induction collapseSpaces characters with
  | case1 rest induction => exact induction
  | case2 | case3 => rfl

theorem getLast?_collapseSpaces (characters : List Char) :
    (collapseSpaces characters).getLast? = characters.getLast? := by
  fun_induction collapseSpaces characters with
  | case1 rest induction => rw [induction]; rfl
  | case2 character rest _ induction => rw [List.getLast?_cons, List.getLast?_cons, induction]
  | case3 => rfl

theorem collapseSpaces_sublist (characters : List Char) :
    (collapseSpaces characters).Sublist characters := by
  fun_induction collapseSpaces characters with
  | case1 rest induction => exact induction.cons ' '
  | case2 character rest _ induction => exact induction.cons_cons character
  | case3 => exact .slnil

theorem collapseSpaces_collapseSpaces (characters : List Char) :
    collapseSpaces (collapseSpaces characters) = collapseSpaces characters := by
  fun_induction collapseSpaces characters with
  | case1 rest induction => exact induction
  | case2 character rest apart induction =>
      rw [collapseSpaces_cons, induction]
      rw [head?_collapseSpaces]
      intro space follows
      rcases List.head?_eq_some_iff.mp follows with ⟨tail, whole⟩
      exact apart tail space whole
  | case3 => rfl

theorem trimmed_collapseSpaces {drop : Char → Bool} (trimmed : Text.Trimmed drop characters) :
    Text.Trimmed drop (collapseSpaces characters) where
  start := by rw [head?_collapseSpaces]; exact trimmed.start
  stop := by rw [getLast?_collapseSpaces]; exact trimmed.stop

theorem isSteady_token : IsSteady .token := by
  intro text canonical form
  have trimmed := Text.trimmed_trimCharacters Text.isBlank (toOneLine text.toList)
  have lines := Text.trimCharacters_sublist Text.isBlank (toOneLine text.toList)
  rw [← Option.some.inj (Except.ok.inj form), canonical?, String.toList_ofList,
    toOneLine_of_subset ((collapseSpaces_sublist _).trans lines).subset,
    Text.trimCharacters_of_trimmed (trimmed_collapseSpaces trimmed), collapseSpaces_collapseSpaces]

end Lines

theorem isSteady_of_not_mem
    (others : datatype ∉ [.decimal, .floatingPoint, .duration, .markup]) : datatype.IsSteady := by
  cases datatype with
  | integer => exact isSteady_integer
  | boolean => exact isSteady_boolean
  | hexadecimalBytes => exact isSteady_hexadecimalBytes
  | base64Bytes => exact isSteady_base64Bytes
  | date => exact isSteady_date
  | time => exact isSteady_time
  | dateTime => exact isSteady_dateTime
  | normalizedText => exact isSteady_normalizedText
  | token => exact isSteady_token
  | decimal | floatingPoint | duration | markup => simp at others

end Datatype

/-! ### Triples -/

/-- The datatype of a literal is steady if it is one that has canonical texts. -/
def Term.IsSteady : Term → Prop
  | .typed _ datatype => ∀ named ∈ Datatype.ofIri? datatype, named.IsSteady
  | _ => True

theorem canonicalText_of_eq_ok {text datatype canonical : String}
    (steady : ∀ named ∈ Datatype.ofIri? datatype, named.IsSteady)
    (form : canonicalText text datatype = .ok canonical) :
    canonicalText canonical datatype = .ok canonical := by
  rw [canonicalText] at form ⊢
  cases known : Datatype.ofIri? datatype with
  | none => rfl
  | some named =>
      simp only [known] at form
      cases read : named.canonical? text with
      | error fault => simp [read, Except.map] at form
      | ok found =>
          cases found with
          | none =>
              simp only [read, Except.map, Option.getD_none, Except.ok.injEq] at form
              simp [← form, read, Except.map]
          | some written =>
              simp only [read, Except.map, Option.getD_some, Except.ok.injEq] at form
              have again := steady named known text written read
              simp [← form, again, Except.map]

theorem Term.canonical_of_eq_ok {term canonical : Term} (steady : term.IsSteady)
    (form : term.canonical = .ok canonical) : canonical.canonical = .ok canonical := by
  cases term with
  | iri | literal => cases form; rfl
  | typed value datatype =>
      rw [Term.canonical] at form
      cases read : canonicalText value datatype with
      | error fault => simp [read, Except.map] at form
      | ok text =>
          simp only [read, Except.map, Except.ok.injEq] at form
          simp [← form, Term.canonical, canonicalText_of_eq_ok steady read, Except.map]

theorem Triple.canonical_of_eq_ok {triple canonical : Triple} (steady : triple.object.IsSteady)
    (form : triple.canonical = .ok canonical) : canonical.canonical = .ok canonical := by
  rw [Triple.canonical] at form
  cases read : triple.object.canonical with
  | error fault => simp [read, Except.map] at form
  | ok object =>
      simp only [read, Except.map, Except.ok.injEq] at form
      simp [← form, Triple.canonical, Term.canonical_of_eq_ok steady read, Except.map]

/-! ### Graphs -/

namespace Collector

theorem addAll_of_canonical {triples : List Triple} (distinct : triples.Nodup)
    (canonical : ∀ triple ∈ triples, triple.canonical = .ok triple) :
    ∃ last, (ofGraph .empty).addAll (triples.map .triple) = (last, none) ∧
      last.graph.triples = triples ∧ last.count = triples.length := by
  have taken : ∀ statement ∈ triples.map Statement.triple, statement.IsTaken :=
    List.forall_mem_map.mpr fun triple member => ⟨triple, canonical triple member⟩
  have held : (triples.map Statement.triple).filterMap Statement.canonical? = triples := by
    rw [List.filterMap_map]
    refine (List.filterMap_congr fun triple member => ?_).trans List.filterMap_some
    rw [Function.comp_apply, Statement.canonical?, canonical triple member]
    rfl
  have counted : (triples.map Statement.triple).filterMap Statement.triple? = triples := by
    rw [List.filterMap_map]
    exact List.filterMap_some
  rcases addAll_empty taken with ⟨last, all, lastHeld, lastCounted⟩
  rw [held, eraseDups_eq_self distinct] at lastHeld
  rw [counted] at lastCounted
  exact ⟨last, all, lastHeld, lastCounted⟩

/-- A graph of steady literals is collected again from its own triples. -/
theorem addAll_triples {statements : List Statement}
    (taken : ∀ statement ∈ statements, statement.IsTaken)
    (steady : ∀ triple, .triple triple ∈ statements → triple.object.IsSteady) :
    ∃ first again, (ofGraph .empty).addAll statements = (first, none) ∧
      (ofGraph .empty).addAll (first.graph.triples.map .triple) = (again, none) ∧
      again.graph.triples = first.graph.triples ∧ again.count = first.graph.size := by
  rcases addAll_empty taken with ⟨first, all, held, _⟩
  have canonical : ∀ triple ∈ first.graph.triples, triple.canonical = .ok triple := by
    intro triple member
    rw [held, List.mem_eraseDups] at member
    rcases List.mem_filterMap.mp member with ⟨statement, handed, form⟩
    cases statement with
    | namespaceName => cases form
    | triple written =>
        apply Triple.canonical_of_eq_ok (steady written handed)
        cases read : written.canonical with
        | error fault => simp [Statement.canonical?, read, Except.toOption] at form
        | ok found => simpa [Statement.canonical?, read, Except.toOption] using form
  rcases addAll_of_canonical first.graph.nodup canonical with ⟨again, further, same, counted⟩
  exact ⟨first, again, all, further, same, counted⟩

end Collector

end CrateGraph.Rdf
