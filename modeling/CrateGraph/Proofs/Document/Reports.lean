import CrateGraph.Document.Report

/-!
What a report on a document says.

A document is refused with one error, in both modes alike, or its crate is reported with a message
for each label of unknown kinds and a warning if the root is missing from the index. Main statement:
strict mode turns the messages into errors, but not that warning, so it succeeds exactly where the
other mode has no other warning.
-/

namespace CrateGraph

/-! ### The parts of a report -/

def Crate.unknownKindMessages (crate : Crate) : List String :=
  (countEach (unknownKinds crate)).map fun (label, count) => unknownKindMessage label count

/-- The warning that the index does not have the root, if it does not. -/
def Crate.missingRootWarnings (crate : Crate) : List String :=
  if (crate.index.get? crate.root).isSome then []
  else ["Root item " ++ crate.root ++ " not present in index"]

namespace DocumentReport

def refused (source message : String) : DocumentReport :=
  ⟨none, [⟨source, message⟩], [], 1⟩

def accepted (strict : Bool) (source : String) (crate : Crate) : DocumentReport where
  crate := some crate
  errors := if strict then crate.unknownKindMessages.map (⟨source, ·⟩) else []
  warnings := (if strict then [] else crate.unknownKindMessages) ++ crate.missingRootWarnings
  filesRead := 1

/-- What the document gives in any mode: its crate, or what is wrong with it. -/
def reading (document : Json WideText) : Except String Crate :=
  match document.narrow? with
  | none => .error "Invalid Unicode in string value: surrogates not allowed"
  | some value =>
      match Crate.ofJson value with
      | .error error => .error error.message
      | .ok crate => .ok crate

theorem foldl_addMessage (strict : Bool) (source : String) (messages : List String)
    (report : DocumentReport) :
    messages.foldl
        (fun report message =>
          if strict then report.addError source message else report.addWarning message) report =
      { report with
        errors := report.errors ++ if strict then messages.map (⟨source, ·⟩) else []
        warnings := report.warnings ++ if strict then [] else messages } := by
  induction messages generalizing report with
  | nil => simp
  | cons message rest induction =>
      rw [List.foldl_cons, induction]
      cases strict <;> simp [addError, addWarning]

theorem addCrate_empty (strict : Bool) (source : String) (crate : Crate) :
    ({ empty with filesRead := 1 }.addCrate strict source crate).1 =
      accepted strict source crate := by
  unfold addCrate
  dsimp only
  rw [foldl_addMessage]
  cases present : (crate.index.get? crate.root).isSome
  all_goals
    simp [accepted, empty, addWarning, Crate.unknownKindMessages, Crate.missingRootWarnings,
      present]

/-- The mode matters only to the report on a crate. -/
theorem ofJson_eq (strict : Bool) (source : String) (document : Json WideText) :
    (ofJson strict source document).1 =
      match reading document with
      | .error message => refused source message
      | .ok crate => accepted strict source crate := by
  unfold ofJson addDocument reading
  cases document.narrow? with
  | none => rfl
  | some value =>
      dsimp only
      cases Crate.ofJson value with
      | error error => rfl
      | ok crate => exact addCrate_empty strict source crate

theorem ofJson_of_reading {document : Json WideText} {crate : Crate}
    (read : reading document = .ok crate) (strict : Bool) (source : String) :
    (ofJson strict source document).1 = accepted strict source crate := by
  rw [ofJson_eq, read]

theorem ofJson_of_refused {document : Json WideText} {message : String}
    (read : reading document = .error message) (strict : Bool) (source : String) :
    (ofJson strict source document).1 = refused source message := by
  rw [ofJson_eq, read]

theorem ofJson_crate_eq_some_iff {strict : Bool} {source : String} {document : Json WideText}
    {crate : Crate} :
    (ofJson strict source document).1.crate = some crate ↔
      ∃ value, document.narrow? = some value ∧ Crate.ofJson value = .ok crate := by
  rw [ofJson_eq, reading]
  cases document.narrow? with
  | none => simp [refused]
  | some value =>
      cases read : Crate.ofJson value with
      | error error => simp [read, refused]
      | ok other => simp [read, accepted]

theorem eq_accepted_of_crate {strict : Bool} {source : String} {document : Json WideText}
    {crate : Crate} (isCrate : (ofJson strict source document).1.crate = some crate) :
    (ofJson strict source document).1 = accepted strict source crate := by
  cases read : reading document with
  | error message =>
      rw [ofJson_of_refused read] at isCrate
      cases isCrate
  | ok other =>
      rw [ofJson_of_reading read] at isCrate ⊢
      rw [← Option.some.inj isCrate]

theorem exists_eq_refused {strict : Bool} {source : String} {document : Json WideText}
    (isNone : (ofJson strict source document).1.crate = none) :
    ∃ message, (ofJson strict source document).1 = refused source message := by
  cases read : reading document with
  | error message => exact ⟨message, ofJson_of_refused read strict source⟩
  | ok crate =>
      rw [ofJson_of_reading read] at isNone
      cases isNone

/-! ### Strict mode -/

theorem success_accepted_iff (strict : Bool) (source : String) (crate : Crate) :
    (accepted strict source crate).success ↔ strict = true → crate.unknownKindMessages = [] := by
  cases strict <;> simp [success, accepted]

/-- Strict mode succeeds where the other mode does with no warning but that the root is missing. -/
theorem strict_success_iff (source : String) (document : Json WideText) :
    (ofJson true source document).1.success ↔
      (ofJson false source document).1.success ∧
        ∃ crate, (ofJson false source document).1.crate = some crate ∧
          (ofJson false source document).1.warnings = crate.missingRootWarnings := by
  cases read : reading document with
  | error message =>
      rw [ofJson_of_refused read, ofJson_of_refused read]
      simp [success, refused]
  | ok crate =>
      rw [ofJson_of_reading read, ofJson_of_reading read, success_accepted_iff,
        success_accepted_iff]
      simp [accepted]

/-- The root of this document is missing, and nothing else is wrong with it. -/
def rootlessDocument : Json WideText :=
  Json.widen (.obj [("root", .str "0"), ("index", .obj [])])

theorem strict_mode_spares_missing_root :
    ¬∀ (source : String) (document : Json WideText),
      (ofJson true source document).1.success ↔
        (ofJson false source document).1.success ∧
          (ofJson false source document).1.warnings = [] := by
  intro treated
  have succeeds : (ofJson true "<data>" rootlessDocument).1.success := by decide +kernel
  have warns : (ofJson false "<data>" rootlessDocument).1.warnings ≠ [] := by decide +kernel
  exact warns ((treated "<data>" rootlessDocument).mp succeeds).2

end DocumentReport

end CrateGraph
