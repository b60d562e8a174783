import CrateGraph.CommandLine.Run

/-!
What cuts the loading of a crate short.

A document that is no text, no JSON or no crate is refused with a report, and so is a missing file
or a toolchain that fails. Main statements: three contents are not reported on, a manifest that is
not UTF-8, an output of the toolchain that is not UTF-8 either, and a document with a whole number
that is too long to read; and it is said exactly when each of them cuts the loading short.
-/

namespace CrateGraph

variable {tree : FileTree} {toolchain : Toolchain} {path directory : Path}

/-- The file at the path holds the text. -/
def FileTree.HoldsText (tree : FileTree) (path : Path) (text : String) : Prop :=
  ∃ content, tree.content? path = .ok (some content) ∧ fileText content = .ok text

theorem mapError_eq_error_iff {Value Fault Other : Type} {wrap : Fault → Other}
    {result : Except Fault Value} {other : Other} :
    result.mapError wrap = .error other ↔ ∃ fault, result = .error fault ∧ wrap fault = other := by
  cases result with
  | ok value => exact ⟨nofun, nofun⟩
  | error fault =>
      constructor
      · exact fun same => ⟨fault, rfl, Except.error.inj same⟩
      · rintro ⟨_, ⟨⟩, rfl⟩
        rfl

theorem FileTree.content?_eq_some_iff {content : List UInt8} :
    tree.content? path = .ok (some content) ↔ tree.find path = .ok (some (.file content)) := by
  rw [content?]
  cases tree.find path with
  | error error => simp [Except.map]
  | ok found =>
      cases found with
      | none => simp [Except.map]
      | some node => cases node <;> simp [Except.map]

theorem fileText_eq_error_iff {content : List UInt8} {fault : Text.Utf8Fault} :
    fileText content = .error fault ↔ Text.decodeUtf8 content = .error fault := by
  rw [fileText]
  cases Text.decodeUtf8 content <;> simp [Except.map]

/-! ### Documents -/

theorem DocumentReport.addText_eq_error_iff {report : DocumentReport} {strict : Bool}
    {source text : String} {digits : Nat} :
    report.addText strict source text = .error ⟨digits⟩ ↔
      Json.decode text = .error (.integerTooLong digits) := by
  rw [addText]
  cases Json.decode text with
  | ok document => simp
  | error fault => cases fault <;> simp

theorem DocumentReport.ofFile_eq_integerTooLong_iff (strict : Bool) {digits : Nat} :
    ofFile tree strict path = .error (.integerTooLong ⟨digits⟩) ↔
      ∃ text, tree.HoldsText path text ∧ Json.decode text = .error (.integerTooLong digits) := by
  unfold ofFile FileTree.HoldsText
  simp only [FileTree.content?_eq_some_iff]
  cases tree.find path with
  | error overlong => simp
  | ok found =>
      cases found with
      | none => simp
      | some node =>
          cases node with
          | directory => simp
          | file content =>
              cases decoded : fileText content with
              | error fault => simp [decoded]
              | ok text =>
                  simp [decoded, mapError_eq_error_iff, addText_eq_error_iff]

/-- A file that cannot be found is reported as missing, so only the reading of the document is left
to be cut short. -/
theorem Crate.load_eq_integerTooLong_iff {digits : Nat} :
    (Crate.load tree path).1 = .error (.interrupted (.integerTooLong ⟨digits⟩)) ↔
      ∃ text, tree.HoldsText path text ∧ Json.decode text = .error (.integerTooLong digits) := by
  rw [← DocumentReport.ofFile_eq_integerTooLong_iff false]
  rw [Crate.load]
  cases found : tree.find path with
  | error overlong => simp [DocumentReport.ofFile, found]
  | ok node =>
      cases node with
      | none => simp [DocumentReport.ofFile, found]
      | some node =>
          cases DocumentReport.ofFile tree false path with
          | error cause => simp
          | ok report =>
              obtain ⟨report, records⟩ := report
              cases crate : report.crate <;> simp [crate]

/-! ### The toolchain -/

/-- One of the two outputs is not UTF-8; the fault is that of the first. -/
inductive ToolResult.Undecodable (result : ToolResult) : Text.Utf8Fault → Prop
  | output {fault : Text.Utf8Fault} (undecodable : Text.decodeUtf8 result.output = .error fault) :
      Undecodable result fault
  | errorOutput {text : String} {fault : Text.Utf8Fault}
      (decoded : Text.decodeUtf8 result.output = .ok text)
      (undecodable : Text.decodeUtf8 result.errorOutput = .error fault) : Undecodable result fault

theorem ToolResult.errorText_eq_error_iff {result : ToolResult} {fault : Text.Utf8Fault} :
    result.errorText = .error fault ↔ result.Undecodable fault := by
  rw [errorText]
  constructor
  · intro refused
    cases decoded : Text.decodeUtf8 result.output with
    | error other =>
        rw [fileText_eq_error_iff.mpr decoded] at refused
        cases refused
        exact .output decoded
    | ok text =>
        rw [fileText, decoded] at refused
        exact .errorOutput decoded (fileText_eq_error_iff.mp refused)
  · rintro (undecodable | ⟨decoded, undecodable⟩)
    · rw [fileText_eq_error_iff.mpr undecodable]
      rfl
    · rw [fileText, decoded]
      exact fileText_eq_error_iff.mpr undecodable

namespace Toolchain

theorem manifestText_eq_manifestEncoding_iff {fault : Text.Utf8Fault} :
    manifestText tree directory = .error (.manifestEncoding fault) ↔
      ∃ content, tree.content? (manifestPath directory) = .ok (some content) ∧
        Text.decodeUtf8 content = .error fault := by
  simp only [← fileText_eq_error_iff]
  rw [manifestText]
  cases tree.content? (manifestPath directory) with
  | error overlong => simp
  | ok held =>
      cases held with
      | none => simp
      | some content => cases decoded : fileText content <;> simp [decoded]

theorem cases_of_manifestText_eq_error {error : ToolError}
    (unreadable : manifestText tree directory = .error error) :
    (∃ overlong, error = .overlongPath overlong) ∨ error = .manifestMissing directory.toString ∨
      ∃ fault, error = .manifestEncoding fault := by
  unfold manifestText at unreadable
  split at unreadable
  · cases unreadable
    simp
  · cases unreadable
    simp
  · split at unreadable
    · cases unreadable
      simp
    · cases unreadable

theorem crateName_eq_error_iff {error : ToolError} :
    crateName tree directory = .error error ↔
      manifestText tree directory = .error error ∨
        ∃ text, manifestText tree directory = .ok text ∧
          (Manifest.name? text).filter (· != "") = none ∧
          error = .nameMissing (manifestPath directory).toString := by
  rw [crateName]
  cases manifestText tree directory with
  | error other => simp [bind, Except.bind]
  | ok text =>
      simp only [bind, Except.bind, Except.ok.injEq, exists_eq_left']
      generalize (Manifest.name? text).filter (· != "") = named
      cases named <;> simp [throw, throwThe, MonadExceptOf.throw, pure, Except.pure, eq_comm]

theorem exists_manifestText_of_crateName {name : String}
    (named : crateName tree directory = .ok name) :
    ∃ text, manifestText tree directory = .ok text := by
  unfold crateName at named
  cases readable : manifestText tree directory with
  | error error => simp [readable, bind, Except.bind] at named
  | ok text => exact ⟨text, rfl⟩

theorem cases_of_document_eq_error {name : String} {error : ToolError}
    (missing : document tree toolchain directory name = .error error) :
    error = .notInstalled ∨
      (∃ result fault, toolchain = some result ∧ result.Undecodable fault ∧
        error = .toolEncoding fault) ∨
      (∃ errorText, error = .failed errorText) ∨
      (∃ overlong, error = .overlongPath overlong) ∨ ∃ path, error = .documentMissing path := by
  unfold document at missing
  split at missing
  · cases missing
    exact Or.inl rfl
  · next result =>
      split at missing
      · next fault undecodable =>
          cases missing
          exact Or.inr (Or.inl ⟨result, fault, rfl,
            ToolResult.errorText_eq_error_iff.mp undecodable, rfl⟩)
      · refine Or.inr (Or.inr ?_)
        split at missing
        · cases missing
          simp
        · dsimp only at missing
          split at missing
          · cases missing
            simp
          · cases missing
            simp
          · cases missing

theorem document_eq_toolEncoding_iff {name : String} {fault : Text.Utf8Fault} :
    document tree toolchain directory name = .error (.toolEncoding fault) ↔
      ∃ result, toolchain = some result ∧ result.Undecodable fault := by
  constructor
  · intro missing
    simpa using cases_of_document_eq_error missing
  · rintro ⟨result, rfl, undecodable⟩
    simp only [document, ToolResult.errorText_eq_error_iff.mpr undecodable]

theorem run_eq_error_iff {error : ToolError} :
    (run tree toolchain directory).1 = .error error ↔
      crateName tree directory = .error error ∨
        ∃ name, crateName tree directory = .ok name ∧
          document tree toolchain directory name = .error error := by
  rw [run]
  cases crateName tree directory <;> simp

theorem run_eq_manifestEncoding_iff (toolchain : Toolchain) {fault : Text.Utf8Fault} :
    (run tree toolchain directory).1 = .error (.manifestEncoding fault) ↔
      manifestText tree directory = .error (.manifestEncoding fault) := by
  rw [run_eq_error_iff, crateName_eq_error_iff]
  constructor
  · rintro ((undecodable | ⟨_, _, _, same⟩) | ⟨name, _, missing⟩)
    · exact undecodable
    · cases same
    · simpa using cases_of_document_eq_error missing
  · exact fun undecodable => Or.inl (Or.inl undecodable)

theorem run_eq_toolEncoding_iff {fault : Text.Utf8Fault} :
    (run tree toolchain directory).1 = .error (.toolEncoding fault) ↔
      ∃ name result, crateName tree directory = .ok name ∧ toolchain = some result ∧
        result.Undecodable fault := by
  rw [run_eq_error_iff, crateName_eq_error_iff]
  simp only [document_eq_toolEncoding_iff]
  constructor
  · rintro ((unreadable | ⟨_, _, _, same⟩) | ⟨name, named, result, ran, undecodable⟩)
    · simpa using cases_of_manifestText_eq_error unreadable
    · cases same
    · exact ⟨name, result, named, ran, undecodable⟩
  · rintro ⟨name, result, named, ran, undecodable⟩
    exact Or.inr ⟨name, named, result, ran, undecodable⟩

/-- The toolchain only says where the document is. -/
theorem run_ne_load {fault : LoadError} :
    (run tree toolchain directory).1 ≠ .error (.load fault) := by
  rw [ne_eq, run_eq_error_iff, crateName_eq_error_iff]
  rintro ((unreadable | ⟨_, _, _, same⟩) | ⟨name, _, missing⟩)
  · simpa using cases_of_manifestText_eq_error unreadable
  · cases same
  · simpa using cases_of_document_eq_error missing

theorem exists_manifestText_of_run {path : Path}
    (left : (run tree toolchain directory).1 = .ok path) :
    ∃ text, manifestText tree directory = .ok text := by
  unfold run at left
  cases named : crateName tree directory with
  | error error => simp [named] at left
  | ok name => exact exists_manifestText_of_crateName named

/-- The manifest is read a second time for its version, and then it is known to be a text. -/
theorem exists_completeVersion {text : String} (readable : manifestText tree directory = .ok text)
    (crate : Crate) : ∃ completed, completeVersion tree directory crate = .ok completed := by
  rw [completeVersion]
  cases crate.version with
  | some version => exact ⟨_, rfl⟩
  | none =>
      simp only [readable, bind, Except.bind]
      split <;> exact ⟨_, rfl⟩

theorem load_eq_error_iff {error : ToolError} :
    (load tree toolchain directory).1 = .error error ↔
      (run tree toolchain directory).1 = .error error ∨
        ∃ path fault, (run tree toolchain directory).1 = .ok path ∧
          (Crate.load tree path).1 = .error fault ∧ error = .load fault := by
  rw [load]
  cases ran : run tree toolchain directory with
  | mk result trace =>
      cases result with
      | error other => simp
      | ok path =>
          cases loaded : Crate.load tree path with
          | mk result records =>
              cases result with
              | error fault => simp [loaded, eq_comm]
              | ok crate =>
                  have left : (run tree toolchain directory).1 = .ok path := by rw [ran]
                  rcases exists_manifestText_of_run left with ⟨text, readable⟩
                  rcases exists_completeVersion readable crate with ⟨completed, given⟩
                  simp [given, loaded]

end Toolchain

/-! ### Both ways of loading -/

namespace CommandLine

/-- The document that the input leads to stands at the path: it is given, or the toolchain leaves it
there. -/
inductive Arguments.ReadsFrom (arguments : Arguments) (tree : FileTree) (toolchain : Toolchain) :
    Path → Prop
  | given (isJson : arguments.has .json = true) :
      ReadsFrom arguments tree toolchain (Path.ofString arguments.input)
  | made {path : Path} (isDirectory : arguments.has .json = false)
      (left : (Toolchain.run tree toolchain (Path.ofString arguments.input)).1 = .ok path) :
      ReadsFrom arguments tree toolchain path

namespace Arguments

variable {arguments : Arguments}

theorem readsFrom_iff :
    arguments.ReadsFrom tree toolchain path ↔
      if arguments.has .json then path = Path.ofString arguments.input
      else (Toolchain.run tree toolchain (Path.ofString arguments.input)).1 = .ok path := by
  constructor
  · rintro (isJson | ⟨isDirectory, left⟩)
    · simp only [isJson, if_true]
    · simpa only [isDirectory, Bool.false_eq_true, if_false] using left
  · split
    · next isJson =>
        rintro rfl
        exact .given isJson
    · next isDirectory => exact .made (Bool.not_eq_true _ ▸ isDirectory)

theorem load_eq_manifestEncoding_iff {fault : Text.Utf8Fault} :
    (arguments.load tree toolchain).1 = .error (.manifestEncoding fault) ↔
      arguments.has .json = false ∧ ∃ content,
        tree.content? (Toolchain.manifestPath (Path.ofString arguments.input)) =
            .ok (some content) ∧
          Text.decodeUtf8 content = .error fault := by
  rw [← Toolchain.manifestText_eq_manifestEncoding_iff,
    ← Toolchain.run_eq_manifestEncoding_iff toolchain]
  rw [load]
  cases isJson : arguments.has .json with
  | true => simp [mapError_eq_error_iff]
  | false => simp [Toolchain.load_eq_error_iff]

theorem load_eq_toolEncoding_iff {fault : Text.Utf8Fault} :
    (arguments.load tree toolchain).1 = .error (.toolEncoding fault) ↔
      arguments.has .json = false ∧ ∃ name result,
        Toolchain.crateName tree (Path.ofString arguments.input) = .ok name ∧
          toolchain = some result ∧ result.Undecodable fault := by
  rw [← Toolchain.run_eq_toolEncoding_iff, load]
  cases isJson : arguments.has .json with
  | true => simp [mapError_eq_error_iff]
  | false => simp [Toolchain.load_eq_error_iff]

theorem load_eq_integerTooLong_iff {digits : Nat} :
    (arguments.load tree toolchain).1 =
        .error (.load (.interrupted (.integerTooLong ⟨digits⟩))) ↔
      ∃ path text, arguments.ReadsFrom tree toolchain path ∧ tree.HoldsText path text ∧
        Json.decode text = .error (.integerTooLong digits) := by
  have atPath : ∀ path, (∃ text, tree.HoldsText path text ∧
      Json.decode text = .error (.integerTooLong digits)) ↔
        (Crate.load tree path).1 = .error (.interrupted (.integerTooLong ⟨digits⟩)) :=
    fun path => Crate.load_eq_integerTooLong_iff.symm
  simp only [exists_and_left, atPath, readsFrom_iff]
  rw [load]
  cases isJson : arguments.has .json with
  | true => simp [mapError_eq_error_iff]
  | false => simp [Toolchain.load_eq_error_iff, Toolchain.run_ne_load]

end Arguments

end CommandLine

end CrateGraph
