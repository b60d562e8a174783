import CrateGraph.Proofs.CommandLine.Loading
import CrateGraph.Proofs.CommandLine.Stages
import CrateGraph.Proofs.Extraction.AcceptedDocuments

/-!
The ways in which a run of the command ends.

Most faults end in an exit status. Main statement: a run of an accepted command line is aborted in
exactly eight ways. Three of them come from what files hold: a manifest that is not UTF-8, a
document with a whole number that is too long, and a configuration whose base holds a surrogate. One
comes from the toolchain, if what it writes is not UTF-8.
-/

namespace CrateGraph

/-! ### Configurations -/

namespace Configuration

theorem ofFile_eq_overlongPath_iff {tree : FileTree} {file : String} {error : OverlongPath} :
    ofFile tree file = .error (.overlongPath error) ↔
      tree.find (Path.ofString file) = .error error := by
  unfold ofFile FileTree.content?
  cases tree.find (Path.ofString file) with
  | error overlong => simp [Except.map]
  | ok found =>
      simp only [Except.map, reduceCtorEq, iff_false]
      split
      · simp_all
      · simp
      · split
        · simp
        · rw [ofText]
          split
          · simp
          · simp
          · split <;> simp [mapError_eq_error_iff]

/-- The options need the base as an ordinary text. -/
theorem options?_eq_none_iff {configuration : Configuration} :
    configuration.options? = none ↔ ∃ point ∈ configuration.base, point.isSurrogate = true := by
  constructor
  · intro missing
    by_contra absent
    have ordinary : ∀ point ∈ configuration.base, point.isSurrogate = false :=
      fun point member => Bool.not_eq_true _ ▸ fun surrogate => absent ⟨point, member, surrogate⟩
    rcases exists_options?_eq_some ordinary with ⟨options, given, _⟩
    rw [missing] at given
    cases given
  · rintro ⟨point, member, surrogate⟩
    cases given : configuration.base.toString? with
    | none => rw [options?, given]; rfl
    | some base =>
        rw [WideText.eq_ofString_of_toString? given] at member
        rcases List.mem_map.mp member with ⟨character, _, rfl⟩
        cases surrogate

end Configuration

end CrateGraph

namespace CrateGraph.CommandLine

variable {surroundings : Surroundings} {arguments : Arguments} {configuration : Configuration}
  {crate : Crate} {words : List String}

/-- The output of the run can be opened, if it asks for a file at all. -/
def Session.Opens (session : Session) (output : Option String) : Prop :=
  ∀ file, output = some file → ∃ place, session.tree.writable file = .ok place

/-- What aborts a run with the given arguments. -/
inductive Aborts (surroundings : Surroundings) (arguments : Arguments) : Abort → Prop
  | logName (holdsZero : arguments.logFile.any Path.holdsZero = true) :
      Aborts surroundings arguments .zeroInName
  | configurationPath {file : String} {error : OverlongPath}
      (logName : arguments.logFile.any Path.holdsZero = false)
      (asked : arguments.config = some file)
      (overlong : (surroundings.opened arguments).tree.find (Path.ofString file) = .error error) :
      Aborts surroundings arguments (.overlongConfigurationPath error)
  /-- The manifest of a crate in a directory is not UTF-8. -/
  | manifest {configuration : Configuration} {content : List UInt8} {fault : Text.Utf8Fault}
      (configured : Configured surroundings arguments configuration)
      (isDirectory : arguments.has .json = false)
      (held : (surroundings.announced arguments configuration).tree.content?
        (Toolchain.manifestPath (Path.ofString arguments.input)) = .ok (some content))
      (undecodable : Text.decodeUtf8 content = .error fault) :
      Aborts surroundings arguments (.manifestEncoding fault)
  /-- The toolchain is run on the crate in a directory, and writes something that is not UTF-8. -/
  | toolOutput {configuration : Configuration} {name : String} {result : ToolResult}
      {fault : Text.Utf8Fault}
      (configured : Configured surroundings arguments configuration)
      (isDirectory : arguments.has .json = false)
      (named : Toolchain.crateName (surroundings.announced arguments configuration).tree
        (Path.ofString arguments.input) = .ok name)
      (ran : surroundings.toolchain = some result)
      (undecodable : result.Undecodable fault) :
      Aborts surroundings arguments (.toolEncoding fault)
  /-- The document is a text, but a whole number in it is too long to read. -/
  | number {configuration : Configuration} {path : Path} {text : String} {digits : Nat}
      (configured : Configured surroundings arguments configuration)
      (read : arguments.ReadsFrom (surroundings.announced arguments configuration).tree
        surroundings.toolchain path)
      (held : (surroundings.announced arguments configuration).tree.HoldsText path text)
      (tooLong : Json.decode text = .error (.integerTooLong digits)) :
      Aborts surroundings arguments (.integerTooLong ⟨digits⟩)
  | outputName {configuration : Configuration} {crate : Crate}
      (loaded : Loaded surroundings arguments configuration crate)
      (holdsZero : arguments.output.any Path.holdsZero = true) :
      Aborts surroundings arguments .zeroInName
  | format {configuration : Configuration} {crate : Crate}
      (loaded : Loaded surroundings arguments configuration crate)
      (outputName : arguments.output.any Path.holdsZero = false)
      (opens : (surroundings.loaded arguments configuration).Opens arguments.output)
      (missing : arguments.format = none) : Aborts surroundings arguments .formatMissing
  /-- The base of all addresses holds a surrogate. -/
  | base {configuration : Configuration} {crate : Crate} {format : Rdf.Format}
      (loaded : Loaded surroundings arguments configuration crate)
      (outputName : arguments.output.any Path.holdsZero = false)
      (opens : (surroundings.loaded arguments configuration).Opens arguments.output)
      (named : arguments.format = some format)
      (surrogate : ∃ point ∈ configuration.base, point.isSurrogate = true) :
      Aborts surroundings arguments (.unencodable (.scalar '<' :: configuration.base))

/-! ### One stage at a time -/

theorem Session.openOutput_eq_ok_iff {session : Session} {output : Option String} :
    (∃ opened, session.openOutput output = .ok opened) ↔ session.Opens output := by
  rw [Opens]
  cases output with
  | none => simp [openOutput]
  | some file => cases place : session.tree.writable file <;> simp [openOutput, place]

theorem Choices.configuration_eq_overlongPath_iff {choices : Choices} {tree : FileTree}
    {error : OverlongPath} :
    choices.configuration tree = .error (.overlongPath error) ↔
      ∃ file, choices.config = some file ∧ tree.find (Path.ofString file) = .error error := by
  rw [configuration]
  cases choices.config with
  | none => simp
  | some file =>
      simp only [Option.some.injEq, exists_eq_left', ← Configuration.ofFile_eq_overlongPath_iff]
      cases Configuration.ofFile tree file <;> simp [Except.map]

theorem Session.refuse_eq_aborted_iff {session : Session} {error : ToolError} {abort : Abort} :
    (session.refuse error).1 = .aborted abort ↔
      (∃ fault, error = .manifestEncoding fault ∧ abort = .manifestEncoding fault) ∨
        (∃ fault, error = .toolEncoding fault ∧ abort = .toolEncoding fault) ∨
        ∃ tooLong, error = .load (.interrupted (.integerTooLong tooLong)) ∧
          abort = .integerTooLong tooLong := by
  cases error with
  | load fault =>
      cases fault with
      | interrupted cause => cases cause <;> simp [refuse, eq_comm]
      | _ => simp [refuse]
  | manifestEncoding fault | toolEncoding fault => simp [refuse, eq_comm]
  | _ => simp [refuse]

theorem Session.writeGraph_eq_aborted_iff {session : Session} {destination : Destination}
    {abort : Abort} :
    (session.writeGraph arguments configuration crate destination).1 = .aborted abort ↔
      (arguments.format = none ∧ abort = .formatMissing) ∨
        ∃ format, arguments.format = some format ∧
          (∃ point ∈ configuration.base, point.isSurrogate = true) ∧
          abort = .unencodable (.scalar '<' :: configuration.base) := by
  rw [← Configuration.options?_eq_none_iff, writeGraph]
  cases arguments.format <;> cases configuration.options? <;> simp [eq_comm]

theorem Session.produce_eq_aborted_iff {session : Session} {abort : Abort} :
    (session.produce arguments configuration crate).1 = .aborted abort ↔
      (arguments.output.any Path.holdsZero = true ∧ abort = .zeroInName) ∨
        (arguments.output.any Path.holdsZero = false ∧ session.Opens arguments.output ∧
          ((arguments.format = none ∧ abort = .formatMissing) ∨
            ∃ format, arguments.format = some format ∧
              (∃ point ∈ configuration.base, point.isSurrogate = true) ∧
              abort = .unencodable (.scalar '<' :: configuration.base))) := by
  rw [← openOutput_eq_ok_iff, produce]
  split
  · next outputName =>
      simp only [outputName, Ending.aborted.injEq, true_and, Bool.true_eq_false, false_and,
        or_false]
      exact eq_comm
  · next outputName =>
      rw [Bool.not_eq_true] at outputName
      cases opened : session.openOutput arguments.output with
      | error message => simp [outputName]
      | ok opened => simp [outputName, writeGraph_eq_aborted_iff]

theorem Session.refuse_ne_halted {session : Session} {error : ToolError} {halt : Halt} :
    (session.refuse error).1 ≠ .halted halt := by
  unfold refuse
  intro halted
  split at halted <;> cases halted

theorem Session.produce_ne_halted {session : Session} {halt : Halt} :
    (session.produce arguments configuration crate).1 ≠ .halted halt := by
  rw [produce]
  intro halted
  split at halted
  · cases halted
  · split at halted
    · cases halted
    · rw [writeGraph] at halted
      split at halted <;> cases halted

/-! ### The whole run -/

theorem aborts_of_run (accepted : Arguments.ofTexts words = .ok arguments) {abort : Abort}
    (aborted : (run surroundings words).1 = .aborted abort) :
    Aborts surroundings arguments abort := by
  rcases stages surroundings arguments with
    logName | ⟨logName, fault, faulty⟩ | ⟨configuration, error, configured, refused⟩ |
      ⟨configuration, crate, loaded⟩
  · rw [run_of_unnamed accepted logName] at aborted
    cases aborted
    exact .logName logName
  · rw [run_of_fault accepted logName faulty] at aborted
    cases fault with
    | overlongPath error =>
        cases aborted
        rcases Choices.configuration_eq_overlongPath_iff.mp faulty with ⟨file, asked, overlong⟩
        exact .configurationPath logName asked overlong
    | _ => cases aborted
  · rw [configured.run_of_refused accepted refused, Session.refuse_eq_aborted_iff] at aborted
    rcases aborted with ⟨fault, rfl, rfl⟩ | ⟨fault, rfl, rfl⟩ | ⟨⟨digits⟩, rfl, rfl⟩
    · rcases Arguments.load_eq_manifestEncoding_iff.mp refused with
        ⟨isDirectory, content, held, undecodable⟩
      exact .manifest configured isDirectory held undecodable
    · rcases Arguments.load_eq_toolEncoding_iff.mp refused with
        ⟨isDirectory, name, result, named, ran, undecodable⟩
      exact .toolOutput configured isDirectory named ran undecodable
    · rcases Arguments.load_eq_integerTooLong_iff.mp refused with ⟨path, text, read, held, tooLong⟩
      exact .number configured read held tooLong
  · rw [loaded.run_eq accepted, Session.produce_eq_aborted_iff] at aborted
    rcases aborted with ⟨holdsZero, rfl⟩ |
      ⟨outputName, opens, ⟨missing, rfl⟩ | ⟨format, named, surrogate, rfl⟩⟩
    · exact .outputName loaded holdsZero
    · exact .format loaded outputName opens missing
    · exact .base loaded outputName opens named surrogate

theorem Aborts.run_eq {abort : Abort} (aborts : Aborts surroundings arguments abort)
    (accepted : Arguments.ofTexts words = .ok arguments) :
    (run surroundings words).1 = .aborted abort := by
  cases aborts with
  | logName holdsZero => rw [run_of_unnamed accepted holdsZero]
  | configurationPath logName asked overlong =>
      have faulty := Choices.configuration_eq_overlongPath_iff.mpr ⟨_, asked, overlong⟩
      rw [run_of_fault accepted logName faulty]
  | manifest configured isDirectory held undecodable =>
      rw [configured.run_of_refused accepted
        (Arguments.load_eq_manifestEncoding_iff.mpr ⟨isDirectory, _, held, undecodable⟩)]
      rfl
  | toolOutput configured isDirectory named ran undecodable =>
      rw [configured.run_of_refused accepted
        (Arguments.load_eq_toolEncoding_iff.mpr ⟨isDirectory, _, _, named, ran, undecodable⟩)]
      rfl
  | number configured read held tooLong =>
      rw [configured.run_of_refused accepted
        (Arguments.load_eq_integerTooLong_iff.mpr ⟨_, _, read, held, tooLong⟩)]
      rfl
  | outputName loaded holdsZero =>
      rw [loaded.run_eq accepted, Session.produce_eq_aborted_iff]
      exact Or.inl ⟨holdsZero, rfl⟩
  | format loaded outputName opens missing =>
      rw [loaded.run_eq accepted, Session.produce_eq_aborted_iff]
      exact Or.inr ⟨outputName, opens, Or.inl ⟨missing, rfl⟩⟩
  | base loaded outputName opens named surrogate =>
      rw [loaded.run_eq accepted, Session.produce_eq_aborted_iff]
      exact Or.inr ⟨outputName, opens, Or.inr ⟨_, named, surrogate, rfl⟩⟩

/-- Once the command line is accepted, nothing is left to halt the run. -/
theorem run_ne_halted (accepted : Arguments.ofTexts words = .ok arguments) (halt : Halt) :
    (run surroundings words).1 ≠ .halted halt := by
  rcases stages surroundings arguments with
    logName | ⟨logName, fault, faulty⟩ | ⟨configuration, error, configured, refused⟩ |
      ⟨configuration, crate, loaded⟩
  · rw [run_of_unnamed accepted logName]
    exact Ending.noConfusion
  · rw [run_of_fault accepted logName faulty]
    cases fault <;> exact Ending.noConfusion
  · rw [configured.run_of_refused accepted refused]
    exact Session.refuse_ne_halted
  · rw [loaded.run_eq accepted]
    exact Session.produce_ne_halted

/-- A run of an accepted command line is aborted in exactly the given ways, and in all other cases
it ends with an exit status. -/
theorem run_ends (accepted : Arguments.ofTexts words = .ok arguments) :
    (∀ abort, (run surroundings words).1 = .aborted abort ↔
        Aborts surroundings arguments abort) ∧
      ((∃ status, (run surroundings words).1 = .finished status) ↔
        ∀ abort, ¬Aborts surroundings arguments abort) := by
  have exactly : ∀ abort, (run surroundings words).1 = .aborted abort ↔
      Aborts surroundings arguments abort :=
    fun abort => ⟨aborts_of_run accepted, fun aborts => aborts.run_eq accepted⟩
  refine ⟨exactly, ?_⟩
  simp only [← exactly]
  cases ending : (run surroundings words).1 with
  | halted halt => exact absurd ending (run_ne_halted accepted halt)
  | finished status => simp
  | aborted abort => simp

/-- A directory `k` whose manifest is the byte `ff`. -/
def unreadableManifest : Surroundings where
  tree := ⟨["home"], [(["home", "k", "Cargo.toml"], .file [0xff])]⟩
  toolchain := some ⟨0, [], []⟩
  time := ""

def unreadableFault : Text.Utf8Fault := ⟨0, 0xff, 1, .invalidStart⟩

def unreadableArguments : Arguments := { Choices.default with input := "k" }

theorem ofTexts_unreadable : Arguments.ofTexts ["k"] = .ok unreadableArguments := by
  decide +kernel

theorem run_unreadableManifest :
    (run unreadableManifest ["k"]).1 = .aborted (.manifestEncoding unreadableFault) := by
  decide +kernel

theorem unreadableManifest_aborts :
    Arguments.ofTexts ["k"] = .ok unreadableArguments ∧
      Aborts unreadableManifest unreadableArguments (.manifestEncoding unreadableFault) :=
  ⟨ofTexts_unreadable, ((run_ends ofTexts_unreadable).1 _).mp run_unreadableManifest⟩

/-- The content of a file can end a run without an exit status, even if the command line has no
options that could be at fault. -/
theorem not_every_run_has_status :
    ¬∀ (surroundings : Surroundings) (words : List String) (arguments : Arguments),
      Arguments.ofTexts words = .ok arguments → arguments.toChoices = Choices.default →
        ∃ status, (run surroundings words).1 = .finished status := by
  intro always
  rcases always unreadableManifest ["k"] unreadableArguments ofTexts_unreadable rfl with
    ⟨status, finished⟩
  rw [run_unreadableManifest] at finished
  cases finished

end CrateGraph.CommandLine
