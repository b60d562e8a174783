import CrateGraph.CommandLine.Run

/-!
The stages of a run of the command.

Once its command line is accepted, a run opens its log, combines its options, announces what it
loads, loads it, and writes the graph. Each stage needs the one before it, and works on the files
that the one before it left: a log file may well be what is asked for next.
-/

namespace CrateGraph.CommandLine

variable {surroundings : Surroundings} {arguments : Arguments} {configuration : Configuration}
  {crate : Crate} {words : List String}

namespace Surroundings

def start (surroundings : Surroundings) (arguments : Arguments) : Session :=
  Session.start surroundings.tree surroundings.time arguments.threshold

def opened (surroundings : Surroundings) (arguments : Arguments) : Session :=
  (arguments.logFile.map (surroundings.start arguments).openLog).getD
    (surroundings.start arguments)

/-- The session of a run that has said which options it has and what it loads. -/
def announced (surroundings : Surroundings) (arguments : Arguments)
    (configuration : Configuration) : Session :=
  (surroundings.opened arguments).logAll
    [commandRecord .debug ("Extraction options: " ++ configuration.display),
      commandRecord .info ("Loading input from: " ++ arguments.input)]

def loading (surroundings : Surroundings) (arguments : Arguments)
    (configuration : Configuration) : Except ToolError Crate × List LogRecord :=
  arguments.load (surroundings.announced arguments configuration).tree surroundings.toolchain

def loaded (surroundings : Surroundings) (arguments : Arguments)
    (configuration : Configuration) : Session :=
  (surroundings.announced arguments configuration).logAll
    (surroundings.loading arguments configuration).2

end Surroundings

/-- The run has combined its options to the given configuration. -/
structure Configured (surroundings : Surroundings) (arguments : Arguments)
    (configuration : Configuration) : Prop where
  logName : arguments.logFile.any Path.holdsZero = false
  options : arguments.configuration (surroundings.opened arguments).tree = .ok configuration

/-- The run has loaded the crate, and goes on to write its graph. -/
structure Loaded (surroundings : Surroundings) (arguments : Arguments)
    (configuration : Configuration) (crate : Crate) : Prop
    extends Configured surroundings arguments configuration where
  crate : (surroundings.loading arguments configuration).1 = .ok crate

theorem run_of_unnamed (accepted : Arguments.ofTexts words = .ok arguments)
    (logName : arguments.logFile.any Path.holdsZero = true) :
    run surroundings words = (.aborted .zeroInName, surroundings.start arguments) := by
  simp only [run, accepted, logName, if_true, Surroundings.start]

theorem run_of_named (accepted : Arguments.ofTexts words = .ok arguments)
    (logName : arguments.logFile.any Path.holdsZero = false) :
    run surroundings words =
      (surroundings.opened arguments).run surroundings.toolchain arguments := by
  simp only [run, accepted, logName, Bool.false_eq_true, if_false, Surroundings.opened,
    Surroundings.start]

theorem run_of_fault (accepted : Arguments.ofTexts words = .ok arguments)
    (logName : arguments.logFile.any Path.holdsZero = false) {fault : ConfigurationFault}
    (faulty : arguments.configuration (surroundings.opened arguments).tree = .error fault) :
    run surroundings words =
      match fault with
      | .overlongPath error =>
          (.aborted (.overlongConfigurationPath error), surroundings.opened arguments)
      | fault =>
          (.finished .invalidConfiguration, (surroundings.opened arguments).complain
            ("Configuration error: " ++ fault.message)) := by
  rw [run_of_named accepted logName]
  cases fault <;> simp only [Session.run, faulty]

theorem Configured.run_of_loading (configured : Configured surroundings arguments configuration)
    (accepted : Arguments.ofTexts words = .ok arguments) :
    run surroundings words =
      match (surroundings.loading arguments configuration).1 with
      | .error error => (surroundings.loaded arguments configuration).refuse error
      | .ok crate =>
          (surroundings.loaded arguments configuration).produce arguments configuration crate := by
  rw [run_of_named accepted configured.logName, Session.run, configured.options]
  rw [Surroundings.loaded, Surroundings.loading, Surroundings.announced]
  dsimp only
  split <;> simp_all

theorem Configured.run_of_refused (configured : Configured surroundings arguments configuration)
    (accepted : Arguments.ofTexts words = .ok arguments) {error : ToolError}
    (refused : (surroundings.loading arguments configuration).1 = .error error) :
    run surroundings words = (surroundings.loaded arguments configuration).refuse error := by
  rw [configured.run_of_loading accepted, refused]

theorem Loaded.run_eq (loaded : Loaded surroundings arguments configuration crate)
    (accepted : Arguments.ofTexts words = .ok arguments) :
    run surroundings words =
      (surroundings.loaded arguments configuration).produce arguments configuration crate := by
  rw [loaded.toConfigured.run_of_loading accepted, loaded.crate]

/-- How far a run gets: it stops at the name of its log, at its configuration or at its crate, or
it comes to write the graph. -/
theorem stages (surroundings : Surroundings) (arguments : Arguments) :
    arguments.logFile.any Path.holdsZero = true ∨
      (arguments.logFile.any Path.holdsZero = false ∧ ∃ fault,
        arguments.configuration (surroundings.opened arguments).tree = .error fault) ∨
      (∃ configuration error, Configured surroundings arguments configuration ∧
        (surroundings.loading arguments configuration).1 = .error error) ∨
      ∃ configuration crate, Loaded surroundings arguments configuration crate := by
  by_cases logName : arguments.logFile.any Path.holdsZero = true
  · exact Or.inl logName
  · rw [Bool.not_eq_true] at logName
    cases options : arguments.configuration (surroundings.opened arguments).tree with
    | error fault => exact Or.inr (Or.inl ⟨logName, fault, rfl⟩)
    | ok configuration =>
        have configured : Configured surroundings arguments configuration := ⟨logName, options⟩
        cases crate : (surroundings.loading arguments configuration).1 with
        | error error => exact Or.inr (Or.inr (Or.inl ⟨configuration, error, configured, crate⟩))
        | ok crate => exact Or.inr (Or.inr (Or.inr ⟨configuration, _, configured, crate⟩))

end CrateGraph.CommandLine
