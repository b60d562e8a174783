import CrateGraph.CommandLine.Arguments
import CrateGraph.CommandLine.Session
import CrateGraph.Document.Toolchain
import CrateGraph.Extraction.ConfigurationFile
import CrateGraph.Extraction.Run
import CrateGraph.Text.Unencodable

/-!
A run of the command, from its words to the files and texts that it leaves.

Options come from the configuration file and then from the command line, which has the last word.
The output is only opened once the crate is loaded, so a crate that cannot be loaded leaves an
earlier output alone.
-/

namespace CrateGraph.CommandLine

inductive ExitStatus where
  | success
  | failure
  | invalidDocument
  | invalidConfiguration
  | inputMissing
deriving DecidableEq

def ExitStatus.code : ExitStatus → Nat
  | .success => 0
  | .failure => 1
  | .invalidDocument => 2
  | .invalidConfiguration => 3
  | .inputMissing => 5

/-- Faults that a run does not deal with. -/
inductive Abort where
  | manifestEncoding (fault : Text.Utf8Fault)
  | toolEncoding (fault : Text.Utf8Fault)
  | integerTooLong (error : IntegerTooLong)
  | overlongConfigurationPath (error : OverlongPath)
  /-- A file that is to be written has the character zero in its name. -/
  | zeroInName
  | formatMissing
  /-- A line that is to be written holds a surrogate. -/
  | unencodable (line : WideText)
deriving DecidableEq

def Abort.message : Abort → String
  | .manifestEncoding fault | .toolEncoding fault => fault.message
  | .integerTooLong error => Json.integerTooLongMessage error.digits
  | .overlongConfigurationPath error => error.message
  | .zeroInName => "embedded null byte"
  | .formatMissing => "'list' object has no attribute 'strip'"
  | .unencodable line => ((Text.unencodable? line).map Text.UnencodableRun.message).getD ""

inductive Ending where
  | halted (halt : Halt)
  | finished (status : ExitStatus)
  | aborted (error : Abort)
deriving DecidableEq

def Ending.code? : Ending → Option Nat
  | .halted (.usage _) => some 2
  | .halted _ => some 0
  | .finished status => some status.code
  | .aborted _ => none

structure Surroundings where
  tree : FileTree
  toolchain : Toolchain
  time : String

def programName : String := "rust2rdf"

def programVersion : String := "0.1.0"

def helpText : String :=
  String.intercalate "\n"
    ["usage: rust2rdf [options] input",
      "",
      "Extract Rust crate type graphs to RDF",
      "",
      "  input                   Path to crate directory or rustdoc JSON file",
      "  -h, --help              Show this help message and exit",
      "  --output, -o FILE       Output file path (default: stdout)",
      "  --format, -f FORMAT     Output format: ntriples, nt, turtle, ttl (default: ntriples)",
      "  --base-uri, -b URI      Base URI for IRIs",
      "  --exclude-impls         Exclude impl blocks",
      "  --exclude-attributes    Exclude attribute information",
      "  --no-error-types        Don't extract Result<T, E> error types",
      "  --no-derives            Don't extract derive macros",
      "  --json                  Input is a pre-generated rustdoc JSON file",
      "  --config, -c CONFIG     Path to JSON configuration file",
      "  --progress              Show a progress bar while processing impls",
      "  --log-file LOG_FILE     Also write log records to this file",
      "  --verbose, -v           Verbose output",
      "  --quiet, -q             Quiet output",
      "  --version               Show the version and exit",
      ""]

def Arguments.paths (arguments : Arguments) : List String :=
  [arguments.input, (Toolchain.manifestPath (Path.ofString arguments.input)).toString] ++
    [arguments.config, arguments.output, arguments.logFile].filterMap id

/-! ### Options -/

def Choices.threshold (choices : Choices) : LogLevel :=
  if choices.has .verbose then .debug
  else if choices.has .quiet then .error
  else .warning

def Choices.override (choices : Choices) (configuration : Configuration) : Configuration where
  base := (choices.base.map WideText.ofString).getD configuration.base
  includeImplementations :=
    configuration.includeImplementations && !choices.has .excludeImplementations
  includeAttributes := configuration.includeAttributes && !choices.has .excludeAttributes
  extractErrorTypes := configuration.extractErrorTypes && !choices.has .noErrorTypes
  extractDerives := configuration.extractDerives && !choices.has .noDerives

def Choices.configuration (choices : Choices) (tree : FileTree) :
    Except ConfigurationFault Configuration :=
  match choices.config with
  | none => .ok (choices.override Configuration.default)
  | some file => (Configuration.ofFile tree file).map choices.override

def commandRecord (level : LogLevel) (message : String) : LogRecord :=
  ⟨.command, level, message⟩

/-! ### Loading -/

def Arguments.load (arguments : Arguments) (tree : FileTree) (toolchain : Toolchain) :
    Except ToolError Crate × List LogRecord :=
  let path := Path.ofString arguments.input
  if arguments.has .json then
    let (result, records) := Crate.load tree path
    (result.mapError .load, records)
  else
    let (result, trace) := Toolchain.load tree toolchain path
    (result, trace.records)

def Session.refuse (session : Session) (error : ToolError) : Ending × Session :=
  let refusal := fun (status : ExitStatus) (words : String) =>
    (Ending.finished status, session.complain (words ++ error.message))
  match error with
  | .manifestMissing _ | .notInstalled | .load (.documentMissing _) =>
      refusal .inputMissing "Error: "
  | .load (.unusable _) => refusal .invalidDocument "Error: invalid rustdoc JSON: "
  | .nameMissing _ | .failed _ | .documentMissing _ | .overlongPath _
  | .load (.interrupted (.overlongPath _)) => refusal .failure "Error: "
  | .manifestEncoding fault => (.aborted (.manifestEncoding fault), session)
  | .toolEncoding fault => (.aborted (.toolEncoding fault), session)
  | .load (.interrupted (.integerTooLong error)) => (.aborted (.integerTooLong error), session)

/-! ### Writing -/

def Session.extract (session : Session) (arguments : Arguments) (format : Rdf.Format)
    (extraction : Extraction) (destination : Destination) : Session :=
  let (progress, events) := extraction.run (Progress.start extraction)
  let (writer, texts) :=
    (Rdf.Writer.ofFormat format).addAll (events.filterMap Event.statement?)
  let session := session.logAll (events.filterMap Event.log?)
  let session := session.write (String.join texts) destination
  let session := session.log (commandRecord .info progress.stats.summary)
  if arguments.has .quiet then session
  else
    session.complain
      ("Extracted " ++ toString writer.count ++ " triples from " ++ extraction.crateName ++ " v" ++
        extraction.crateVersion)

/-- Writes the graph of a crate to an output that is open. Every triple holds the base of all
addresses, so with a base that is no ordinary text the run ends at the first triple. -/
def Session.writeGraph (session : Session) (arguments : Arguments) (configuration : Configuration)
    (crate : Crate) (destination : Destination) : Ending × Session :=
  match arguments.format, configuration.options? with
  | none, _ => (.aborted .formatMissing, session)
  | some format, none =>
      (.aborted (.unencodable (.scalar '<' :: configuration.base)),
        session.write (format.preamble Ontology.namespaceNames) destination)
  | some format, some options =>
      (.finished .success, session.extract arguments format ⟨crate, options⟩ destination)

def Session.produce (session : Session) (arguments : Arguments) (configuration : Configuration)
    (crate : Crate) : Ending × Session :=
  if arguments.output.any Path.holdsZero then (.aborted .zeroInName, session)
  else
    match session.openOutput arguments.output with
    | .error message =>
        (.finished .failure, session.complain ("Error writing output: " ++ message))
    | .ok (session, destination) =>
        session.writeGraph arguments configuration crate destination

/-! ### The whole run -/

def Session.run (session : Session) (toolchain : Toolchain) (arguments : Arguments) :
    Ending × Session :=
  match arguments.configuration session.tree with
  | .error (.overlongPath error) => (.aborted (.overlongConfigurationPath error), session)
  | .error fault =>
      (.finished .invalidConfiguration,
        session.complain ("Configuration error: " ++ fault.message))
  | .ok configuration =>
      let session := session.logAll
        [commandRecord .debug ("Extraction options: " ++ configuration.display),
          commandRecord .info ("Loading input from: " ++ arguments.input)]
      match arguments.load session.tree toolchain with
      | (.error error, records) => (session.logAll records).refuse error
      | (.ok crate, records) => (session.logAll records).produce arguments configuration crate

def Session.halt (session : Session) (halt : Halt) : Ending × Session :=
  (.halted halt,
    match halt with
    | .help => session.print helpText
    | .version => session.print (programName ++ " " ++ programVersion ++ "\n")
    | .usage error => session.complain (programName ++ ": error: " ++ error.message))

def run (surroundings : Surroundings) (words : List String) : Ending × Session :=
  match Arguments.ofTexts words with
  | .error halt =>
      (Session.start surroundings.tree surroundings.time .warning).halt halt
  | .ok arguments =>
      let session := Session.start surroundings.tree surroundings.time arguments.threshold
      if arguments.logFile.any Path.holdsZero then (.aborted .zeroInName, session)
      else
        ((arguments.logFile.map session.openLog).getD session).run
          surroundings.toolchain arguments

end CrateGraph.CommandLine
