import CrateGraph.Files.Tree
import CrateGraph.Log

/-!
The state of a run: the files, what was printed so far, and where log records go.

Log records go to the error output and, if there is one, to the log file, provided that they are
severe enough.
-/

namespace CrateGraph

def LogRecord.line (record : LogRecord) (time : String) : String :=
  String.intercalate " - " [time, record.source.name, record.level.name, record.message] ++ "\n"

namespace CommandLine

structure Session where
  tree : FileTree
  output : String
  errors : String
  time : String
  threshold : LogLevel
  /-- The place of the log file. -/
  logPlace : Option (List String)

namespace Session

def start (tree : FileTree) (time : String) (threshold : LogLevel) : Session where
  tree := tree
  output := ""
  errors := ""
  time := time
  threshold := threshold
  logPlace := none

def print (session : Session) (text : String) : Session :=
  { session with output := session.output ++ text }

def complain (session : Session) (message : String) : Session :=
  { session with errors := session.errors ++ message ++ "\n" }

def appendToLog (session : Session) (text : String) : Session :=
  match session.logPlace with
  | none => session
  | some place => { session with tree := session.tree.append place text.toUTF8.toList }

def log (session : Session) (record : LogRecord) : Session :=
  if record.level.severity < session.threshold.severity then session
  else
    let line := record.line session.time
    { session with errors := session.errors ++ line }.appendToLog line

def logAll (session : Session) (records : List LogRecord) : Session :=
  records.foldl log session

/-- Opens a log file, which keeps what it holds. Failing that, the run goes on without one. -/
def openLog (session : Session) (file : String) : Session :=
  let path := (session.tree.absolutePath file).toString
  match session.tree.writable path with
  | .error fault =>
      session.complain
        ("Warning: Could not create log file " ++ file ++ ": " ++ fault.messageFor path)
  | .ok place =>
      { session with tree := session.tree.append place [], logPlace := some place }

end Session

/-! ### Where the graph is written -/

inductive Destination where
  | standard
  | file (place : List String)

namespace Session

/-- Opens the output, which makes a file empty. -/
def openOutput (session : Session) : Option String → Except String (Session × Destination)
  | none => .ok (session, .standard)
  | some file =>
      match session.tree.writable file with
      | .error fault => .error (fault.messageFor file)
      | .ok place => .ok ({ session with tree := session.tree.write place [] }, .file place)

def write (session : Session) (text : String) : Destination → Session
  | .standard => session.print text
  | .file place => { session with tree := session.tree.overwrite place text.toUTF8.toList }

end Session

end CommandLine

end CrateGraph
