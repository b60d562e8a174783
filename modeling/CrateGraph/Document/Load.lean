import CrateGraph.Document.Report
import CrateGraph.Files.Tree
import CrateGraph.Json.Decode
import CrateGraph.Text.LineBreak
import CrateGraph.Text.LowerCase
import CrateGraph.Text.Utf8

/-!
Documents from texts and from files.

A number with too many digits, or a path that is too long, is not a fault of the document that a
report could hold: it stops the reading altogether.
-/

namespace CrateGraph

structure IntegerTooLong where
  digits : Nat
deriving DecidableEq

inductive Interruption where
  | integerTooLong (error : IntegerTooLong)
  | overlongPath (error : OverlongPath)
deriving DecidableEq

def Interruption.message : Interruption → String
  | .integerTooLong error => Json.integerTooLongMessage error.digits
  | .overlongPath error => error.message

def fileText (content : List UInt8) : Except Text.Utf8Fault String :=
  (Text.decodeUtf8 content).map Text.unifyLineEnds

namespace DocumentReport

def addText (report : DocumentReport) (strict : Bool) (source text : String) :
    Except IntegerTooLong (DocumentReport × List LogRecord) :=
  match Json.decode text with
  | .error (.integerTooLong digits) => .error ⟨digits⟩
  | .error (.malformed cause position) =>
      let message := "Invalid JSON: " ++ Json.malformedMessage text cause position
      .ok (report.addError source message, [])
  | .ok document => .ok ({ report with filesRead := 1 }.addDocument strict source document)

def ofText (strict : Bool) (source text : String) :
    Except IntegerTooLong (DocumentReport × List LogRecord) :=
  empty.addText strict source text

/-- The report on the document in a file, whose name is expected to end in `.json`. -/
def ofFile (tree : FileTree) (strict : Bool) (path : Path) :
    Except Interruption (DocumentReport × List LogRecord) :=
  let source := path.toString
  match tree.find path with
  | .error error => .error (.overlongPath error)
  | .ok none => .ok (empty.addError source "File not found", [])
  | .ok (some .directory) => .ok (empty.addError source "Not a file", [])
  | .ok (some (.file content)) =>
      let report :=
        if Text.lowerCase path.suffix = ".json" then empty
        else empty.addWarning ("Unexpected file extension: " ++ path.suffix)
      match fileText content with
      | .error fault => .ok (report.addError source ("Encoding error: " ++ fault.message), [])
      | .ok text => (report.addText strict source text).mapError .integerTooLong

end DocumentReport

/-! ### Loading a crate from a file -/

inductive LoadError where
  | documentMissing (path : String)
  | unusable (error : DocumentError)
  | interrupted (cause : Interruption)
deriving DecidableEq

def LoadError.message : LoadError → String
  | .documentMissing path => "Rustdoc JSON not found: " ++ path
  | .unusable error => error.toString
  | .interrupted cause => cause.message

def DocumentReport.joinedErrors (report : DocumentReport) : String :=
  let joined := String.intercalate "; " (report.errors.map DocumentError.message)
  if joined = "" then "no crate parsed" else joined

def Crate.load (tree : FileTree) (path : Path) : Except LoadError Crate × List LogRecord :=
  match tree.find path with
  | .error error => (.error (.interrupted (.overlongPath error)), [])
  | .ok none => (.error (.documentMissing path.toString), [])
  | .ok (some _) =>
      match DocumentReport.ofFile tree false path with
      | .error cause => (.error (.interrupted cause), [])
      | .ok (report, records) =>
          let notes := report.warnings.map fun warning =>
            DocumentReport.logRecord .debug (path.toString ++ ": " ++ warning)
          match report.crate with
          | some crate => (.ok crate, records ++ notes)
          | none =>
              (.error (.unusable ⟨path.toString, report.joinedErrors⟩), records ++ notes)

end CrateGraph
