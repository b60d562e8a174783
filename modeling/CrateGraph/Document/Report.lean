import CrateGraph.Crate.ReadItems
import CrateGraph.Log

/-!
Reading a document and reporting on it.

A document is refused when a text in it is not ordinary, or when it is not a crate at all. Items of
unknown kinds are counted by their tags and reported, in strict mode as errors.
-/

namespace CrateGraph

structure DocumentError where
  source : String
  message : String
deriving DecidableEq

def DocumentError.toString (error : DocumentError) : String :=
  error.source ++ ": " ++ error.message

structure DocumentReport where
  crate : Option Crate
  errors : List DocumentError
  warnings : List String
  filesRead : Nat

namespace DocumentReport

def empty : DocumentReport := ⟨none, [], [], 0⟩

def success (report : DocumentReport) : Bool :=
  report.crate.isSome && report.errors.isEmpty

def addError (report : DocumentReport) (source message : String) : DocumentReport :=
  { report with errors := report.errors ++ [⟨source, message⟩] }

def addWarning (report : DocumentReport) (message : String) : DocumentReport :=
  { report with warnings := report.warnings ++ [message] }

def versionText (crate : Crate) : String :=
  (crate.version.filter (· != "")).getD "?"

def crateLines (crate : Crate) : List String :=
  ["  Crate: " ++ crate.name ++ " v" ++ versionText crate,
    "  Format version: " ++ toString crate.formatVersion,
    "  Items: " ++ toString crate.index.size]

def errorLines (errors : List DocumentError) : List String :=
  if errors.isEmpty then []
  else
    ("  Errors: " ++ toString errors.length) ::
      (errors.take 5).map (fun error => "    - " ++ error.toString) ++
      (if 5 < errors.length then
        ["    ... and " ++ toString (errors.length - 5) ++ " more"]
      else [])

def summary (report : DocumentReport) : String :=
  String.intercalate "\n"
    (["Parse Summary:", "  Files parsed: " ++ toString report.filesRead] ++
      (report.crate.map crateLines).getD [] ++
      errorLines report.errors ++
      (if report.warnings.isEmpty then []
        else ["  Warnings: " ++ toString report.warnings.length]))

end DocumentReport

/-! ### Items of unknown kinds -/

/-- The label of an unknown kind: its tag, where an empty one counts as missing. -/
def unknownKind? (item : Item) : Option String :=
  match item.body with
  | .unknown tag => some ((tag.filter (· != "")).getD "<missing>")
  | _ => none

def unknownKinds (crate : Crate) : List String :=
  crate.index.values.filterMap unknownKind?

def countEach (texts : List String) : List (String × Nat) :=
  let distinct := texts.eraseDups.mergeSort fun left right => decide (left ≤ right)
  distinct.map fun text => (text, texts.count text)

def unknownKindMessage (label : String) (count : Nat) : String :=
  "Unrecognized item kind '" ++ label ++ "' (" ++ toString count ++
    " item(s)); left unextracted"

/-! ### Reading -/

namespace DocumentReport

def logRecord (level : LogLevel) (message : String) : LogRecord :=
  ⟨.documents, level, message⟩

def addCrate (report : DocumentReport) (strict : Bool) (source : String) (crate : Crate) :
    DocumentReport × List LogRecord :=
  let messages := (countEach (unknownKinds crate)).map fun (label, count) =>
    unknownKindMessage label count
  let report := messages.foldl
    (fun report message =>
      if strict then report.addError source message else report.addWarning message) report
  let report :=
    if (crate.index.get? crate.root).isSome then report
    else report.addWarning ("Root item " ++ crate.root ++ " not present in index")
  ({ report with crate := some crate },
    messages.map (fun message => logRecord .warning (source ++ ": " ++ message)) ++
      [logRecord .info ("Parsed " ++ source ++ ": crate " ++ crate.name ++ " v" ++
        versionText crate ++ ", format version " ++ toString crate.formatVersion ++ ", " ++
        toString crate.index.size ++ " items")])

def addDocument (report : DocumentReport) (strict : Bool) (source : String)
    (document : Json WideText) : DocumentReport × List LogRecord :=
  match document.narrow? with
  | none =>
      (report.addError source "Invalid Unicode in string value: surrogates not allowed", [])
  | some value =>
      match Crate.ofJson value with
      | .error error => (report.addError source error.message, [])
      | .ok crate => report.addCrate strict source crate

def ofJson (strict : Bool) (source : String) (document : Json WideText) :
    DocumentReport × List LogRecord :=
  { empty with filesRead := 1 }.addDocument strict source document

end DocumentReport

end CrateGraph
