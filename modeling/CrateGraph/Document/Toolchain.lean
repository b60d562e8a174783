import CrateGraph.Document.Load
import CrateGraph.Manifest

/-!
Documents that the toolchain makes for a crate in a directory.

The toolchain is run once, and its result is given: whether it could be started, how it ended and
which bytes it wrote to its two outputs. Both are read as texts in UTF-8, whether or not they are
needed. The document that it leaves is found by the name in the manifest.
-/

namespace CrateGraph

structure ToolResult where
  exitCode : Int
  output : List UInt8
  errorOutput : List UInt8

/-- What the toolchain had to say of errors. Its other output is read first. -/
def ToolResult.errorText (result : ToolResult) : Except Text.Utf8Fault String := do
  let _ ← fileText result.output
  fileText result.errorOutput

/-- The toolchain, or `none` where it is not installed. -/
abbrev Toolchain := Option ToolResult

structure ToolCall where
  command : List String
  directory : String

inductive ToolError where
  | overlongPath (error : OverlongPath)
  | manifestMissing (directory : String)
  | manifestEncoding (fault : Text.Utf8Fault)
  | nameMissing (manifest : String)
  | notInstalled
  | toolEncoding (fault : Text.Utf8Fault)
  | failed (errorText : String)
  | documentMissing (path : String)
  | load (error : LoadError)
deriving DecidableEq

def ToolError.message : ToolError → String
  | .overlongPath error => error.message
  | .manifestMissing directory => "Cargo.toml not found in " ++ directory
  | .manifestEncoding fault => fault.message
  | .nameMissing manifest => "Could not determine crate name from " ++ manifest
  | .notInstalled => FileFault.notFound.message ++ ": 'cargo'"
  | .toolEncoding fault => fault.message
  | .failed errorText => "rustdoc failed: " ++ errorText
  | .documentMissing path => "rustdoc JSON output not found at: " ++ path
  | .load error => error.message

namespace Toolchain

def command : List String :=
  ["cargo", "+nightly", "rustdoc", "--", "-Z", "unstable-options", "--output-format", "json"]

def manifestPath (directory : Path) : Path :=
  directory.child "Cargo.toml"

def documentName (crateName : String) : String :=
  String.ofList (crateName.toList.map fun character => if character = '-' then '_' else character)
    ++ ".json"

def documentPath (directory : Path) (crateName : String) : Path :=
  ((directory.child "target").child "doc").child (documentName crateName)

structure Trace where
  calls : List ToolCall
  records : List LogRecord

def Trace.empty : Trace := ⟨[], []⟩

def manifestText (tree : FileTree) (directory : Path) : Except ToolError String :=
  match tree.content? (manifestPath directory) with
  | .error error => .error (.overlongPath error)
  | .ok none => .error (.manifestMissing directory.toString)
  | .ok (some content) =>
      match fileText content with
      | .error fault => .error (.manifestEncoding fault)
      | .ok text => .ok text

def crateName (tree : FileTree) (directory : Path) : Except ToolError String := do
  let text ← manifestText tree directory
  match (Manifest.name? text).filter (· != "") with
  | none => throw (.nameMissing (manifestPath directory).toString)
  | some name => pure name

def document (tree : FileTree) (toolchain : Toolchain) (directory : Path) (name : String) :
    Except ToolError Path :=
  match toolchain with
  | none => .error .notInstalled
  | some result =>
      match result.errorText with
      | .error fault => .error (.toolEncoding fault)
      | .ok errorText =>
          if result.exitCode ≠ 0 then .error (.failed (Text.strip errorText))
          else
            let path := documentPath directory name
            match tree.find path with
            | .error error => .error (.overlongPath error)
            | .ok none => .error (.documentMissing path.toString)
            | .ok (some _) => .ok path

def run (tree : FileTree) (toolchain : Toolchain) (directory : Path) :
    Except ToolError Path × Trace :=
  match crateName tree directory with
  | .error error => (.error error, Trace.empty)
  | .ok name =>
      (document tree toolchain directory name,
        { calls := [⟨command, directory.toString⟩]
          records := [DocumentReport.logRecord .info
            ("Running " ++ String.intercalate " " command ++ " in " ++ directory.toString)] })

def completeVersion (tree : FileTree) (directory : Path) (crate : Crate) :
    Except ToolError (Crate × List LogRecord) :=
  match crate.version with
  | some _ => .ok (crate, [])
  | none => do
      let text ← manifestText tree directory
      let completed := { crate with version := Manifest.version? text }
      match completed.version.filter (· != "") with
      | none => pure (completed, [])
      | some version =>
          pure (completed, [DocumentReport.logRecord .debug
            ("Using Cargo.toml version " ++ version ++ " for " ++ completed.name)])

def load (tree : FileTree) (toolchain : Toolchain) (directory : Path) :
    Except ToolError Crate × Trace :=
  match run tree toolchain directory with
  | (.error error, trace) => (.error error, trace)
  | (.ok path, trace) =>
      match Crate.load tree path with
      | (.error error, records) =>
          (.error (.load error), { trace with records := trace.records ++ records })
      | (.ok crate, records) =>
          match completeVersion tree directory crate with
          | .error error =>
              (.error error, { trace with records := trace.records ++ records })
          | .ok (completed, notes) =>
              (.ok completed, { trace with records := trace.records ++ records ++ notes })

end Toolchain

end CrateGraph
