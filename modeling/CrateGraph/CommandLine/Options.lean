import CrateGraph.Entries
import CrateGraph.Rdf.Format
import CrateGraph.Text.Quoted

/-!
The options of the command, their spellings, and what can be wrong with a command line.

A switch stands for itself, and a setting takes a value. A long spelling starts with two hyphens, a
short one is a hyphen and a letter.
-/

namespace CrateGraph.CommandLine

inductive Switch where
  | help
  | excludeImplementations
  | excludeAttributes
  | noErrorTypes
  | noDerives
  | json
  | progress
  | verbose
  | quiet
  | version
deriving DecidableEq

inductive Setting where
  | output
  | format
  | base
  | config
  | logFile
deriving DecidableEq

inductive OptionKind where
  | switch (switch : Switch)
  | setting (setting : Setting)
deriving DecidableEq

namespace OptionKind

def spellings : Entries String OptionKind :=
  [("-h", .switch .help), ("--help", .switch .help),
    ("--output", .setting .output), ("-o", .setting .output),
    ("--format", .setting .format), ("-f", .setting .format),
    ("--base-uri", .setting .base), ("-b", .setting .base),
    ("--exclude-impls", .switch .excludeImplementations),
    ("--exclude-attributes", .switch .excludeAttributes),
    ("--no-error-types", .switch .noErrorTypes),
    ("--no-derives", .switch .noDerives),
    ("--json", .switch .json),
    ("--config", .setting .config), ("-c", .setting .config),
    ("--progress", .switch .progress),
    ("--log-file", .setting .logFile),
    ("--verbose", .switch .verbose), ("-v", .switch .verbose),
    ("--quiet", .switch .quiet), ("-q", .switch .quiet),
    ("--version", .switch .version)]

def ofSpelling? (spelling : String) : Option OptionKind :=
  Entries.get? spelling spellings

def displayName (kind : OptionKind) : String :=
  String.intercalate "/" ((spellings.filter fun (_, other) => other = kind).map Prod.fst)

def completions (start : String) : Entries String OptionKind :=
  spellings.filter fun (spelling, _) => start.toList.isPrefixOf spelling.toList

example : (spellings.map Prod.fst).Nodup := by decide +kernel

example : (displayName (.setting .output)) = "--output/-o" := by decide +kernel

example : (completions "--no").map Prod.fst = ["--no-error-types", "--no-derives"] := by
  decide +kernel

end OptionKind

/-! ### Faults of a command line -/

inductive UsageError where
  | ambiguous (word : String) (candidates : List String)
  | superfluousValue (switch : Switch) (value : String)
  | valueMissing (setting : Setting)
  | unknownFormat (name : String)
  | excluded (switch earlier : Switch)
  | inputMissing
  | unrecognized (words : List String)
deriving DecidableEq

namespace UsageError

def ofOption (kind : OptionKind) (detail : String) : String :=
  "argument " ++ kind.displayName ++ ": " ++ detail

def message : UsageError → String
  | .ambiguous word candidates =>
      "ambiguous option: " ++ word ++ " could match " ++ String.intercalate ", " candidates
  | .superfluousValue switch value =>
      ofOption (.switch switch) ("ignored explicit argument " ++ Text.quoted value)
  | .valueMissing setting => ofOption (.setting setting) "expected one argument"
  | .unknownFormat name =>
      ofOption (.setting .format) ("invalid choice: " ++ Text.quoted name ++ " (choose from " ++
        String.intercalate ", " (Rdf.Format.names.map fun (name, _) => Text.quoted name) ++ ")")
  | .excluded switch earlier =>
      ofOption (.switch switch)
        ("not allowed with argument " ++ (OptionKind.switch earlier).displayName)
  | .inputMissing => "the following arguments are required: input"
  | .unrecognized words => "unrecognized arguments: " ++ String.intercalate " " words

end UsageError

end CrateGraph.CommandLine
