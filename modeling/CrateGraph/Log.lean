/-!
Records of what happened during a run.
-/

namespace CrateGraph

inductive LogLevel where
  | debug
  | info
  | warning
  | error
deriving DecidableEq

namespace LogLevel

def name : LogLevel → String
  | .debug => "DEBUG"
  | .info => "INFO"
  | .warning => "WARNING"
  | .error => "ERROR"

def severity : LogLevel → Nat
  | .debug => 10
  | .info => 20
  | .warning => 30
  | .error => 40

end LogLevel

inductive LogSource where
  | command
  | documents
  | extraction
deriving DecidableEq

def LogSource.name : LogSource → String
  | .command => "rust2rdf.cli"
  | .documents => "rust2rdf.rustdoc_parser"
  | .extraction => "rust2rdf.extractor"

structure LogRecord where
  source : LogSource
  level : LogLevel
  message : String
deriving DecidableEq

end CrateGraph
