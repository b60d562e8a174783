import CrateGraph.Entries

/-!
Counts kept during an extraction. They go on from whatever they start at, which may be below zero.
-/

namespace CrateGraph

structure ExtractionStats where
  crateName : String
  crateVersion : String
  namespaces : Int
  types : Int
  functions : Int
  externalTypes : Int
  implementationsProcessed : Int
  /-- For each reason, how many implementations were left out for it. -/
  implementationsSkipped : Table Int
  unresolvedTypes : Int

namespace ExtractionStats

def start (crateName crateVersion : String) : ExtractionStats where
  crateName := crateName
  crateVersion := crateVersion
  namespaces := 0
  types := 0
  functions := 0
  externalTypes := 0
  implementationsProcessed := 0
  implementationsSkipped := Table.empty
  unresolvedTypes := 0

def skip (stats : ExtractionStats) (reason : String) : ExtractionStats :=
  let count := (stats.implementationsSkipped.get? reason).getD 0 + 1
  { stats with
    implementationsSkipped := stats.implementationsSkipped.insert reason count }

def skippedByReason (stats : ExtractionStats) : List (String × Int) :=
  stats.implementationsSkipped.entries.mergeSort fun left right => decide (left.1 ≤ right.1)

def summary (stats : ExtractionStats) : String :=
  let skipped :=
    if stats.implementationsSkipped.entries.isEmpty then []
    else
      let counts := stats.skippedByReason.map fun (reason, count) =>
        reason ++ "=" ++ toString count
      ["  Impls skipped: " ++ String.intercalate ", " counts]
  let unresolved :=
    if stats.unresolvedTypes = 0 then []
    else ["  Unresolved type references: " ++ toString stats.unresolvedTypes]
  String.intercalate "\n"
    (["Extraction Summary (" ++ stats.crateName ++ " v" ++ stats.crateVersion ++ "):",
      "  Namespaces: " ++ toString stats.namespaces,
      "  Types: " ++ toString stats.types,
      "  Functions: " ++ toString stats.functions,
      "  External types: " ++ toString stats.externalTypes,
      "  Impls processed: " ++ toString stats.implementationsProcessed] ++ skipped ++ unresolved)

end ExtractionStats

end CrateGraph
