import CrateGraph.Text.Blank
import CrateGraph.Text.LineBreak

/-!
What is read from a crate's manifest, one line at a time.
-/

namespace CrateGraph.Manifest

/-- The value of a line: what follows its first equals sign, without blanks and quotes around
it. -/
def lineValue? (line : String) : Option String :=
  match line.toList.dropWhile (· != '=') with
  | [] => none
  | _ :: value =>
      some (Text.stripCharacter '\'' (Text.stripCharacter '"' (Text.strip (String.ofList value))))

def valueFor? (key : String) (line : String) : Option String :=
  if key.toList.isPrefixOf line.toList then lineValue? line else none

def lines (text : String) : List String :=
  (Text.splitLines text).map Text.strip

def name? (text : String) : Option String :=
  (lines text).findSome? (valueFor? "name")

/-- The first version among some lines, of which those belong to the package table that follow its
header and precede the next one. -/
def versionFrom? (inPackage : Bool) : List String → Option String
  | [] => none
  | line :: rest =>
      if line = "[package]" then versionFrom? true rest
      else if "[".toList.isPrefixOf line.toList then versionFrom? false rest
      else
        match if inPackage then valueFor? "version" line else none with
        | some value => some value
        | none => versionFrom? inPackage rest

def version? (text : String) : Option String :=
  versionFrom? false (lines text)

example : name? "[package]\nname = \"my-crate\"\n" = some "my-crate" := by decide +kernel

example : version? "[x]\nversion = 1\n [package]\nversion='0.3'" = some "0.3" := by decide +kernel

end CrateGraph.Manifest
