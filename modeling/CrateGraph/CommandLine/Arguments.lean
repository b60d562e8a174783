import CrateGraph.CommandLine.Words

/-!
What a command line asks for.

The words are acted on from left to right, and the first fault ends the reading. The first operand
is the input. Only after the last word is it known whether there was an input and whether something
was left over.
-/

namespace CrateGraph.CommandLine

/-- What the options of a command line choose. A setting without text counts as not given. -/
structure Choices where
  output : Option String
  format : Option Rdf.Format
  base : Option String
  config : Option String
  logFile : Option String
  switches : List Switch
deriving DecidableEq

def Choices.default : Choices where
  output := none
  format := some .ntriples
  base := none
  config := none
  logFile := none
  switches := []

def Choices.has (choices : Choices) (switch : Switch) : Bool :=
  switch ∈ choices.switches

structure Arguments extends Choices where
  input : String
deriving DecidableEq

inductive Halt where
  | help
  | version
  | usage (error : UsageError)
deriving DecidableEq

namespace Choices

def opposite? : Switch → Option Switch
  | .verbose => some .quiet
  | .quiet => some .verbose
  | _ => none

def turnOn (choices : Choices) (switch : Switch) : Except Halt Choices :=
  match switch with
  | .help => .error .help
  | .version => .error .version
  | switch =>
      match (opposite? switch).filter choices.has with
      | some earlier => .error (.usage (.excluded switch earlier))
      | none => .ok { choices with switches := switch :: choices.switches }

/-- The text of a setting. Two hyphens alone stand for no text at all. -/
def given? (value : String) : Option String :=
  if value = "" || value = "--" then none else some value

/-- The case of the letters in the name of a format does not matter. Two hyphens take back the
format. -/
def chooseFormat (choices : Choices) (name : String) : Except Halt Choices :=
  let lower := Text.lowerCase name
  match Entries.get? lower Rdf.Format.names with
  | some format => .ok { choices with format := some format }
  | none =>
      if name = "--" then .ok { choices with format := none }
      else .error (.usage (.unknownFormat lower))

def set (choices : Choices) (setting : Setting) (value : String) : Except Halt Choices :=
  match setting with
  | .output => .ok { choices with output := given? value }
  | .format => choices.chooseFormat value
  | .base => .ok { choices with base := given? value }
  | .config => .ok { choices with config := given? value }
  | .logFile => .ok { choices with logFile := given? value }

def fulfil (choices : Choices) : Request → Except Halt Choices
  | .switch switch => choices.turnOn switch
  | .setting setting value => choices.set setting value

def fulfilAll (choices : Choices) (requests : List Request) : Except Halt Choices :=
  requests.foldlM fulfil choices

end Choices

/-! ### Reading the words -/

structure Intake where
  choices : Choices
  input : Option String
  leftover : List String

namespace Intake

def start : Intake := ⟨Choices.default, none, []⟩

def leave (intake : Intake) (text : String) : Intake :=
  { intake with leftover := intake.leftover ++ [text] }

def operand (intake : Intake) (text : String) : Intake :=
  match intake.input with
  | none => { intake with input := some text }
  | some _ => intake.leave text

def accept (intake : Intake) (requests : List Request) : Except Halt Intake := do
  let choices ← intake.choices.fulfilAll requests
  pure { intake with choices := choices }

/-- Reads the words. `isNext` says that the word just before was taken as the input; a separator
next to the input belongs to it. -/
def read (intake : Intake) (isNext : Bool) : List Word → Except Halt Intake
  | [] => .ok intake
  | .operand text :: rest => (intake.operand text).read intake.input.isNone rest
  | .separator :: rest =>
      if isNext || intake.input.isNone then intake.read false rest
      else (intake.leave "--").read false rest
  | .unknownOption text :: rest => (intake.leave text).read false rest
  | .option use :: rest =>
      match Reading.ofUse use with
      | .error error => .error (.usage error)
      | .ok reading =>
          match reading.pending, rest with
          | none, rest => do (← intake.accept reading.requests).read false rest
          | some setting, .operand value :: rest => do
              (← intake.accept (reading.requests ++ [.setting setting value])).read false rest
          | some setting, _ => .error (.usage (.valueMissing setting))

def finish (intake : Intake) : Except Halt Arguments :=
  match intake.input, intake.leftover with
  | none, _ => .error (.usage .inputMissing)
  | some input, [] => .ok { intake.choices with input := input }
  | some _, words => .error (.usage (.unrecognized words))

end Intake

def Arguments.ofTexts (texts : List String) : Except Halt Arguments := do
  let words ← (Word.ofTexts texts).mapError .usage
  (← Intake.start.read false words).finish

example : Arguments.ofTexts ["--json", "-qo", "x.nt", "--", "-a"] =
    .ok { Choices.default with
      output := some "x.nt", switches := [.quiet, .json], input := "-a" } := by
  cbv

example : Arguments.ofTexts ["a", "-v", "b", "-vq"] =
    .error (.usage (.excluded .quiet .verbose)) := by
  cbv

example : Arguments.ofTexts ["a", "-v=q=o"] =
    .error (.usage (.superfluousValue .quiet "=o")) := by
  cbv

example :
    { Choices.default with output := some "x.nt" }.set .output "--" = .ok Choices.default := by
  rfl

example : Arguments.ofTexts ["a", "b", "--output", "--no"] =
    .error (.usage (.ambiguous "--no" ["--no-error-types", "--no-derives"])) := by
  cbv

end CrateGraph.CommandLine
