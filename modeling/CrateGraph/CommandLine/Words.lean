import CrateGraph.CommandLine.Options
import CrateGraph.Text.DecimalDigit

/-!
The words of a command line, told apart before any of them is acted on.

A word that starts with a hyphen is meant as an option. It may carry a value of its own, after an
equals sign or, behind a short spelling, without one; and a long spelling may be cut short as long
as only one option starts like it. Two hyphens alone end the options: every word after them is an
operand.
-/

namespace CrateGraph.CommandLine

inductive Attachment where
  | none
  | assigned (value : List Char)
  | joined (rest : List Char)
deriving DecidableEq

structure OptionUse where
  kind : OptionKind
  attachment : Attachment
deriving DecidableEq

inductive Word where
  | operand (text : String)
  | separator
  | option (use : OptionUse)
  | unknownOption (text : String)
deriving DecidableEq

namespace Word

def splitAtEquals (characters : List Char) : List Char × Attachment :=
  match characters.dropWhile (· != '=') with
  | [] => (characters, .none)
  | _ :: value => (characters.takeWhile (· != '='), .assigned value)

/-- A word that names no option, though it starts with a hyphen. Numbers below zero and texts with
spaces are meant as operands. -/
def unnamed (text : String) : Word :=
  if Text.isNegativeNumber text || text.toList.contains ' ' then .operand text
  else .unknownOption text

def ofLong (text : String) : Except UsageError Word :=
  let (name, attachment) := splitAtEquals text.toList
  match OptionKind.ofSpelling? (String.ofList name) with
  | some kind => .ok (.option ⟨kind, attachment⟩)
  | none =>
      match OptionKind.completions (String.ofList name) with
      | [] => .ok (unnamed text)
      | [(_, kind)] => .ok (.option ⟨kind, attachment⟩)
      | candidates => .error (.ambiguous text (candidates.map Prod.fst))

/-- A word that starts with one hyphen and the given letter. An equals sign right behind the letter
is passed over; at the end of the word it assigns the empty text. -/
def ofShort (text : String) (letter : Char) (rest : List Char) : Word :=
  match OptionKind.ofSpelling? (String.ofList ['-', letter]) with
  | none => unnamed text
  | some kind =>
      match rest with
      | [] => .option ⟨kind, .none⟩
      | ['='] => .option ⟨kind, .assigned []⟩
      | '=' :: joined => .option ⟨kind, .joined joined⟩
      | joined => .option ⟨kind, .joined joined⟩

def ofText (text : String) : Except UsageError Word :=
  match text.toList with
  | '-' :: '-' :: _ => ofLong text
  | '-' :: letter :: rest => .ok (ofShort text letter rest)
  | _ => .ok (.operand text)

def ofTexts : List String → Except UsageError (List Word)
  | [] => .ok []
  | text :: rest =>
      if text = "--" then .ok (.separator :: rest.map .operand)
      else do
        let word ← ofText text
        let words ← ofTexts rest
        pure (word :: words)

end Word

/-! ### Options in one word -/

inductive Request where
  | switch (switch : Switch)
  | setting (setting : Setting) (value : String)
deriving DecidableEq

structure Reading where
  requests : List Request
  pending : Option Setting
deriving DecidableEq

namespace Reading

def precededBy (reading : Reading) (switch : Switch) : Reading :=
  { reading with requests := .switch switch :: reading.requests }

def ofRequest (request : Request) : Reading :=
  ⟨[request], none⟩

/-- Reads the letters after a short switch, each of them an option again. `switch` is the option
before them, and where a letter is no option, the rest of the word counts as a value of it. A
setting takes what is left of the word as its value. -/
def ofLetters (switch : Switch) : List Char → Except UsageError Reading
  | [] => .ok (ofRequest (.switch switch))
  | letter :: rest =>
      match OptionKind.ofSpelling? (String.ofList ['-', letter]) with
      | none => .error (.superfluousValue switch (String.ofList (letter :: rest)))
      | some (.switch next) => (ofLetters next rest).map (·.precededBy switch)
      | some (.setting setting) =>
          match rest with
          | [] => .ok ⟨[.switch switch], some setting⟩
          | value => .ok ⟨[.switch switch, .setting setting (String.ofList value)], none⟩

def ofUse (use : OptionUse) : Except UsageError Reading :=
  match use.kind, use.attachment with
  | .switch switch, .none => .ok (ofRequest (.switch switch))
  | .switch switch, .assigned value => .error (.superfluousValue switch (String.ofList value))
  | .switch switch, .joined letters => ofLetters switch letters
  | .setting setting, .none => .ok ⟨[], some setting⟩
  | .setting setting, .assigned value => .ok (ofRequest (.setting setting (String.ofList value)))
  | .setting setting, .joined value => .ok (ofRequest (.setting setting (String.ofList value)))

end Reading

end CrateGraph.CommandLine
