import CrateGraph.Entries
import CrateGraph.Markup.Fragment
import CrateGraph.Text.Alphanumeric
import CrateGraph.Text.Hexadecimal
import CrateGraph.Text.LineBreak

/-!
Reading of XML fragments, with names qualified by namespaces.

A fragment is what may stand inside an element: text, references, elements, comments, instructions
and verbatim sections. A label before a colon has to be bound to a namespace by an attribute of the
element or of one around it.
-/

namespace CrateGraph.Markup

/-! ### Characters and names -/

def isContentCharacter (character : Char) : Bool :=
  let code := character.toNat
  (0x20 ≤ code && code != 0xFFFE && code != 0xFFFF) || code == 0x09 || code == 0x0A || code == 0x0D

def isSpace (character : Char) : Bool :=
  character = ' ' || character = '\t' || character = '\n' || character = '\r'

def startsName (character : Char) : Bool :=
  character.isAlpha || character = '_' ||
    (0x80 ≤ character.toNat && character.toNat < 0x10000 && Text.isAlphanumeric character)

def continuesName (character : Char) : Bool :=
  startsName character || character.isDigit || character = '-' || character = '.' ||
    character = '·'

def takeSimpleName? : List Char → Option (List Char × List Char)
  | [] => none
  | first :: rest =>
      if startsName first then
        some (first :: rest.takeWhile continuesName, rest.dropWhile continuesName)
      else none

structure QualifiedName where
  label : List Char
  base : List Char
deriving DecidableEq

namespace QualifiedName

def characters (name : QualifiedName) : List Char :=
  if name.label.isEmpty then name.base else name.label ++ ':' :: name.base

def take? (characters : List Char) : Option (QualifiedName × List Char) := do
  let (first, rest) ← takeSimpleName? characters
  match rest with
  | ':' :: rest =>
      let (second, rest) ← takeSimpleName? rest
      guard (rest.head? != some ':')
      pure (⟨first, second⟩, rest)
  | rest => pure (⟨[], first⟩, rest)

end QualifiedName

/-! ### References -/

def namedReferences : Entries (List Char) Char :=
  [("lt".toList, '<'), ("gt".toList, '>'), ("amp".toList, '&'), ("quot".toList, '"'),
    ("apos".toList, '\'')]

def numberedCharacter? (number : Nat) : Option Char :=
  let character := Char.ofNat number
  if character.toNat = number && isContentCharacter character then some character else none

def numberIn? (base : Nat) (digits : List Char) : Option Nat :=
  if digits.isEmpty then none
  else
    digits.foldlM (fun value digit =>
      ((Text.hexValue? digit).filter (· < base)).map (value * base + ·)) 0

def reference? (inside : List Char) : Option Char :=
  match inside with
  | '#' :: 'x' :: digits => (numberIn? 16 digits).bind numberedCharacter?
  | '#' :: digits => (numberIn? 10 digits).bind numberedCharacter?
  | name => Entries.get? name namedReferences

def takeReference? (characters : List Char) : Option (Char × List Char) :=
  match characters.dropWhile (· != ';') with
  | [] => none
  | _ :: rest => (reference? (characters.takeWhile (· != ';'))).map fun found => (found, rest)

/-- Reads text up to a character that `stops` selects, provided that it does not hold `forbidden`;
`seen` holds in reverse what was read. -/
def takeText? (stops : Char → Bool) (forbidden : List Char) (fuel : Nat) (seen : List Char)
    (characters : List Char) : Option (List Char × List Char) :=
  match fuel, characters with
  | 0, _ => none
  | _, [] => some (seen.reverse, [])
  | fuel + 1, character :: rest =>
      if stops character then some (seen.reverse, characters)
      else if character = '&' then do
        let (found, rest) ← takeReference? rest
        takeText? stops forbidden fuel (found :: seen) rest
      else if isContentCharacter character && !forbidden.isPrefixOf characters then
        takeText? stops forbidden fuel (character :: seen) rest
      else none

def takeUpTo? (closing : List Char) (seen : List Char) : List Char → Option (List Char × List Char)
  | [] => none
  | character :: rest =>
      if closing.isPrefixOf (character :: rest) then
        some (seen.reverse, (character :: rest).drop closing.length)
      else if isContentCharacter character then takeUpTo? closing (character :: seen) rest
      else none

/-! ### Attributes -/

abbrev Attributes := List (QualifiedName × List Char)

/-- Reads the value of an attribute in quotes of either kind. Line ends and tabs that are not
written as references become spaces. -/
def takeValue? (characters : List Char) : Option (List Char × List Char) := do
  match characters with
  | quote :: rest =>
      guard (quote = '"' || quote = '\'')
      let written := rest.takeWhile (· != quote)
      let after := rest.dropWhile (· != quote)
      guard (after.head? = some quote)
      let spaced := written.map fun character => if isSpace character then ' ' else character
      let (value, rest) ← takeText? (· = '<') [quote] (spaced.length + 1) [] spaced
      guard rest.isEmpty
      pure (value, after.tail)
  | [] => none

def takeAttributes? (fuel : Nat) (seen : Attributes) (characters : List Char) :
    Option (Attributes × List Char) :=
  match fuel with
  | 0 => none
  | fuel + 1 =>
      let rest := characters.dropWhile isSpace
      match rest with
      | '>' :: _ | '/' :: _ => some (seen.reverse, rest)
      | rest =>
          if rest.length = characters.length then none
          else do
            let (name, rest) ← QualifiedName.take? rest
            match rest.dropWhile isSpace with
            | '=' :: rest =>
                let (value, rest) ← takeValue? (rest.dropWhile isSpace)
                takeAttributes? fuel ((name, value) :: seen) rest
            | _ => none

/-! ### Namespaces -/

/-- The namespaces in force under their labels; no label stands for names without one. -/
abbrev Bindings := Entries (List Char) (List Char)

def xmlNamespace : List Char := "http://www.w3.org/XML/1998/namespace".toList

def bindingNamespace : List Char := "http://www.w3.org/2000/xmlns/".toList

def Bindings.start : Bindings := [("xml".toList, xmlNamespace)]

def boundLabel? (name : QualifiedName) : Option (List Char) :=
  if name.label = "xmlns".toList then some name.base
  else if name = ⟨[], "xmlns".toList⟩ then some []
  else none

/-- Reserved labels and namespaces belong to each other only. -/
def isBindable (label iri : List Char) : Bool :=
  if label = "xml".toList then iri = xmlNamespace
  else
    label != "xmlns".toList && iri != xmlNamespace && iri != bindingNamespace &&
      (label.isEmpty || !iri.isEmpty) && !iri.contains ' '

def bindAll? (bindings : Bindings) (attributes : Attributes) : Option Bindings :=
  attributes.foldlM
    (fun bindings (name, value) =>
      match boundLabel? name with
      | none => some bindings
      | some label =>
          if isBindable label value then some (Entries.insert label value bindings) else none)
    bindings

def expanded? (bindings : Bindings) (name : QualifiedName) : Option (List Char × List Char) :=
  if name.label.isEmpty then some ([], name.base)
  else (Entries.get? name.label bindings).map fun iri => (iri, name.base)

/-- Attributes that bind labels come first. All labels are bound, and no attribute comes twice. -/
def arrange? (bindings : Bindings) (attributes : Attributes) : Option Attributes := do
  let (binders, others) := attributes.partition fun (name, _) => (boundLabel? name).isSome
  let names ← others.mapM fun (name, _) => expanded? bindings name
  guard ((attributes.map Prod.fst).Nodup ∧ names.Nodup)
  pure (binders ++ others)

/-! ### Nodes -/

def takeInstruction? (characters : List Char) : Option (Node × List Char) := do
  let (target, rest) ← takeSimpleName? characters
  guard (target.map Char.toLower ≠ "xml".toList)
  if "?>".toList.isPrefixOf rest then pure (.instruction target [], rest.drop 2)
  else
    guard (rest.head?.any isSpace)
    let (content, rest) ← takeUpTo? "?>".toList [] (rest.dropWhile isSpace)
    pure (.instruction target content, rest)

def takeComment? (characters : List Char) : Option (Node × List Char) := do
  let (content, rest) ← takeUpTo? "--".toList [] characters
  guard (rest.head? = some '>')
  pure (.comment content, rest.tail)

def closeTag? (name : QualifiedName) (characters : List Char) : Option (List Char) := do
  guard ("</".toList.isPrefixOf characters)
  let (closing, rest) ← QualifiedName.take? (characters.drop 2)
  guard (closing = name)
  let rest := rest.dropWhile isSpace
  guard (rest.head? = some '>')
  pure rest.tail

/-- Reads nodes up to the end of the text or of an element around them. Every step takes at least
one character, so the length of the text is fuel enough. -/
def takeNodes? (fuel : Nat) (bindings : Bindings) (characters : List Char) :
    Option (List Node × List Char) :=
  match fuel with
  | 0 => none
  | fuel + 1 =>
      let following := fun (node : List Node) (rest : List Char) => do
        let (nodes, rest) ← takeNodes? fuel bindings rest
        pure (node ++ nodes, rest)
      match characters with
      | [] => some ([], [])
      | '<' :: '/' :: _ => some ([], characters)
      | '<' :: '!' :: rest =>
          if "--".toList.isPrefixOf rest then do
            let (node, rest) ← takeComment? (rest.drop 2)
            following [node] rest
          else if "[CDATA[".toList.isPrefixOf rest then do
            let (content, rest) ← takeUpTo? "]]>".toList [] (rest.drop 7)
            following (if content.isEmpty then [] else [.verbatim content]) rest
          else none
      | '<' :: '?' :: rest => do
          let (node, rest) ← takeInstruction? rest
          following [node] rest
      | '<' :: rest => do
          let (name, rest) ← QualifiedName.take? rest
          let (attributes, rest) ← takeAttributes? (rest.length + 1) [] rest
          let inner ← bindAll? bindings attributes
          let arranged ← arrange? inner attributes
          guard (name.label.isEmpty || (Entries.get? name.label inner).isSome)
          let element := Node.element name.characters
            (arranged.map fun (name, value) => (name.characters, value))
          match rest with
          | '/' :: '>' :: rest => following [element []] rest
          | '>' :: rest =>
              let (children, rest) ← takeNodes? fuel inner rest
              following [element children] (← closeTag? name rest)
          | _ => none
      | characters => do
          let (content, rest) ←
            takeText? (· = '<') "]]>".toList (characters.length + 1) [] characters
          following [.text content] rest

def fragment? (text : String) : Option (List Node) := do
  let characters := (Text.unifyLineEnds text).toList
  let (nodes, rest) ← takeNodes? (characters.length + 1) Bindings.start characters
  guard rest.isEmpty
  pure nodes

example : (fragment? "<a x='1'></a>&#65;\"").map (String.ofList ∘ writeNodes) =
    some "<a x=\"1\"/>A&quot;" := by
  decide +kernel

example : ["<a>", "a & b", "<x:a/>", "<a x='1' x='2'/>", "</a>"].all fun text =>
    (fragment? text).isNone := by
  decide +kernel

end CrateGraph.Markup
