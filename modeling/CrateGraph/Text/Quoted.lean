import CrateGraph.Text.Hexadecimal
import CrateGraph.Text.Printable

/-!
Text in quotes, the way messages show a value that was given.

The quote is `'`, or `"` for a text that holds the former and not the latter. A backslash, the quote
in use and the usual line controls have escapes of their own; what cannot be shown is written by its
number in as few digits as its size allows, two, four or eight.
-/

namespace CrateGraph.Text

def quoteFor (text : WideText) : Char :=
  if text.contains (.scalar '\'') && !text.contains (.scalar '"') then '"' else '\''

def numberEscape (code : Nat) : List Char :=
  if code < 0x100 then '\\' :: 'x' :: hexDigits .lower 2 code
  else if code < 0x10000 then '\\' :: 'u' :: hexDigits .lower 4 code
  else '\\' :: 'U' :: hexDigits .lower 8 code

def quotedPoint (quote : Char) (point : CodePoint) : List Char :=
  match point with
  | .surrogate _ => numberEscape point.toNat
  | .scalar character =>
      if character = '\\' || character = quote then ['\\', character]
      else if character = '\n' then ['\\', 'n']
      else if character = '\r' then ['\\', 'r']
      else if character = '\t' then ['\\', 't']
      else if isPrintable point then [character]
      else numberEscape point.toNat

def quotedWide (text : WideText) : String :=
  let quote := quoteFor text
  String.ofList (quote :: text.flatMap (quotedPoint quote) ++ [quote])

def quoted (text : String) : String :=
  quotedWide (WideText.ofString text)

example : quoted "it's" = "\"it's\"" := by decide +kernel

example : quoted "'\"\\\n\u0007é" = "'\\'\"\\\\\\n\\x07é'" := by decide +kernel

example : quotedWide [.surrogate 0] = "'\\ud800'" := by decide +kernel

end CrateGraph.Text
