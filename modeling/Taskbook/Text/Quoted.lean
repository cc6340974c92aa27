/-
Quoted texts: how a name is shown where blanks and line ends must stay visible.

A quoted text stands between two marks. The mark is an apostrophe, unless the
text holds an apostrophe and no double quote, and then it is a double quote: so
an escape inside is needed only for a text that holds both. Characters without
a printed form are written by their number, in the shortest of three widths, and
the three controls that have a short name get it. All else is written as it is.
-/
import Taskbook.Text.Split
import Taskbook.Text.Printable

set_option autoImplicit false

namespace Taskbook.Text

/-- The apostrophe. -/
def apostrophe : Char := '\x27'

/-- The mark around a text: an apostrophe, or a double quote where that saves
escapes. -/
def quoteMark (text : List Char) : Char :=
  if text.contains apostrophe && !text.contains '"' then '"' else apostrophe

/-- The number `n` in lower-case hexadecimal digits, with zeros in front up to
`width` digits. -/
def hex (width n : Nat) : List Char :=
  let digits := Nat.toDigits 16 n
  List.replicate (width - digits.length) '0' ++ digits

/-- One character of a quoted text. -/
def escape (mark c : Char) : List Char :=
  if c = mark || c = '\\' then ['\\', c]
  else if c = '\t' then ['\\', 't']
  else if c = '\n' then ['\\', 'n']
  else if c = '\r' then ['\\', 'r']
  else if isPrintable c then [c]
  else if c.toNat < 0x100 then ['\\', 'x'] ++ hex 2 c.toNat
  else if c.toNat < 0x10000 then ['\\', 'u'] ++ hex 4 c.toNat
  else ['\\', 'U'] ++ hex 8 c.toNat

/-- The text between its quote marks. -/
def quote (text : String) : String :=
  let mark := quoteMark text.toList
  String.ofList (mark :: text.toList.flatMap (escape mark) ++ [mark])

/-- The quoted texts in square brackets, with commas between them. -/
def quoteAll (texts : List String) : String :=
  "[" ++ join ", " (texts.map quote) ++ "]"

end Taskbook.Text
