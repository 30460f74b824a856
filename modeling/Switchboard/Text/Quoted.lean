import Switchboard.Text.Classes

/-!
# Quoted text

The way messages quote a name: double quotes around it, backslash escapes for the quote, the
backslash and the common control characters, and the code point in hexadecimal for every other
character that would not show by itself (unprintable or ignorable ones, and marks that would attach
to the character before). A single quote stands as it is.
-/

namespace Switchboard.Text

/-- A code point in lowercase hexadecimal without padding, between braces. -/
def codePointEscape (c : Char) : List Char :=
  ['\\', 'u', '\x7b'] ++ Nat.toDigits 16 c.toNat ++ ['\x7d']

/-- The halfwidth sound marks: they extend the grapheme before them, but in a cell of their own. -/
def isHalfwidthMark (c : Char) : Bool := c.toNat = 0xff9e || c.toNat = 0xff9f

/-- Whether a character can be told from the text around it. -/
def showsItself (c : Char) : Bool :=
  isPrintable c && !isIgnorable c && (!isExtending c || isHalfwidthMark c)

/-- One character of quoted text. -/
def quotedChar (c : Char) : List Char :=
  if c = '"' then ['\\', '"']
  else if c = '\\' then ['\\', '\\']
  else if c = '\n' then ['\\', 'n']
  else if c = '\r' then ['\\', 'r']
  else if c = '\t' then ['\\', 't']
  else if c = '\x00' then ['\\', '0']
  else if showsItself c then [c]
  else codePointEscape c

/-- `s` between double quotes, with every character that would not show by itself escaped. -/
def quote (s : String) : String :=
  String.ofList ('"' :: s.toList.flatMap quotedChar ++ ['"'])

end Switchboard.Text
