import Roshambo.Text.Blank
import Roshambo.Text.Hex
import Roshambo.Text.Unprintable

/-! # Quoted text

A quoted text stands between double quotes. A quote or backslash inside it, and the four controls
NUL, tab, line feed and carriage return, have two-character escapes; any other control, any
separator but the plain space, and any unprintable character is written by its code point. All
other characters, the apostrophe among them, stand for themselves. Each character is written on its
own, so that quoting a text is quoting its characters in turn.
-/

namespace Roshambo.Text

/-- Whether a character without an escape of its own is written by its code point. -/
def isEscaped (c : Char) : Bool :=
  isControl c || (isBlank c && c != ' ') || isUnprintable c

/-- A character as its code point, in lowercase hexadecimal between braces. -/
def codePointEscape (c : Char) : List Char :=
  '\\' :: 'u' :: '\x7b' :: (hexDigits c.toNat ++ ['\x7d'])

/-- How one character is written inside a quoted text. -/
def quoteChar (c : Char) : List Char :=
  if c = '"' then ['\\', '"']
  else if c = '\\' then ['\\', '\\']
  else if c = '\x00' then ['\\', '0']
  else if c = '\t' then ['\\', 't']
  else if c = '\n' then ['\\', 'n']
  else if c = '\r' then ['\\', 'r']
  else if isEscaped c then codePointEscape c
  else [c]

/-- The characters of a quoted text, both quotes included. -/
def quoteChars (text : List Char) : List Char := '"' :: (text.flatMap quoteChar ++ ['"'])

def quote (text : String) : String := String.ofList (quoteChars text.toList)

theorem toList_quote (text : String) : (quote text).toList = quoteChars text.toList := by
  simp [quote]

end Roshambo.Text
