import Calculator.Text.Hidden

/-!
# Quoted text in messages

A message shows a text or a character between quotes, in a form in which every
part of it can be seen. The common control characters and the backslash have a
short form, the quote in use is escaped, a hidden character is written by its
code point, and everything else stands for itself.
-/

set_option autoImplicit false

namespace Calculator.Text

/-- A character by its code point, in hexadecimal without padding. -/
def codePointEscape (c : Char) : List Char :=
  ['\\', 'u', '\x7b'] ++ Nat.toDigits 16 c.toNat ++ ['\x7d']

/-- How a character is written between two of the quotes `mark`. -/
def escape (mark c : Char) : List Char :=
  if c = '\x00' then ['\\', '0']
  else if c = '\t' then ['\\', 't']
  else if c = '\r' then ['\\', 'r']
  else if c = '\n' then ['\\', 'n']
  else if c = '\\' ∨ c = mark then ['\\', c]
  else if isHidden c then codePointEscape c
  else [c]

/-- A text between double quotes. -/
def quote (text : List Char) : List Char :=
  '"' :: text.flatMap (escape '"') ++ ['"']

/-- A character between single quotes. -/
def quoteChar (c : Char) : List Char :=
  '\'' :: escape '\'' c ++ ['\'']

/-- An ASCII letter or digit is written as itself. -/
example : escape '"' 'a' = ['a'] := by decide +kernel

/-- The quote in use is escaped and the other one is not. -/
example : (escape '"' '"', escape '"' '\'', escape '\'' '\'') =
    (['\\', '"'], ['\''], ['\\', '\'']) := by decide +kernel

/-- A no-break space is written by its code point, and an accented letter stands for itself. -/
example : quote [Char.ofNat 0xa0, 'é'] = ['"', '\\', 'u', '\x7b', 'a', '0', '\x7d', 'é', '"'] := by
  decide +kernel

/-- A Hangul filler is written by its code point, and a halfwidth voiced sound mark stands for
itself. -/
example : (escape '"' (Char.ofNat 0x3164), escape '"' (Char.ofNat 0xff9e)) =
    (['\\', 'u', '\x7b', '3', '1', '6', '4', '\x7d'], [Char.ofNat 0xff9e]) := by decide +kernel

end Calculator.Text
