import CommandShell.Text.Basic
import CommandShell.Text.PrintTable

/-!
# Quoted texts

A quoted text shows every character of a text unambiguously on one line. It stands in apostrophes,
or in double quotes when it holds an apostrophe and no double quote. The backslash, the quote in
use, line feed, carriage return and tabulator have short escapes; other unprintable characters are
written by code point in two, four or eight hexadecimal digits.
-/

namespace CommandShell.Text

/-- Whether `c` stands as it is in a quoted text. -/
def isPrintable (c : Char) : Bool :=
  !inRanges unprintableRanges c

/-- The number in lower-case hexadecimal digits, at least `width` of them. -/
def hexDigits (width n : Nat) : Text :=
  let digits := Nat.toDigits 16 n
  List.replicate (width - digits.length) '0' ++ digits

/-- The escape that names a character by its code point. -/
def codeEscape (c : Char) : Text :=
  if c.toNat < 0x100 then ['\\', 'x'] ++ hexDigits 2 c.toNat
  else if c.toNat < 0x10000 then ['\\', 'u'] ++ hexDigits 4 c.toNat
  else ['\\', 'U'] ++ hexDigits 8 c.toNat

/-- How `c` is written inside `quote`. -/
def quoteChar (quote c : Char) : Text :=
  if c = quote ∨ c = '\\' then ['\\', c]
  else if c = '\n' then ['\\', 'n']
  else if c = '\r' then ['\\', 'r']
  else if c = '\t' then ['\\', 't']
  else if isPrintable c then [c]
  else codeEscape c

/-- The quote that surrounds `t`. -/
def quoteFor (t : Text) : Char :=
  if t.contains '\x27' && !t.contains '\x22' then '\x22' else '\x27'

/-- `t` in quotes. -/
def quoted (t : Text) : Text :=
  let quote := quoteFor t
  quote :: t.flatMap (quoteChar quote) ++ [quote]

end CommandShell.Text
