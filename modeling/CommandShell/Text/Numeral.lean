import CommandShell.Text.Blank

/-!
# Numerals

Whole numbers are written in decimal digits, with a minus sign below zero. Reading is more lenient
than writing: blanks around the number, a sign, the decimal digits of every script, and single
underscores between digits. A numeral of more than 4300 digits is refused.
-/

namespace CommandShell.Text

/-- The zero digits of the scripts; the other nine digits of a script follow its zero. -/
def zeroDigits : List Nat :=
  [48, 1632, 1776, 1984, 2406, 2534, 2662, 2790, 2918, 3046, 3174, 3302, 3430, 3558, 3664, 3792,
   3872, 4160, 4240, 6112, 6160, 6470, 6608, 6784, 6800, 6992, 7088, 7232, 7248, 42528, 43216,
   43264, 43472, 43504, 43600, 44016, 65296, 66720, 68912, 69734, 69872, 69942, 70096, 70384,
   70736, 70864, 71248, 71360, 71472, 71904, 72016, 72784, 73040, 73120, 92768, 92864, 93008,
   120782, 120792, 120802, 120812, 120822, 123200, 123632, 125264, 130032]

/-- The value of a decimal digit. -/
def digitValue? (c : Char) : Option Nat :=
  (zeroDigits.find? fun z => z ≤ c.toNat && c.toNat < z + 10).map (c.toNat - ·)

/-- The value of a decimal digit of the basic alphabet. -/
def basicDigit? (c : Char) : Option Nat :=
  if '0' ≤ c ∧ c ≤ '9' then some (c.toNat - 48) else none

/-- The decimal digits of `n`. -/
def ofNat (n : Nat) : Text :=
  Nat.toDigits 10 n

/-- The numeral of a whole number. -/
def ofInt : Int → Text
  | .ofNat n => ofNat n
  | .negSucc n => '-' :: ofNat (n + 1)

/-- The decimal digits of `n`, with zeros before them up to `width` digits. -/
def ofNatPadded (width n : Nat) : Text :=
  List.replicate (width - (ofNat n).length) '0' ++ ofNat n

/--
The digits of a numeral without sign, where `value?` knows the digits. A single underscore may stand
between two digits and nowhere else; `afterDigit` says whether the character before is a digit.
-/
def readDigits (value? : Char → Option Nat) (afterDigit : Bool) : Text → Option (List Nat)
  | [] => if afterDigit then some [] else none
  | c :: rest =>
    if c = '_' then
      if afterDigit then readDigits value? false rest else none
    else
      match value? c with
      | some d => (readDigits value? true rest).map (d :: ·)
      | none => none

/-- The number that digits stand for, the highest first. -/
def digitsValue (digits : List Nat) : Nat :=
  digits.foldl (fun n d => 10 * n + d) 0

/-- The most digits that a numeral may have. -/
def digitLimit : Nat := 4300

/-- The number of a numeral without sign. -/
def readNat (t : Text) : Option Nat :=
  match readDigits digitValue? false t with
  | some digits => if digits.length ≤ digitLimit then some (digitsValue digits) else none
  | none => none

/-- Whether `c` may stand around a numeral: any blank but the four information separators. -/
def isNumeralBlank (c : Char) : Bool :=
  isBlank c && !(0x1c ≤ c.toNat && c.toNat ≤ 0x1f)

/-- The number of a numeral with an optional sign and nothing around it. -/
def readSigned (t : Text) : Option Int :=
  match t with
  | '-' :: rest => (readNat rest).map fun n => -Int.ofNat n
  | '+' :: rest => (readNat rest).map Int.ofNat
  | _ => (readNat t).map Int.ofNat

/-- The number that a numeral stands for, if it is one. -/
def readInt (t : Text) : Option Int :=
  readSigned (t.trim isNumeralBlank)

end CommandShell.Text
