import CommandShell.Text.Blank
import CommandShell.Text.Numeral

/-!
# Values of settings

A setting holds a text, a number that is not below zero, or a truth value. A value is given as one
of these or as a text that stands for one; a value that does not fit its setting is a problem.
-/

namespace CommandShell

/-- A value for a setting before it was checked. -/
inductive RawValue where
  | text (t : Text)
  | number (n : Int)
  | truth (b : Bool)
  deriving DecidableEq, Repr

/-- What is wrong with a value. -/
inductive Problem where
  | notText
  | notNumber
  | tooLong
  | notTruth
  | negative
  deriving DecidableEq, Repr

namespace Settings

/-- The value of a text setting. -/
def readText : RawValue → Except Problem Text
  | .text t => .ok t
  | _ => .error .notText

/-- The texts that mean true and those that mean false. -/
def truthWords : List Text × List Text :=
  (["1".toList, "t".toList, "y".toList, "on".toList, "yes".toList, "true".toList],
   ["0".toList, "f".toList, "n".toList, "no".toList, "off".toList, "false".toList])

/-- The value of a setting that is on or off; the case of the basic letters does not count. -/
def readTruth : RawValue → Except Problem Bool
  | .truth b => .ok b
  | .number 0 => .ok false
  | .number 1 => .ok true
  | .number _ => .error .notTruth
  | .text t =>
    let word := t.map Char.toLower
    if truthWords.1.contains word then .ok true
    else if truthWords.2.contains word then .ok false
    else .error .notTruth

/-! ## Numerals -/

/-- A numeral without the plus sign in front; no minus sign may follow it. -/
def dropPlus : Text → Option Text
  | '+' :: '-' :: _ => none
  | '+' :: rest => some rest
  | t => some t

/-- Whether `c` is a basic digit other than zero. -/
def isPositiveDigit (c : Char) : Bool :=
  '1' ≤ c && c ≤ '9'

/--
What counts of a numeral after zeros and underscores, of which `last` was the last: all of it, with
`last` in front if nothing or a point follows. A minus sign may follow them too.
-/
def dropZeros (last : Char) : Text → Option Text
  | [] => some [last]
  | c :: rest =>
    if c = '0' || c = '_' then dropZeros c rest
    else if c = '.' then some (last :: c :: rest)
    else if c = '-' || isPositiveDigit c then some (c :: rest)
    else none

/-- What counts of a numeral that begins with a digit: all but the zeros in front. -/
def significant : Text → Option Text
  | [] => none
  | c :: rest =>
    if c = '0' then dropZeros c rest
    else if isPositiveDigit c then some (c :: rest)
    else none

/-- What counts of a numeral that may begin with a minus sign, which stays in front. -/
def signedSignificant : Text → Option Text
  | '-' :: rest => (significant rest).map ('-' :: ·)
  | t => significant t

/-- A numeral without its fraction, if that is a point with zeros behind it. -/
def dropFraction (t : Text) : Text :=
  match t.dropWhile (· != '.') with
  | _ :: d :: rest => if (d :: rest).all (· == '0') then t.takeWhile (· != '.') else t
  | _ => t

/-- A numeral without its underscores, if each of them stands between two other characters. -/
def joinGroups (t : Text) : Text :=
  let groups := List.splitOn '_' t
  if groups.any List.isEmpty then t else groups.flatten

/--
The number of basic digits, the first of which is a zero only if it is the only one. Digits beyond
the limit are a problem of their own, whatever follows them.
-/
def readDigits (t : Text) : Except Problem Nat :=
  let digits := t.takeWhile Char.isDigit
  if digits.head? = some '0' && 1 < digits.length then .error .notNumber
  else if Text.digitLimit < digits.length then .error .tooLong
  else if digits.isEmpty || digits.length < t.length then .error .notNumber
  else .ok (Text.digitsValue (digits.filterMap Text.basicDigit?))

/-- The number of a numeral of basic digits, with a minus sign at most. -/
def readSigned : Text → Except Problem Int
  | '-' :: rest => (readDigits rest).map fun n => -Int.ofNat n
  | t => (readDigits t).map Int.ofNat

/-- What counts of a text that may be a numeral: no sign but minus, no zeros that add nothing. -/
def clean (t : Text) : Option Text :=
  ((dropPlus t).bind signedSignificant).map fun t => joinGroups (dropFraction t)

/--
The number that a text stands for. A text that is no numeral as it stands is cleaned first: blanks
around it, a plus sign, zeros in front, a fraction of zeros and underscores do not count. Only as it
stands is a text too long; one that had to be cleaned and has too many digits is no numeral.
-/
def readNumeral (t : Text) : Except Problem Int :=
  match readSigned t with
  | .error .notNumber =>
    match clean (t.trim Text.isNumeralBlank) with
    | none => .error .notNumber
    | some numeral => (readSigned numeral).mapError fun _ => .notNumber
  | result => result

/-- The number that a value stands for. -/
def readNumber : RawValue → Except Problem Int
  | .number n => .ok n
  | .truth b => .ok (if b then 1 else 0)
  | .text t => readNumeral t

/-- The value of a setting that is a number, not below zero. -/
def readSize (v : RawValue) : Except Problem Nat :=
  match readNumber v with
  | .error p => .error p
  | .ok (.ofNat n) => .ok n
  | .ok (.negSucc _) => .error .negative

end Settings

end CommandShell
