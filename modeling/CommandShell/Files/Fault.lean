import CommandShell.Files.Path
import CommandShell.Text.Encoding
import CommandShell.Text.Numeral
import CommandShell.Text.Quoted

/-!
# Faults of reading a file

A file cannot be read either because opening it fails, which the system reports with a numbered
cause and the path, or because its bytes are no UTF-8 text.
-/

namespace CommandShell

/-- Why a path cannot be opened for reading. -/
inductive OpenFault where
  | notFound
  | notDirectory
  | isDirectory
  | nameTooLong
  | permissionDenied
  deriving DecidableEq, Repr

namespace OpenFault

/-- The system's number of the cause. -/
def number : OpenFault → Nat
  | .notFound => 2
  | .notDirectory => 20
  | .isDirectory => 21
  | .nameTooLong => 36
  | .permissionDenied => 13

/-- The system's wording of the cause. -/
def wording : OpenFault → Text
  | .notFound => "No such file or directory".toList
  | .notDirectory => "Not a directory".toList
  | .isDirectory => "Is a directory".toList
  | .nameTooLong => "File name too long".toList
  | .permissionDenied => "Permission denied".toList

/-- The report on a path: number, wording and the normal form of the path in quotes. -/
def message (fault : OpenFault) (path : Text) : Text :=
  "[Errno ".toList ++ Text.ofNat fault.number ++ "] ".toList ++ fault.wording ++ ": ".toList
    ++ Text.quoted (Path.normal path)

end OpenFault

namespace Text.EncodingError

/-- What is wrong with the sequence. -/
def reason (e : EncodingError) : Text :=
  match e.fault with
  | .invalidStart => "invalid start byte".toList
  | .invalidContinuation => "invalid continuation byte".toList
  | .unexpectedEnd => "unexpected end of data".toList

/-- The report: a single byte is shown, a longer sequence is named by its positions. -/
def message (e : EncodingError) : Text :=
  let place :=
    if e.length ≤ 1 then
      "byte 0x".toList ++ Text.hexDigits 2 e.lead.toNat ++ " in position ".toList
        ++ Text.ofNat e.position
    else
      "bytes in position ".toList ++ Text.ofNat e.position ++ "-".toList
        ++ Text.ofNat (e.position + e.length - 1)
  "'utf-8' codec can't decode ".toList ++ place ++ ": ".toList ++ e.reason

end Text.EncodingError

end CommandShell
