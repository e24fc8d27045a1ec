import CommandShell.Failure
import CommandShell.Text.Case

/-!
# Logging

Logging is configured by a profile and a level. The configuration is remembered, and asking for
the remembered one again does nothing. Otherwise all handlers are taken down, one is put up for the
new configuration, and then that is remembered. A level that is not known is refused when its
handler is put up.
-/

namespace CommandShell

/-- A profile and a level in upper case. -/
structure LogChoice where
  profile : Text
  level : Text
  deriving DecidableEq, Repr

/-- The handlers that are up, by what they were put up for, and the configuration remembered. -/
structure Logging where
  handlers : List LogChoice
  remembered : Option LogChoice
  deriving DecidableEq, Repr

namespace Logging

/-- The levels that a handler can have. -/
def levels : List Text :=
  ["TRACE".toList, "DEBUG".toList, "INFO".toList, "SUCCESS".toList, "WARNING".toList,
   "ERROR".toList, "CRITICAL".toList]

/-- The profile of an interactive session. -/
def replProfile : Text := "repl".toList

/-- Logging before it was configured. -/
def initial : Logging := ⟨[], none⟩

/-- Puts up a handler. -/
def add (l : Logging) (choice : LogChoice) : Except Failure Logging :=
  if levels.contains choice.level then .ok { l with handlers := l.handlers ++ [choice] }
  else .error (.unknownLevel choice.level)

/-- Configures logging, and tells why that failed if it did. -/
def configure (l : Logging) (profile level : Text) : Option Failure × Logging :=
  let choice : LogChoice := ⟨profile, level.upper⟩
  if l.remembered = some choice then (none, l)
  else
    let cleared := { l with handlers := [] }
    match cleared.add choice with
    | .error f => (some f, cleared)
    | .ok l => (none, { l with remembered := some choice })

end Logging

end CommandShell
