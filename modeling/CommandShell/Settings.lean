import CommandShell.Settings.File
import CommandShell.Settings.Value
import CommandShell.Text.Case

/-!
# Settings

Every setting has a default. It can be given outright, by an environment variable or by a line of
a settings file, in this order of precedence. Variables carry a fixed beginning in front of the
setting's name. The case of letters counts neither in settings nor in variables. A value of the
wrong form is a problem of its setting; all problems are found before the settings are refused.
-/

namespace CommandShell

/-- The settings of a session. -/
structure Settings where
  promptSymbol : Text
  intro : Text
  historySize : Nat
  scriptEcho : Text
  debug : Bool
  logLevel : Text
  deriving DecidableEq, Repr

namespace Settings

/-- The settings that hold where nothing else is given. -/
def default : Settings where
  promptSymbol := "cmdloop".toList
  intro := "cmdloop - interactive command shell".toList
  historySize := 0
  scriptEcho := "script> ".toList
  debug := false
  logLevel := "WARNING".toList

/-- What the name of every variable begins with, in lower case. -/
def variableStart : Text := "cmdloop_".toList

/-- What is given under a name in any case: of several such entries, the last one counts. -/
def lookUp (given : List (Text × α)) (name : Text) : Option α :=
  (given.reverse.find? fun v => v.1.lower == name).map (·.2)

/-- What settings are read from. -/
structure Origin where
  given : List (Text × RawValue)
  environment : List (Text × Text)
  file : FileVariables

/-- The value that an origin gives to a setting. -/
def Origin.value? (o : Origin) (name : Text) : Option RawValue :=
  match lookUp o.given name with
  | some v => some v
  | none =>
    match lookUp o.environment (variableStart ++ name) with
    | some t => some (.text t)
    | none => (lookUp o.file (variableStart ++ name)).join.map .text

/-- A setting with its default, and its problem if it has one. -/
def readField (o : Origin) (name : Text) (initial : α) (read : RawValue → Except Problem α) :
    α × List (Text × Problem) :=
  match o.value? name with
  | none => (initial, [])
  | some v =>
    match read v with
    | .ok a => (a, [])
    | .error p => (initial, [(name, p)])

/-- The settings that an origin gives, or the problems of all settings in ascending order. -/
def read (o : Origin) : Except (List (Text × Problem)) Settings :=
  let (debug, p1) := readField o "debug".toList default.debug readTruth
  let (historySize, p2) := readField o "history_size".toList default.historySize readSize
  let (intro, p3) := readField o "intro".toList default.intro readText
  let (logLevel, p4) := readField o "log_level".toList default.logLevel readText
  let (promptSymbol, p5) := readField o "prompt_symbol".toList default.promptSymbol readText
  let (scriptEcho, p6) := readField o "script_echo_prefix".toList default.scriptEcho readText
  match p1 ++ p2 ++ p3 ++ p4 ++ p5 ++ p6 with
  | [] => .ok { promptSymbol, intro, historySize, scriptEcho, debug, logLevel }
  | problems => .error problems

end Settings

end CommandShell
