import CommandShell.Failure
import CommandShell.Input.Source

/-!
# Requests on scripted input

A responder owns a source and a sink and answers requests one at a time: reads come from the
source, writes go to the sink. A write may fail; then nothing is written, the request is answered
with nothing, and the responder goes on. A request of a kind it does not know is answered with
nothing too. A responder runs from the beginning until it is stopped, and does not run again.
-/

namespace CommandShell

/-- Where writes go: which attempts fail, how many there were, and the text that arrived. -/
structure Sink where
  fails : Nat → Bool
  attempts : Nat
  text : Text

namespace Sink

/-- A sink that takes everything. -/
def working : Sink := ⟨fun _ => false, 0, []⟩

/-- A sink that fails every time. -/
def broken : Sink := ⟨fun _ => true, 0, []⟩

/-- The sink after an attempt to write, and whether the text arrived. -/
def write (s : Sink) (data : Text) : Bool × Sink :=
  if s.fails s.attempts then (false, { s with attempts := s.attempts + 1 })
  else (true, { s with attempts := s.attempts + 1, text := s.text ++ data })

end Sink

/-- What a responder can be asked for. -/
inductive InputRequest where
  | line
  | chars (count : Int)
  | put (data : Text)
  | unknown
  deriving DecidableEq, Repr

/-- A source and a sink behind one queue of requests. -/
structure Responder where
  source : Source
  sink : Sink

namespace Responder

/-- A responder that replays the given lines. -/
def ofLines (lines : List Text) (sink : Sink) : Responder := ⟨.ofLines lines, sink⟩

/-- Answers one request. Once stopped, a responder answers nothing and writes nothing. -/
def handle (r : Responder) (request : InputRequest) : Option Text × Responder :=
  if r.source.stopped then (none, r)
  else
    match request with
    | .line =>
      let (reply, source) := r.source.takeLine
      (reply, { r with source })
    | .chars count =>
      let (reply, source) := r.source.takeChars count
      (reply, { r with source })
    | .put data =>
      let (arrived, sink) := r.sink.write data
      (if arrived then some [] else none, { r with sink })
    | .unknown => (none, r)

/-- The responder after it was stopped. -/
def stop (r : Responder) : Responder := { r with source := r.source.stop }

/-- Starts a responder, which changes nothing while it runs and fails once it was stopped. -/
def start (r : Responder) : Except Failure Responder :=
  if r.source.stopped then .error .startedAgain else .ok r

end Responder

end CommandShell
