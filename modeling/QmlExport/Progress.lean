import QmlExport.Json.Decoder

/-!
# Progress

Work is reported as percentages and log lines. A meter remembers the highest percentage so far;
a percentage is capped at 100 and delivered only if it is not below that mark, so what a listener
sees never decreases. Log lines are always delivered and do not touch the mark.

Reporters taken from one another share the highest percentage, each with its own listeners. A `Board`
keeps track of several reporters, those that share a percentage being on the same dial.
-/

namespace QmlExport

open Json

/-- How a log line relates to the ones before it. -/
inductive LogMode
  /-- Add the line behind them. -/
  | append
  /-- Put the line in place of them. -/
  | reset
  deriving DecidableEq, Repr

/-- A log line. -/
structure LogLine where
  mode : LogMode
  message : String
  deriving DecidableEq, Repr

/-- What a listener hears. -/
inductive Event
  | progress (percent : Nat)
  | log (line : LogLine)
  deriving DecidableEq, Repr

namespace LogLine

/-- A log line as a record. -/
def toJson (l : LogLine) : Value :=
  .fields [("mode", .text (match l.mode with | .append => "append" | .reset => "reset")),
    ("message", .text l.message)]

/-- Read a log line. -/
def decoder : Decoder LogLine :=
  .record ["mode", "message"] fun fs => do
    let mode ← fs.required "mode" (.choice [("append", .append), ("reset", .reset)])
    let message ← fs.required "message" .text
    some ⟨mode, message⟩

end LogLine

/-- The highest percentage so far, and everything delivered, the latest first. -/
structure Meter where
  highest : Nat
  delivered : List Event
  deriving DecidableEq, Repr

namespace Meter

/-- A meter that has heard nothing. -/
def fresh : Meter := ⟨0, []⟩

/-- Report a percentage. -/
def progress (m : Meter) (percent : Nat) : Meter :=
  let p := min percent 100
  if p < m.highest then m else ⟨p, .progress p :: m.delivered⟩

/-- Report a log line. -/
def log (m : Meter) (line : LogLine) : Meter := { m with delivered := .log line :: m.delivered }

/-- Add a line to the log. -/
def say (m : Meter) (message : String) : Meter := m.log ⟨.append, message⟩

/-- Put a line in place of the log. -/
def restart (m : Meter) (message : String) : Meter := m.log ⟨.reset, message⟩

/-- Everything delivered, in order. -/
def events (m : Meter) : List Event := m.delivered.reverse

end Meter

/-- The log that events leave: a reset line clears what was there. -/
def logOf (events : List Event) : List String :=
  events.foldl (fun lines e =>
    match e with
    | .progress _ => lines
    | .log ⟨.append, message⟩ => lines ++ [message]
    | .log ⟨.reset, message⟩ => [message]) []

/-- What can be done with the reporters of a board. -/
inductive Board.Action
  | progress (percent : Nat)
  | log (line : LogLine)
  /-- Take a further reporter that shares the dial, and whoever listens. -/
  | clone
  /-- Have somebody listen to the percentages of this reporter. -/
  | listen
  /-- Have somebody read the log of this reporter. -/
  | follow
  /-- Take a further reporter with a dial of its own, which is listened to. -/
  | renew
  deriving DecidableEq, Repr

/-- A reporter on a board: the number of its dial, and whether anybody listens to its percentages and
reads its log. -/
structure Reporter where
  dial : Nat
  heard : Bool
  followed : Bool
  deriving DecidableEq, Repr

/-- Several reporters, and for each dial the highest percentage so far. -/
structure Board where
  marks : List Nat
  reporters : List Reporter
  deriving DecidableEq, Repr

namespace Board

/-- A board with one reporter. -/
def start (listening : Bool) : Board := ⟨[0], [⟨0, listening, listening⟩]⟩

/-- The highest percentage so far on a dial. -/
def mark (b : Board) (dial : Nat) : Nat := b.marks[dial]?.getD 0

/-- The highest percentage that a reporter has seen. -/
def last (b : Board) (reporter : Nat) : Nat :=
  match b.reporters[reporter]? with
  | some r => b.mark r.dial
  | none => 0

/-- Carry out an action on a reporter. Returns what is delivered. -/
def step (b : Board) (reporter : Nat) (a : Action) : Board × List Event :=
  match b.reporters[reporter]? with
  | none => (b, [])
  | some r =>
    match a with
    | .progress percent =>
      let m := Meter.progress ⟨b.mark r.dial, []⟩ percent
      ({ b with marks := b.marks.set r.dial m.highest }, if r.heard then m.events else [])
    | .log line => (b, if r.followed then [.log line] else [])
    | .clone => ({ b with reporters := b.reporters ++ [r] }, [])
    | .listen => ({ b with reporters := b.reporters.set reporter { r with heard := true } }, [])
    | .follow => ({ b with reporters := b.reporters.set reporter { r with followed := true } }, [])
    | .renew => (⟨b.marks ++ [0], b.reporters ++ [⟨b.marks.length, true, true⟩]⟩, [])

/-- Carry out actions in turn. Returns what is delivered in each, with the reporter's last
percentage. -/
def run (b : Board) : List (Nat × Action) → List (List Event × Nat)
  | [] => []
  | (reporter, a) :: rest =>
    let (b, events) := b.step reporter a
    (events, b.last reporter) :: run b rest

end Board

end QmlExport
