import Trifold.Fanout.Render
import Trifold.Number.Basic

namespace Trifold.Fanout

inductive Moment where
  | timerFires (position : Nat)
  | taskRuns (position : Nat)
  deriving DecidableEq, Repr

structure Reading where
  before : Float
  after : Float

structure Race where
  request : Request
  names : List Name
  timeout : Float
  clock : Nat → Reading

def defaultTimeout : Float := 5000

namespace Race

abbrev Settled := List (Option Shown)

def settle (settled : Settled) (position : Nat) (shown : Shown) : Settled :=
  settled.modify position fun earlier => earlier.orElse fun _ => some shown

def overran (race : Race) (position : Nat) : Bool :=
  race.timeout < (race.clock position).after - (race.clock position).before

-- A renderer that stops on its own counts as a failed render. A task that took too long has timed out, whatever
-- it rendered.
def task (race : Race) (position : Nat) (name : Name) : Run Shown := do
  let shown := match ← (race.request.show name).attempt with
    | .ok shown => shown
    | .error _ => .error (.render .renderFailed)
  return if race.overran position then .error .timeout else shown

def step (race : Race) (settled : Settled) : Moment → Run Settled
  | .timerFires position => return settle settled position (.error .timeout)
  | .taskRuns position =>
      match race.names[position]? with
      | none => return settled
      | some name => do return settle settled position (← race.task position name)

def isOver (settled : Settled) : Bool := settled.all Option.isSome

def run (race : Race) (settled : Settled) : List Moment → Run Settled
  | [] => return settled
  | moment :: rest =>
      if isOver settled then return settled
      else do race.run (← race.step settled moment) rest

def answers (race : Race) (settled : Settled) : List (Option String × Shown) :=
  (race.names.map (·.key)).zip (settled.map fun shown => shown.getD (.error .timeout))

def finish (race : Race) (schedule : List Moment) : Run (Fields Shown) := do
  let settled ← race.run (race.names.map fun _ => none) schedule
  report (← Run.ofMisuse (collect (race.answers settled)))

-- Timers count whole milliseconds from one on; what they cannot count they take for one. A task waits one.
def longestTimer : Float := 2147483647

def timerLeads (timeout : Float) : Bool := !(2 ≤ timeout && timeout ≤ longestTimer)

def schedule (race : Race) : List Moment :=
  (List.range race.names.length).flatMap fun position =>
    if timerLeads race.timeout then [.timerFires position, .taskRuns position]
    else [.taskRuns position, .timerFires position]

end Race

end Trifold.Fanout
