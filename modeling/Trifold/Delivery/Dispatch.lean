import Trifold.Delivery.Target
import Trifold.Fanout.Render
import Trifold.Signal.Event

namespace Trifold

structure Missed where
  position : Nat
  failure : Delivery.Failure
  deriving DecidableEq, Repr

inductive DispatchError where
  | invalidPlatform
  | event (error : EventError)
  | delivery (reason : Delivery.Reason)
  deriving DecidableEq, Repr

inductive BroadcastError where
  | invalidPlatform
  | event (error : EventError)
  | missed (targets : List Missed)
  deriving DecidableEq, Repr

def DispatchError.name : DispatchError → String
  | invalidPlatform => "invalid_platform"
  | event error => error.name
  | delivery reason => reason.name

def BroadcastError.name : BroadcastError → String
  | invalidPlatform => "invalid_platform"
  | event error => error.name
  | missed _ => "dispatch_failed"

namespace Dispatch
open Delivery

structure Incoming where
  platform : Value
  type : Value
  data : Value
  options : Value

structure Dispatched (ε : Type) where
  outcome : Except ε Signal
  calls : List Call
  warnings : List String

inductive Unbuilt where
  | invalidPlatform
  | event (error : EventError)

def Unbuilt.toDispatch : Unbuilt → DispatchError
  | invalidPlatform => .invalidPlatform
  | event error => .event error

def Unbuilt.toBroadcast : Unbuilt → BroadcastError
  | invalidPlatform => .invalidPlatform
  | event error => .event error

def signal (stamp : Stamp) (incoming : Incoming) : Ask (Except Unbuilt Signal) := do
  if !Platform.isNamed incoming.platform then return .error .invalidPlatform
  else return (← Event.toSignal stamp incoming.platform incoming.type incoming.data incoming.options).mapError .event

def refused {ε : Type} (error : ε) : Dispatched ε := ⟨.error error,[],[]⟩

def lateWarnings (signal : Signal) (attempts : List Attempt) : List String :=
  (lateMessages signal.type attempts).map fun message => Fanout.area ++ " " ++ message

def sentToOne (host : Host) (target : Value) (signal : Signal) : Dispatched DispatchError :=
  let attempt := deliver host target signal.toValue
  { outcome := match attempt.outcome with
      | .ok () => .ok signal
      | .error failure => .error (.delivery failure.reason),
    calls := calls [attempt],
    warnings := lateWarnings signal [attempt] }

def toOne (host : Host) (stamp : Stamp) (incoming : Incoming) (target : Value) :
    Except Fault (Dispatched DispatchError) := do
  match ← signal stamp incoming host with
  | .error error => return refused error.toDispatch
  | .ok signal => return sentToOne host target signal

def missed (attempts : List Attempt) : List Missed :=
  attempts.zipIdx.filterMap fun (attempt,position) =>
    match attempt.outcome with
    | .ok () => none
    | .error failure => some ⟨position,failure⟩

def sentToMany (host : Host) (targets : List Value) (signal : Signal) : Dispatched BroadcastError :=
  let attempts := targets.map fun target => deliver host target signal.toValue
  { outcome := match missed attempts with
      | [] => .ok signal
      | targets => .error (.missed targets),
    calls := calls attempts,
    warnings := lateWarnings signal attempts }

def toMany (host : Host) (stamp : Stamp) (incoming : Incoming) (targets : List Value) :
    Except Fault (Dispatched BroadcastError) := do
  match ← signal stamp incoming host with
  | .error error => return refused error.toBroadcast
  | .ok signal => return sentToMany host targets signal

end Dispatch

end Trifold
