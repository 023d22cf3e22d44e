import Trifold.Delivery.Inherited

namespace Trifold.Delivery
open Value

structure Call where
  callee : Function
  holder : Value
  arguments : List Value

inductive Reason where
  | invalidTarget
  | deliveryFailed
  deriving DecidableEq, Repr

def Reason.name : Reason → String
  | invalidTarget => "invalid_target"
  | deliveryFailed => "delivery_failed"

structure Failure where
  reason : Reason
  message : Option String
  deriving DecidableEq, Repr

def Failure.toValue (failure : Failure) (position : Value) : Value :=
  object (defined [("reason",text failure.reason.name), ("index",position),
    ("message",ofText? failure.message)])

-- A failure that shows only after the delivery was answered. `direct` tells whether it is known at once; what
-- merely offers to be waited for has to be asked first.
structure LateFailure where
  direct : Bool
  message : String

structure Attempt where
  call : Option Call
  outcome : Except Failure Unit
  late : Option LateFailure

-- A function takes the signal, or nothing when it declares no parameter.
def functionCall? (f : Function) (signal : Value) : Option Call :=
  if f.parameters == 0 then some ⟨f,absent,[]⟩
  else if f.parameters == 1 then some ⟨f,absent,[signal]⟩
  else none

def emitter? (target : Value) : Option Function :=
  match target.get "emit" with
  | function f => some f
  | _ => none

def leading? : Value → Option (List Value)
  | absent => some []
  | list items => some items
  | _ => none

def remoteCall? (target signal : Value) : Option Call := do
  let holder := target.get "module"
  guard holder.isObject
  let name ← (target.get "fn").text?
  let leading ← leading? (target.get "args")
  let member ← (holder.get name).function?
  return ⟨member,holder,leading ++ [signal]⟩

def call? (target signal : Value) : Option Call :=
  match target with
  | function f => functionCall? f signal
  | target =>
      if !target.isObject then none
      else match emitter? target with
        | some f => some ⟨f,target,[signal.get "type", signal]⟩
        | none => if target.isPlain then remoteCall? target signal else none

-- Whether a value has the shape of a target. Whether the named member is there shows only on delivery.
def isTarget (target : Value) : Bool :=
  match target with
  | function f => f.parameters ≤ 1
  | target =>
      target.isObject && ((emitter? target).isSome ||
        (target.isPlain && (target.get "module").isObject && (target.get "fn").text?.isSome))

def replyOf (host : Host) (question : Ask Value) : Reply :=
  match question host with
  | .ok value => .returned value
  | .error fault => .threw fault

def Call.reply (host : Host) (call : Call) : Reply :=
  match call.callee with
  | .member owner name => replyOf host (Inherited.answer owner name call.holder call.arguments)
  | .shown f => replyOf host ((Function.shown f).apply call.arguments)
  | f => host.call f call.arguments

def settlers : List Value :=
  ["resolve", "reject"].map fun name => function (.host name 1 "function () \x7b [native code] \x7d")

-- What can be waited for is asked once, with what it may call when it settles.
def offered (host : Host) (value : Value) : Option LateFailure :=
  if !value.isObject && !value.isFunction then none
  else match value.get "then" with
    | function f =>
        match host.call f settlers with
        | .threw fault => some ⟨false,fault.message⟩
        | _ => none
    | _ => none

def deliver (host : Host) (target signal : Value) : Attempt :=
  match call? target signal with
  | none => ⟨none,.error ⟨.invalidTarget,none⟩,none⟩
  | some call =>
      match call.reply host with
      | .threw fault => ⟨some call,.error ⟨.deliveryFailed,some fault.message⟩,none⟩
      | .promised later => ⟨some call,.ok (),later.map fun fault => ⟨true,fault.message⟩⟩
      | .returned value => ⟨some call,.ok (),offered host value⟩

def calls (attempts : List Attempt) : List Call := attempts.filterMap (·.call)

def lateMessages (type : String) (attempts : List Attempt) : List String :=
  let late := attempts.filterMap (·.late)
  ((late.filter (·.direct)) ++ (late.filter (!·.direct))).map fun failure =>
    s!"async delivery of {type} failed: {failure.message}"

end Trifold.Delivery
