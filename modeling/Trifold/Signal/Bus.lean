import Trifold.Fault
import Trifold.Value.Basic

namespace Trifold

-- A hidden topic stands for a name without a text, which no signal can carry.
inductive Topic where
  | named (type : String)
  | every
  | hidden (name : String) (serial : Nat)
  deriving DecidableEq, Repr

structure Subscription (κ : Type) where
  topic : Topic
  listener : κ
  deriving DecidableEq

abbrev Bus (κ : Type) := List (Subscription κ)

inductive Notice where
  | signal (payload : Value)
  | topic (topic : Topic)

namespace Bus

variable {κ : Type} [DecidableEq κ]

def empty : Bus κ := []

def add (topic : Topic) (listener : κ) (bus : Bus κ) : Bus κ := bus ++ [⟨topic,listener⟩]

-- Drops the last equal subscription, if there is one.
def drop (topic : Topic) (listener : κ) (bus : Bus κ) : Bus κ :=
  (bus.reverse.erase ⟨topic,listener⟩).reverse

def listeners (topic : Topic) (bus : Bus κ) : List κ := (bus.filter (·.topic == topic)).map (·.listener)

def count (topic : Topic) (bus : Bus κ) : Nat := (listeners topic bus).length

structure Reaction (κ : Type) where
  bus : Bus κ
  fault : Option Fault

abbrev React (κ : Type) := Notice → κ → Bus κ → Reaction κ

structure Emission (κ : Type) where
  bus : Bus κ
  called : List κ
  outcome : Except Fault Bool

def Emission.andThen (first : Emission κ) (next : Bus κ → Emission κ) : Emission κ :=
  match first.outcome with
  | .error fault => ⟨first.bus,first.called,.error fault⟩
  | .ok heard =>
      let later := next first.bus
      ⟨later.bus,first.called ++ later.called,later.outcome.map (heard || ·)⟩

def callAll (react : React κ) (notice : Notice) (bus : Bus κ) : List κ → Emission κ
  | [] => ⟨bus,[],.ok true⟩
  | listener :: rest =>
      match react notice listener bus with
      | ⟨after,some fault⟩ => ⟨after,[listener],.error fault⟩
      | ⟨after,none⟩ =>
          let later := callAll react notice after rest
          ⟨later.bus,listener :: later.called,later.outcome⟩

-- The listeners of one topic as they are when it begins; whether there was any.
def announce (react : React κ) (topic : Topic) (notice : Notice) (bus : Bus κ) : Emission κ :=
  match listeners topic bus with
  | [] => ⟨bus,[],.ok false⟩
  | present => callAll react notice bus present

def made : Topic := .named "newListener"

def dropped : Topic := .named "removeListener"

def on (react : React κ) (topic : Topic) (listener : κ) (bus : Bus κ) : Emission κ :=
  (announce react made (.topic topic) bus).andThen fun told => ⟨add topic listener told,[],.ok true⟩

def off (react : React κ) (topic : Topic) (listener : κ) (bus : Bus κ) : Emission κ :=
  if ⟨topic,listener⟩ ∈ bus then announce react dropped (.topic topic) (drop topic listener bus)
  else ⟨bus,[],.ok false⟩

def offAll (react : React κ) (bus : Bus κ) : List (Subscription κ) → Emission κ
  | [] => ⟨bus,[],.ok false⟩
  | it :: rest => (off react it.topic it.listener bus).andThen fun after => offAll react after rest

-- Topics in the order of their first subscription, positions first and nameless ones last.
def topics (bus : Bus κ) : List Topic :=
  let named := bus.filterMap fun it => match it.topic with
    | .named type => some (type,())
    | _ => none
  let others := (bus.map (·.topic)).filter fun topic => match topic with
    | .named _ => false
    | _ => true
  (Fields.keys (Fields.ofEntries named)).map .named ++ others.eraseDups

def subscriptionsTo (topic : Topic) (bus : Bus κ) : List (Subscription κ) := bus.filter (·.topic == topic)

-- Drops everything: topic by topic, in each the last subscription first, those that are told of it at the end.
def clear (react : React κ) (bus : Bus κ) : Emission κ :=
  let order := (topics bus).filter (· != dropped) ++ [dropped]
  let leaving := order.flatMap fun topic => (subscriptionsTo topic bus).reverse
  if (listeners dropped bus).isEmpty then ⟨empty,[],.ok false⟩
  else (offAll react bus leaving).andThen fun _ => ⟨empty,[],.ok false⟩

def errorType : String := "error"

def carries (name : String) (payload : Value) : Bool :=
  payload.isObject && (payload.get "type").text? == some name && (payload.get "id").text?.isSome

def emit (react : React κ) (name : String) (payload : Value) (bus : Bus κ) : Emission κ :=
  if !carries name payload then ⟨bus,[],.ok false⟩
  else if name == errorType && (listeners (.named name) bus).isEmpty then ⟨bus,[],.error .unheard⟩
  else
    (announce react (.named name) (.signal payload) bus).andThen
      (announce react .every (.signal payload))

end Bus

end Trifold
