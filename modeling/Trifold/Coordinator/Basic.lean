import Trifold.Coordinator.Settings
import Trifold.Delivery.Dispatch
import Trifold.Platform.Builtin
import Trifold.Signal.Bus

namespace Trifold

structure Coordinator where
  settings : Settings
  platform : Platform

namespace Coordinator

def start (own config : Value) : Ask Coordinator := do
  let settings ← Settings.resolve own config
  return ⟨settings,← Platform.detect settings.environment⟩

def names (coordinator : Coordinator) : List Fanout.Name := coordinator.settings.platforms.map .ofPlatform

def request (host : Host) (value config : Value) : Fanout.Request := ⟨Renderer.builtin host,value,config⟩

def render (host : Host) (coordinator : Coordinator) (value config : Value) : Run (Fields Shown) :=
  Fanout.renderOn (request host value config) coordinator.names

def race (host : Host) (coordinator : Coordinator) (value config : Value) (clock : Nat → Fanout.Reading) :
    Fanout.Race :=
  ⟨request host value config,coordinator.names,coordinator.settings.timeout,clock⟩

def incoming (coordinator : Coordinator) (type data : Value) : Dispatch.Incoming :=
  ⟨.text coordinator.platform.name,type,data,.object [("namespace",.text coordinator.settings.domain)]⟩

def dispatch (host : Host) (stamp : Stamp) (coordinator : Coordinator) (type data target : Value) :
    Except Fault (Dispatch.Dispatched DispatchError) :=
  Dispatch.toOne host stamp (coordinator.incoming type data) target

def broadcast (host : Host) (stamp : Stamp) (coordinator : Coordinator) (type data : Value) (targets : List Value) :
    Except Fault (Dispatch.Dispatched BroadcastError) :=
  Dispatch.toMany host stamp (coordinator.incoming type data) targets

structure Published (κ : Type) where
  bus : Bus κ
  called : List κ
  signal : Option Signal
  outcome : Except DispatchError Signal

-- The bus hears a signal. A listener that throws fails the delivery; a bus without listeners does not.
def heard {κ : Type} [DecidableEq κ] (react : Bus.React κ) (bus : Bus κ) (signal : Signal) : Published κ :=
  let emission := Bus.emit react signal.type signal.toValue bus
  ⟨emission.bus,emission.called,some signal,
    match emission.outcome with
    | .ok _ => .ok signal
    | .error _ => .error (.delivery .deliveryFailed)⟩

def publish {κ : Type} [DecidableEq κ] (host : Host) (react : Bus.React κ) (stamp : Stamp)
    (coordinator : Coordinator) (type data : Value) (bus : Bus κ) : Except Fault (Published κ) := do
  match ← Dispatch.signal stamp (coordinator.incoming type data) host with
  | .error error => return ⟨bus,[],none,.error error.toDispatch⟩
  | .ok signal => return heard react bus signal

end Coordinator

end Trifold
