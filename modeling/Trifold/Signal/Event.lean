import Trifold.Payload.Limits
import Trifold.Platform.Name
import Trifold.Signal.Action
import Trifold.Signal.Basic

namespace Trifold

inductive EventRule where
  | standard (signal : StandardSignal)
  | fixed (path : String)
  | action (category : String)
  | hook
  deriving DecidableEq, Repr

inductive EventError where
  | unsupportedEvent
  | invalidAction
  | invalidHook
  | payload (error : PayloadError)
  | signal (error : SignalError)
  deriving DecidableEq, Repr

def EventError.name : EventError → String
  | unsupportedEvent => "unsupported_event"
  | invalidAction => "invalid_action"
  | invalidHook => "invalid_hook"
  | payload error => error.name
  | signal error => error.name

namespace Event

def pointed : Fields EventRule :=
  [("click",.standard .click), ("change",.standard .change), ("submit",.standard .submit),
    ("keyPress",.fixed "key.pressed"), ("mouse",.action "mouse"), ("focus",.standard .focus),
    ("blur",.standard .blur)]

def rules : Platform → Fields EventRule
  | .terminal => pointed
  | .desktop => pointed ++ [("window",.action "window")]
  | .web =>
      [("click",.standard .click), ("change",.standard .change), ("submit",.standard .submit),
        ("keyPress",.fixed "key.pressed"), ("keyRelease",.fixed "key.released"), ("focus",.standard .focus),
        ("blur",.standard .blur), ("hook",.hook)]

def hooks : List String :=
  ["scroll_handler", "resize_handler", "focus_handler", "blur_handler", "scroll_tracker", "resize_observer",
    "visibility_observer", "connecting", "connected", "disconnected", "reconnecting"]

def source (platform : Platform) : String := "/unified_ui/" ++ platform.name

def types (platform : Platform) : List String := Fields.keys (rules platform)

-- A platform that is given as a value has to be a known one: nothing, or what every record inherits, takes no events.
def platformOf (platform : Value) : Ask Platform := do
  match (← platform.toKey).bind Platform.ofName? with
  | some known => return known
  | none => .misuse (.readOfAbsent "get")

def resolve (rule : EventRule) (data domain : Value) : Ask (Except EventError String) := do
  match rule with
  | .standard signal => return .ok signal.name
  | .fixed path => return .ok ((← domain.shown) ++ "." ++ path)
  | .action category =>
      match Action.choose ((Action.allowed? category).getD []) (← data.fetch "action") with
      | some action => return .ok ((← domain.shown) ++ "." ++ category ++ "." ++ action)
      | none => return .error .invalidAction
  | .hook =>
      match Action.choose hooks (← data.fetch "hookName") with
      | some hook => return .ok ((← domain.shown) ++ ".web." ++ hook)
      | none => return .error .invalidHook

def signalOptions (platform : Platform) (domain options : Value) : Value :=
  .object [("namespace",domain), ("source",(options.get "source").orElse (.text (source platform))),
    ("subject",options.get "subject")]

-- The checks in order: is the event supported, is its action or hook allowed, is the payload within the limits,
-- and is the type well formed. The payload is marked with the platform as it was given.
def toSignal (stamp : Stamp) (platform type data options : Value) : Ask (Except EventError Signal) := do
  let known ← platformOf platform
  let data := data.given (.object [])
  let options := options.given (.object [])
  match type.text?.bind fun type => Fields.get? type (rules known) with
  | none => return .error .unsupportedEvent
  | some rule =>
      let domain := (← options.fetch "namespace").orElse (.text Signal.defaultDomain)
      match ← resolve rule data domain with
      | .error error => return .error error
      | .ok name =>
          match ← Payload.violation (← Payload.limitsOf (options.get "limits")) data with
          | some error => return .error (.payload error)
          | none =>
              let marked := .object (Fields.put "platform" platform data.own)
              return (← Signal.make stamp (.text name) marked (signalOptions known domain options)).mapError .signal

end Event

end Trifold
