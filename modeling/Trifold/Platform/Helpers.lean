import Trifold.Payload.Hygiene
import Trifold.Signal.Event

namespace Trifold

structure RawEvent where
  type : Value
  data : Value

namespace RawEvent
open Value

def of (type : String) (details : Fields Value) : RawEvent := ⟨text type,object details⟩

def toSignal (event : RawEvent) (stamp : Stamp) (platform : Platform) (options : Value) :
    Ask (Except EventError Signal) :=
  Event.toSignal stamp (text platform.name) event.type event.data options

def buttonClick (widget action : Value) : RawEvent := of "click" [("widgetId",widget), ("action",action)]

def inputChange (widget value : Value) : RawEvent := of "change" [("widgetId",widget), ("value",value)]

def formSubmit (formId data : Value) : Ask RawEvent := do
  return of "submit" [("formId",formId), ("data",← Payload.redact data)]

def key (type : String) (key modifiers : Value) : RawEvent :=
  of type [("key",key), ("modifiers",modifiers.given (list []))]

def keyPress : Value → Value → RawEvent := key "keyPress"

def keyRelease : Value → Value → RawEvent := key "keyRelease"

def mouse (action : String) (widget button x y : Value) : RawEvent :=
  of "mouse" [("action",text action), ("widgetId",widget), ("button",button.given (text "left")),
    ("x",x.given (number 0)), ("y",y.given (number 0))]

def mouseClick : Value → Value → Value → Value → RawEvent := mouse "click"

def mouseDoubleClick : Value → Value → Value → Value → RawEvent := mouse "double_click"

def mouseMove (x y buttons : Value) : RawEvent :=
  of "mouse" [("action",text "move"), ("x",x), ("y",y), ("buttons",buttons.given (list []))]

def mouseScroll (x y direction delta : Value) : RawEvent :=
  of "mouse" [("action",text "scroll"), ("x",x), ("y",y), ("direction",direction.given (text "down")),
    ("delta",delta.given (number 1))]

def window (action : String) (details : Fields Value) : RawEvent := of "window" (("action",text action) :: details)

def windowResize (width height : Value) : RawEvent := window "resize" [("width",width), ("height",height)]

def windowMove (x y : Value) : RawEvent := window "move" [("x",x), ("y",y)]

def hook (name data : Value) : RawEvent := of "hook" [("hookName",name), ("data",data.given (object []))]

def connection (phase : String) : RawEvent := hook (text phase) absent

def reconnecting (attempt delay : Value) : RawEvent :=
  hook (text "reconnecting") (object [("attempt",attempt), ("delayMs",delay)])

def commonNames : List String := ["toSignal", "buttonClick", "inputChange", "formSubmit", "keyPress"]

def windowNames : List String :=
  ["windowResize", "windowMove", "windowClose", "windowMinimize", "windowMaximize", "windowRestore", "windowFocus",
    "windowBlur"]

def furtherNames : Platform → List String
  | .terminal => ["mouseClick"]
  | .desktop => ["mouseClick", "mouseDoubleClick", "mouseMove", "mouseScroll"] ++ windowNames
  | .web => ["keyRelease", "hookEvent", "wsConnecting", "wsConnected", "wsDisconnected", "wsReconnecting"]

def isOffered (platform : Platform) (helper : String) : Bool :=
  (commonNames ++ furtherNames platform).contains helper

end RawEvent

namespace Reconnect

def baseDelay : Float := 1000

def longestDelay : Float := 32000

def lastAttempt : Float := 10

def doubled : Nat → Float → Float
  | 0, delay => delay
  | n+1, delay => doubled n (2 * delay)

-- Five doublings reach the longest delay, so more need not be counted.
def delayOf (attempt : Float) : Float :=
  let exponent := Number.larger 0 (Number.truncate attempt - 1)
  if Number.isNaN exponent then exponent
  else match Number.truncated? exponent with
    | none => longestDelay
    | some n => Number.smaller (doubled (min n.toNat 6) baseDelay) longestDelay

def delay (attempt : Value) : Ask Float := do return delayOf (← attempt.toNumber)

def isDue (attempt : Value) : Ask Bool := attempt.isAtMost (.number lastAttempt)

end Reconnect

end Trifold
