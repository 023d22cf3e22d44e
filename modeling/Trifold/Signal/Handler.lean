import Trifold.Element.Metadata
import Trifold.Value.Items

namespace Trifold

structure Handler where
  signal : String
  payload : Option Value
  isName : Bool

structure ElementSignal where
  name : String
  payload : Fields Value

inductive ElementSignalError where
  | noHandler
  | missingElementId
  deriving DecidableEq, Repr

inductive SignalShapeError where
  | invalidFormat
  | missingElementId
  deriving DecidableEq, Repr

def ElementSignalError.name : ElementSignalError → String
  | noHandler => "no_handler"
  | missingElementId => "missing_element_id"

def SignalShapeError.name : SignalShapeError → String
  | invalidFormat => "invalid_format"
  | missingElementId => "missing_element_id"

namespace Handler
open Value

def ofValue? : Value → Option Handler
  | .text name => some ⟨name,none,true⟩
  | value =>
      if value.isPlain then
        (value.get "signal").text?.map fun signal =>
          ⟨signal,if (value.get "payload").isPlain then some (value.get "payload") else none,false⟩
      else none

def toValue (handler : Handler) : Value :=
  if handler.isName then .text handler.signal
  else object (("signal",.text handler.signal) :: (handler.payload.map fun payload => ("payload",payload)).toList)

def keys : Value :=
  object [("click",.text "onClick"), ("change",.text "onChange"), ("submit",.text "onSubmit"),
    ("focus",.text "onFocus"), ("blur",.text "onBlur")]

-- The property is looked up by the text of what stands under the event. What is a function there has a text too.
def find? (element event : Value) : Ask (Option Handler) := do
  let key ← fetchBy event keys
  if key.isAbsent then return none
  return ofValue? (← fetchBy key (← .ofMisuse (Element.metadata element)))

def elementSignal (element event payload : Value) : Ask (Except ElementSignalError ElementSignal) := do
  match ← find? element event with
  | none => return .error .noHandler
  | some handler =>
      match ((← .ofMisuse (Element.metadata element)).get "id").text? with
      | none => return .error .missingElementId
      | some id =>
          let named := Fields.put "elementId" (.text id) (own payload)
          return .ok { name := handler.signal, payload := spread named ((handler.payload.map own).getD []) }

def completed (payload now : Value) : Ask (Fields Value) := do
  let element := (← payload.fetch "elementId").orElse (.text "unknown")
  return Fields.put "timestamp" ((payload.get "timestamp").orElse now) (Fields.put "elementId" element (own payload))

def shapeError (value : Value) : Option SignalShapeError :=
  if !value.isPlain || (value.get "name").text?.isNone || !(value.get "payload").isPlain then some .invalidFormat
  else if (value.get "payload").hasOwn "elementId" then none
  else some .missingElementId

def aliases : List (String × List String) :=
  [("x",["x"]), ("y",["y"]), ("ctrl",["control", "ctrl"]), ("alt",["modifierAlt", "alt"]),
    ("shift",["modifierShift", "shift"]), ("meta",["modifierMeta", "meta"]),
    ("timestamp",["timestamp", "time", "timestampMs", "ms"])]

def eventProperties (raw : Value) : Ask (Fields Value) := do
  let fields ← entries raw
  return aliases.filterMap fun (target,names) =>
    (names.find? (Fields.has · fields)).map fun name => (target,(Fields.get? name fields).getD .absent)

end Handler

end Trifold
