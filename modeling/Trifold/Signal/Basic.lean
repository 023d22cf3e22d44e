import Trifold.Fault
import Trifold.Text.Search
import Trifold.Value.Convert
import Trifold.Value.Items
import Trifold.Value.Same

namespace Trifold

structure Signal where
  type : String
  data : Fields Value
  source : Value
  id : Value
  subject : Value
  time : String

structure Stamp where
  id : String
  time : String

inductive StandardSignal where
  | click | change | submit | focus | blur | select
  deriving DecidableEq, Repr

namespace StandardSignal

def name : StandardSignal → String
  | click => "click"
  | change => "change"
  | submit => "submit"
  | focus => "focus"
  | blur => "blur"
  | select => "select"

def path : StandardSignal → String
  | click => "button.clicked"
  | change => "input.changed"
  | submit => "form.submitted"
  | focus => "element.focused"
  | blur => "element.blurred"
  | select => "item.selected"

def all : List StandardSignal := [click, change, submit, focus, blur, select]

def ofName? (s : String) : Option StandardSignal := all.find? (·.name == s)

theorem ofName?_name (signal : StandardSignal) : ofName? signal.name = some signal := by
  cases signal <;> decide

end StandardSignal

namespace Signal

def defaultDomain : String := "unified"

def defaultSource : String := "/unified_ui"

def isSegmentChar (c : Char) : Bool := Text.isSmall c || Text.isDigit c || c == '_'

def isSegmentChars : List Char → Bool
  | [] => false
  | c :: rest => Text.isSmall c && rest.all isSegmentChar

def isSegment (s : String) : Bool := isSegmentChars s.toList

def isType (s : String) : Bool :=
  let parts := Text.splitChars '.' s.toList
  3 ≤ parts.length && parts.all isSegmentChars

def standard? (name : Value) : Ask (Option StandardSignal) := do
  return (← name.toKey).bind StandardSignal.ofName?

def segmentOf (value : Value) : Ask Bool := do return isSegment (← value.shown)

def typeNamed (value : Value) : Ask Bool := do return isType (← value.textOf "type.split")

def standardType (standard : StandardSignal) (domain : Value) : Ask String := do
  return (← (domain.orElse (.text defaultDomain)).shown) ++ "." ++ standard.path

def typeOf? (name domain : Value) : Ask (Except SignalError String) := do
  match ← standard? name with
  | some standard => return .ok ((← (domain.given (.text defaultDomain)).shown) ++ "." ++ standard.path)
  | none => return .error .unknownSignal

-- Whether there is a point in what is given as a name. A list may have one too, but is no type.
def hasPoint : Value → Ask Bool
  | .list items => return Value.isAmong items (.text ".")
  | other => do return Text.contains "." (← other.textOf "nameOrType.includes")

-- A standard name stands for its type in the domain; anything with a point is taken as a type itself.
def resolveType (nameOrType options : Value) : Ask (Except SignalError String) := do
  match ← standard? nameOrType with
  | some standard => return .ok (← standardType standard (← options.fetch "namespace"))
  | none => if ← hasPoint nameOrType then return .ok (← nameOrType.textOf "type.split") else return .error .unknownSignal

def build (stamp : Stamp) (type : String) (data options : Value) : Ask Signal := do
  return { type,
           data := data.own,
           source := (← options.fetch "source").orElse (.text defaultSource),
           id := (options.get "id").orElse (.text stamp.id),
           subject := options.get "subject",
           time := stamp.time }

def make (stamp : Stamp) (nameOrType data options : Value) : Ask (Except SignalError Signal) := do
  let options := options.given (.object [])
  match ← resolveType nameOrType options with
  | .error error => return .error error
  | .ok type =>
      if isType type then return .ok (← build stamp type data options) else return .error .invalidTypeFormat

def makeOrFail (stamp : Stamp) (nameOrType data options : Value) : Ask Signal := do
  match ← make stamp nameOrType data options with
  | .ok signal => return signal
  | .error error => throw (.badSignal (← nameOrType.shown) error)

def toValue (signal : Signal) : Value :=
  .object (Value.defined [
    ("type",.text signal.type), ("data",.object signal.data), ("source",signal.source),
    ("id",signal.id), ("subject",signal.subject), ("time",.text signal.time)])

end Signal

end Trifold
