import Trifold.Number.Basic
import Trifold.Value.Items
import Trifold.Value.Same

namespace Trifold.Attributes
open Value

def pair? : Value → Option (String × Value)
  | list [text key, value] => some (key,value)
  | _ => none

def isPair (value : Value) : Bool := (pair? value).isSome

def entries : Value → List (String × Value)
  | list items => items.filterMap pair?
  | source => source.fields?.getD []

-- First value stored under a name. A record also answers for the names it inherits.
def read (key : String) : Value → Value
  | list items => ((items.filterMap pair?).find? (·.1 == key)).elim absent (·.2)
  | source => if source.isPlain then get key source else absent

def holds (key : String) (source : Value) : Bool := (entries source).any (·.1 == key)

def readBy (key source : Value) : Ask Value :=
  match source, key with
  | source, text name => return read name source
  | list _, _ => return absent
  | source, key => do
      if source.isPlain then return (← toKey key).elim absent (get · source) else return absent

def holdsBy (key source : Value) : Ask Bool :=
  match source, key with
  | source, text name => return holds name source
  | list _, _ => return false
  | source, key => do
      if source.isPlain then return (← toKey key).any (holds · source) else return false

def finite? (value : Value) : Option Float := (number? value).filter Number.isFinite

def truth (fallback : Bool) (value : Value) : Bool := (bool? value).getD fallback

def oneOf? (allowed : List String) (value : Value) : Option String := (text? value).filter allowed.contains

def oneOfValue (value allowed : Value) : Ask Value :=
  match value with
  | text s => do return if isAmong (← items allowed) (text s) then text s else absent
  | _ => return absent

def texts? (value : Value) : Option (List String) := (list? value).map (·.filterMap text?)

def finites (value : Value) : List Float := ((list? value).getD []).filterMap finite?

def pairs? : Value → Option (List (String × Value))
  | list items =>
      if items.isEmpty then none else if items.all isPair then some (items.filterMap pair?) else none
  | _ => none

end Trifold.Attributes
