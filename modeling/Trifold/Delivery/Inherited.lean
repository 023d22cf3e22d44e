import Trifold.Table.Runs
import Trifold.Value.Numeric
import Trifold.Value.Sketch

namespace Trifold.Inherited
open Value

def argument (arguments : List Value) (position : Nat) : Value := arguments.getD position absent

def positions : String → List Nat
  | "at" | "flat" | "with" => [0]
  | "includes" | "indexOf" | "lastIndexOf" => [1]
  | "slice" | "splice" | "toSpliced" => [0, 1]
  | "fill" => [1, 2]
  | "copyWithin" => [0, 1, 2]
  | _ => []

def amounts : String → Nat
  | "setDate" | "setUTCDate" | "setMilliseconds" | "setUTCMilliseconds" | "setTime" | "setYear" => 1
  | "setMonth" | "setUTCMonth" | "setSeconds" | "setUTCSeconds" => 2
  | "setFullYear" | "setUTCFullYear" | "setMinutes" | "setUTCMinutes" => 3
  | "setHours" | "setUTCHours" => 4
  | _ => 0

def askNumbers (arguments : List Value) (at_ : List Nat) : Ask Unit :=
  at_.forM fun position => do
    let _ ← (argument arguments position).toNumber
    return ()

def placeIn (items : List Value) (position : Value) : Ask (Option Nat) := do
  let given := (Number.truncated? (← position.toNumber)).getD 0
  let place := if given < 0 then items.length + given else given
  return if 0 ≤ place && place < items.length then some place.toNat else none

def asking : List String :=
  ["every", "filter", "find", "findIndex", "findLast", "findLastIndex", "flatMap", "forEach", "map", "some"]

def folding : List String := ["reduce", "reduceRight"]

def ordering : List String := ["sort", "toSorted"]

def settles (name : String) (answer : Value) : Bool :=
  if name == "every" then !answer.isTrue
  else ["some", "find", "findIndex", "findLast", "findLastIndex"].contains name && answer.isTrue

def askEach (name : String) (f : Function) : List Value → Ask (Option Value)
  | [] => return none
  | item :: rest => do
      if settles name (← f.apply [item]) then return some item else askEach name f rest

def isFromEnd (name : String) : Bool := ["findLast", "findLastIndex", "reduceRight"].contains name

def inOrder (name : String) (items : List Value) : List Value := if isFromEnd name then items.reverse else items

def asked (name : String) (items : List Value) (given : Value) : Ask Value := do
  match given with
  | function f =>
      let ended ← askEach name f (inOrder name items)
      return if name == "find" || name == "findLast" then ofOption ended else absent
  | given => if name == "flatMap" then .misuse .noMapper else .misuse (.notCallable (pointed given))

def folded (name : String) (items arguments : List Value) : Ask Value := do
  match argument arguments 0 with
  | function f => (inOrder name items).foldlM (fun held item => f.apply [held, item]) (argument arguments 1)
  | given => .misuse (.notCallable (pointed given))

def textBefore (a b : Value) : Ask Bool := do return Text.before (← shown a) (← shown b)

def answerBefore (f : Function) (a b : Value) : Ask Bool := do return (← (← f.apply [a, b]).toNumber) < 0

-- What is absent goes last and is not compared.
def sorted (items : List Value) (given : Value) : Ask Value := do
  let there := items.filter (!·.isAbsent)
  match given with
  | absent =>
      let _ ← Runs.sort textBefore there
      return absent
  | function f =>
      let _ ← Runs.sort (answerBefore f) there
      return absent
  | given => .misuse (.badOrder given.sketch)

def joined (items : List Value) (separator : Value) : Ask Value := do
  let separator ← if separator.isAbsent then pure "," else shown separator
  return text (separator.intercalate (← itemTexts items))

def called (value : Value) (key : String) : Ask Value :=
  match value.get key with
  | function (.member ..) => return absent
  | function f => f.apply []
  | other => .misuse (.notCallable (pointed other))

def localCall (value : Value) : Ask Value :=
  match value.get "toLocaleString" with
  | function (.member .record _) => called value "toString"
  | _ => called value "toLocaleString"

mutual
def localText : Value → Ask Unit
  | absent | null => return ()
  | list items => localTexts items
  | value => do
      let _ ← (← localCall value).shown
      return ()
def localTexts : List Value → Ask Unit
  | [] => return ()
  | item :: rest => do
      localText item
      localTexts rest
end

def listAnswer (name : String) (items arguments : List Value) : Ask Value := do
  let first := argument arguments 0
  if asking.contains name then asked name items first
  else if folding.contains name then folded name items arguments
  else if ordering.contains name then sorted items first
  else if name == "join" then joined items first
  else if name == "toString" then joined items absent
  else if name == "toLocaleString" then
    localTexts items
    return absent
  else if name == "pop" then return items.getLast?.getD absent
  else if name == "shift" then return items.headD absent
  else
    if !(items.isEmpty && ["includes", "indexOf", "lastIndexOf"].contains name) then
      askNumbers arguments (positions name)
    if name == "at" then return ((← placeIn items first).bind (items[·]?)).getD absent
    else if name == "with" then
      if (← placeIn items first).isNone then .misuse (.badPosition first.sketch) else return absent
    else return absent

-- A key has to have a text, and where a function is wanted it comes first.
def recordAnswer (name : String) (holder : Value) (arguments : List Value) : Ask Value := do
  let first := argument arguments 0
  if ["hasOwnProperty", "propertyIsEnumerable", "__lookupGetter__", "__lookupSetter__"].contains name then
    let _ ← first.toKey
    return absent
  else if name == "__defineGetter__" || name == "__defineSetter__" then
    if !(argument arguments 1).isFunction then .misuse (.expectingFunction name)
    let _ ← first.toKey
    return absent
  else if name == "valueOf" then return holder
  else if name == "constructor" then return first
  else if name == "toLocaleString" then localCall holder
  else return absent

def answer (owner : Owner) (name : String) (holder : Value) (arguments : List Value) : Ask Value :=
  match owner, holder with
  | .list, list items => if name == "constructor" then return absent else listAnswer name items arguments
  | .date, _ => do
      askNumbers arguments (List.range (amounts name))
      return absent
  | .pattern, _ => do
      if name != "toString" then
        let _ ← (argument arguments 0).shown
      return absent
  | .foreign, _ => .misuse (.notConstructed (Owner.label .foreign name))
  | .record, _ => recordAnswer name holder arguments
  | _, _ => return absent

end Trifold.Inherited
