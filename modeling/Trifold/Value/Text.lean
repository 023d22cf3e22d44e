import Trifold.Host

namespace Trifold.Value

inductive Purpose where
  | text
  | number
  | either
  deriving DecidableEq, Repr

def isScalar (value : Value) : Bool := !value.isObject && !value.isFunction

def dateText : String := "Thu Jan 01 1970 00:00:00 GMT+0000 (Coordinated Universal Time)"

def naturalText (owner : Owner) : Value → String
  | function f => f.source
  | date => dateText
  | pattern source flags => s!"/{source}/{flags}"
  | _ => if owner = .record then "[object Object]" else ""

def natural? (owner : Owner) (name : String) (value : Value) : Option Value :=
  if name = "toString" then some (text (naturalText owner value))
  else if name = "valueOf" && owner = .date then some (number 0)
  else none

def offered (value : Value) (key : String) : Ask (Option Value) := do
  match value.get key with
  | function (.member owner name) => return natural? owner name value
  | function f =>
      let answer ← Ask.call f []
      return if answer.isScalar then some answer else none
  | _ => return none

-- A date prefers its text unless it is wanted for a number, everything else only where it is wanted for a text.
def asked (purpose : Purpose) (value : Value) : List String :=
  let preferred : Bool := match value with
    | date => purpose != .number
    | _ => purpose == .text
  if preferred then ["toString", "valueOf"] else ["valueOf", "toString"]

def firstOffered (value : Value) : List String → Ask Value
  | [] => .misuse .noText
  | key :: rest => do
      match ← offered value key with
      | some answer => return answer
      | none => firstOffered value rest

def scalarText : Value → Ask String
  | absent => return "undefined"
  | null => return "null"
  | bool truth => return if truth then "true" else "false"
  | number x => return Number.written x
  | text s => return s
  | bigint n => return toString n
  | _ => .misuse .symbolText

mutual
def toText : Value → Ask String
  | symbol name _ => return s!"Symbol({name})"
  | list items => do return ",".intercalate (← itemTexts items)
  | absent => return "undefined"
  | null => return "null"
  | bool truth => return if truth then "true" else "false"
  | number x => return Number.written x
  | text s => return s
  | bigint n => return toString n
  | value => do scalarText (← firstOffered value (asked .text value))
def itemTexts : List Value → Ask (List String)
  | [] => return []
  | absent :: rest | null :: rest => do return "" :: (← itemTexts rest)
  | symbol _ _ :: _ => .misuse .symbolText
  | item :: rest => do
      let head ← toText item
      return head :: (← itemTexts rest)
end

def shown : Value → Ask String
  | symbol .. => .misuse .symbolText
  | value => toText value

def toScalar (purpose : Purpose) : Value → Ask Value
  | list items => do return text (← toText (list items))
  | value => if value.isScalar then return value else firstOffered value (asked purpose value)

-- The name a value stands for where a member is looked up; a symbol stands for none that is ever there.
def toKey (value : Value) : Ask (Option String) := do
  match ← toScalar .text value with
  | symbol .. => return none
  | scalar => return some (← toText scalar)

def fetchBy (key value : Value) : Ask Value :=
  match value, key with
  | value, text name => fetch name value
  | null, _ | absent, _ => fetch "" value
  | value, key => do return (← toKey key).elim absent (value.get ·)

end Value

def Function.apply : Function → List Value → Ask Value
  | .shown f, arguments => do return .text (← (← apply f arguments).toText)
  | f, arguments => Ask.call f arguments

end Trifold
