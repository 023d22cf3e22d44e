import Trifold.Misuse
import Trifold.Value.Basic

namespace Trifold.Value

def refuses (key : String) : Value → Bool → Bool
  | record _ fields, locked => Fields.has key fields && locked
  | heir base baseLocked fields, locked =>
      if Fields.has key fields then locked else refuses key base baseLocked
  | list items, locked => (itemAt items key).isSome && locked
  | function _, _ => key == "name" || key == "length"
  | _, _ => false

def baseName : String := "__proto__"

-- Whether a record with this base still has a base to set: a bare record has none, and neither has what stands on it.
def isRooted : Value → Bool
  | record bare fields => !bare && !Fields.has baseName fields
  | heir base _ fields => !Fields.has baseName fields && isRooted base
  | _ => true

-- The record with its own fields and that base. Null takes the base away; what is no object changes nothing.
def rebased (locked : Bool) (base target : Value) : Value :=
  match base with
  | null => record true (own target)
  | base => if base.isObject || base.isFunction then heir base locked (own target) else target

def setsBase (key : String) (target : Value) : Bool := key == baseName && isRooted target

-- `locked` tells whether the assigned value's own fields are read only.
def assign (locked : Bool) (key : String) (value : Value) (target : Value) : Except Misuse Value :=
  if setsBase key target then .ok (rebased locked value target)
  else match target with
    | record bare fields => .ok (record bare (Fields.put key value fields))
    | heir base baseLocked fields =>
        if !Fields.has key fields && refuses key base baseLocked then .error (.lockedKey key)
        else .ok (heir base baseLocked (Fields.put key value fields))
    | target => .ok target

def assignAll (locked : Bool) (entries : List (String × Value)) : Except Misuse Value :=
  entries.foldlM (fun target entry => assign locked entry.1 entry.2 target) (object [])

def assignDefined (entries : List (String × Value)) : Except Misuse Value := assignAll false (defined entries)

end Trifold.Value
