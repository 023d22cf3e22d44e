import Trifold.Fields
import Trifold.Text.Units
import Trifold.Value.Member

namespace Trifold

-- A record lists its own fields. A bare record inherits nothing, not even the members every record carries; an
-- heir inherits from the value that was assigned as its base, whose fields are read only when it is locked. The
-- ancestor is what all ordinary records inherit from: a plain record itself, without fields of its own. A pattern is
-- known by what it is written as. One date and one opaque thing stand for all of them.
inductive Value where
  | absent
  | null
  | bool (truth : Bool)
  | number (x : Float)
  | text (s : String)
  | bigint (n : Int)
  | symbol (name : String) (serial : Nat)
  | function (f : Function)
  | list (items : List Value)
  | record (bare : Bool) (fields : List (String × Value))
  | heir (base : Value) (locked : Bool) (fields : List (String × Value))
  | ancestor
  | pattern (source flags : String)
  | date
  | foreign

namespace Value

instance : Inhabited Value := ⟨absent⟩

def object (fields : Fields Value) : Value := record false fields

def texts (items : List String) : Value := list (items.map text)

def ofOption : Option Value → Value
  | some value => value
  | none => absent

def ofText? (s : Option String) : Value := ofOption (s.map text)

def ofNumber? (x : Option Float) : Value := ofOption (x.map number)

def ofNat (n : Nat) : Value := number (Float.ofNat n)

def isAbsent : Value → Bool
  | absent => true
  | _ => false

def isMissing : Value → Bool
  | absent | null => true
  | _ => false

def isPlain : Value → Bool
  | record .. | ancestor => true
  | _ => false

def isObject : Value → Bool
  | list _ | record .. | heir .. | ancestor | pattern .. | date | foreign => true
  | _ => false

def isFunction : Value → Bool
  | function _ => true
  | _ => false

def text? : Value → Option String
  | text s => some s
  | _ => none

def number? : Value → Option Float
  | number x => some x
  | _ => none

def bool? : Value → Option Bool
  | bool truth => some truth
  | _ => none

def list? : Value → Option (List Value)
  | list items => some items
  | _ => none

def function? : Value → Option Function
  | function f => some f
  | _ => none

def fields? : Value → Option (Fields Value)
  | record _ fields => some fields
  | ancestor => some []
  | _ => none

def present? : Value → Option Value
  | absent => none
  | value => some value

def given (value other : Value) : Value := if value.isAbsent then other else value

def orElse (value other : Value) : Value := if value.isMissing then other else value

def standard (owner : Owner) (key : String) : Value :=
  match owner.holder? key with
  | some holder => function (.member holder key)
  | none => if key = "__proto__" then ancestor else absent

def inherited (key : String) : Value := standard .record key

def itemAt (items : List Value) (key : String) : Option Value :=
  if key = "length" then some (ofNat items.length)
  else (Fields.position? key).bind fun position => items[position]?

def unitAt (s : String) (key : String) : Option Value :=
  if key = "length" then some (ofNat (Text.unitLength s))
  else (Fields.position? key).bind fun position => (Text.unitTexts s)[position]?.map text

def functionAt (f : Function) (key : String) : Option Value :=
  if key = "length" then some (ofNat f.parameters)
  else if key = "name" then some (text f.label)
  else none

def get (key : String) : Value → Value
  | record bare fields => (Fields.get? key fields).getD (if bare then absent else inherited key)
  | heir base _ fields => (Fields.get? key fields).getD (get key base)
  | list items => (itemAt items key).getD (standard .list key)
  | text s => (unitAt s key).getD (standard .text key)
  | function f => (functionAt f key).getD (standard .function key)
  | symbol name _ => if key = "description" then text name else standard .symbol key
  | ancestor => if key = "__proto__" then null else inherited key
  | number _ => standard .number key
  | bool _ => standard .truth key
  | bigint _ => standard .bigint key
  | pattern .. => standard .pattern key
  | date => standard .date key
  | foreign => standard .foreign key
  | absent | null => absent

def contains (key : String) : Value → Bool
  | record bare fields => Fields.has key fields || (!bare && !(inherited key).isAbsent)
  | heir base _ fields => Fields.has key fields || contains key base
  | value => !(get key value).isAbsent || (value.list?.bind (itemAt · key)).isSome

def own : Value → Fields Value
  | record _ fields => fields
  | heir _ _ fields => fields
  | list items => items.zipIdx.map fun (item,position) => (toString position,item)
  | text s => (Text.unitTexts s).zipIdx.map fun (unit,position) => (toString position,text unit)
  | _ => []

def hasOwn (key : String) (value : Value) : Bool := Fields.has key (own value)

def spread (base overlay : Fields Value) : Fields Value := Fields.putAll base overlay

def defined (fields : Fields Value) : Fields Value := fields.filter (!·.2.isAbsent)

def sort : Value → String
  | absent => "undefined"
  | null => "null"
  | bool _ => "boolean"
  | number _ => "number"
  | text _ => "string"
  | bigint _ => "bigint"
  | symbol .. => "symbol"
  | function _ => "function"
  | list _ | record .. | heir .. | ancestor | pattern .. | date | foreign => "object"

theorem eq_absent {value : Value} (nothing : value.isAbsent = true) : value = absent := by
  cases value <;> simp_all [isAbsent]

theorem sizeOf_list_pos {α : Type} [SizeOf α] (items : List α) : 0 < sizeOf items := by
  cases items <;> simp +arith

theorem sizeOf_lookup_lt {key : String} {fields : Fields Value} {value : Value}
    (found : Fields.get? key fields = some value) : sizeOf value + 2 < sizeOf fields := by
  induction fields with
  | nil => simp [Fields.get?] at found
  | cons entry rest ih =>
    obtain ⟨name,held⟩ := entry
    simp only [Fields.get?] at found
    split at found
    · cases found
      have := sizeOf_list_pos rest
      simp only [List.cons.sizeOf_spec,Prod.mk.sizeOf_spec]
      omega
    · have deeper := ih found
      simp only [List.cons.sizeOf_spec]
      omega

-- A name that no standard member and no position answers to.
def isOrdinary (key : String) : Bool :=
  (Fields.position? key).isNone && !(["length", "name", "description", "__proto__"].contains key) &&
    Owner.all.all fun owner => (owner.holder? key).isNone

theorem standard_eq_absent {key : String} (ordinary : isOrdinary key = true) (owner : Owner) :
    standard owner key = absent := by
  simp only [isOrdinary,Bool.and_eq_true,List.all_eq_true,Bool.not_eq_true',List.contains_eq_mem,
    decide_eq_false_iff_not,List.mem_cons,not_or,Option.isNone_iff_eq_none] at ordinary
  have here := ordinary.2 owner (by cases owner <;> simp [Owner.all])
  simp [standard,here,ordinary.1.2.2.2.2.1]

theorem names_apart {key : String} (ordinary : isOrdinary key = true) :
    Fields.position? key = none ∧ key ≠ "length" ∧ key ≠ "name" ∧ key ≠ "description" ∧ key ≠ "__proto__" := by
  simp only [isOrdinary,Bool.and_eq_true,Bool.not_eq_true',List.contains_eq_mem,decide_eq_false_iff_not,
    List.mem_cons,not_or,Option.isNone_iff_eq_none] at ordinary
  exact ⟨ordinary.1.1,ordinary.1.2.1,ordinary.1.2.2.1,ordinary.1.2.2.2.1,ordinary.1.2.2.2.2.1⟩

-- What a value holds is smaller than the value. Recursion over nested values rests on this.
theorem sizeOf_get_lt {key : String} (ordinary : isOrdinary key = true) :
    (value : Value) → get key value ≠ absent → sizeOf (get key value) + 2 < sizeOf value
  | record bare fields => fun there => by
      unfold get at there ⊢
      cases found : Fields.get? key fields with
      | none => cases bare <;> simp_all [inherited,standard_eq_absent ordinary]
      | some held =>
        have := sizeOf_lookup_lt found
        simp only [Option.getD_some,record.sizeOf_spec]
        omega
  | heir base locked fields => fun there => by
      unfold get at there ⊢
      cases found : Fields.get? key fields with
      | none =>
        simp only [found,Option.getD_none] at there ⊢
        have := sizeOf_get_lt ordinary base there
        simp only [heir.sizeOf_spec]
        omega
      | some held =>
        have := sizeOf_lookup_lt found
        simp only [Option.getD_some,heir.sizeOf_spec]
        omega
  | list items => fun there => by
      obtain ⟨place,counted,_⟩ := names_apart ordinary
      simp [get,itemAt,place,counted,standard_eq_absent ordinary] at there
  | text s => fun there => by
      obtain ⟨place,counted,_⟩ := names_apart ordinary
      simp [get,unitAt,place,counted,standard_eq_absent ordinary] at there
  | function f => fun there => by
      obtain ⟨_,counted,named,_⟩ := names_apart ordinary
      simp [get,functionAt,counted,named,standard_eq_absent ordinary] at there
  | symbol .. => fun there => by
      obtain ⟨_,_,_,described,_⟩ := names_apart ordinary
      simp [get,described,standard_eq_absent ordinary] at there
  | ancestor => fun there => by
      obtain ⟨_,_,_,_,based⟩ := names_apart ordinary
      simp [get,based,inherited,standard_eq_absent ordinary] at there
  | number _ => fun there => absurd (standard_eq_absent ordinary _) (by simpa [get] using there)
  | bool _ => fun there => absurd (standard_eq_absent ordinary _) (by simpa [get] using there)
  | bigint _ => fun there => absurd (standard_eq_absent ordinary _) (by simpa [get] using there)
  | pattern .. => fun there => absurd (standard_eq_absent ordinary .pattern) (by simpa [get] using there)
  | date => fun there => absurd (standard_eq_absent ordinary _) (by simpa [get] using there)
  | foreign => fun there => absurd (standard_eq_absent ordinary _) (by simpa [get] using there)
  | absent => fun there => absurd rfl there
  | null => fun there => absurd rfl there

theorem sizeOf_listed_lt (key : String) {value : Value} {items : List Value} (ordinary : isOrdinary key = true)
    (held : get key value = list items) : sizeOf items < sizeOf value := by
  have smaller := sizeOf_get_lt ordinary value (by simp [held])
  simp only [held,list.sizeOf_spec] at smaller
  omega

theorem sizeOf_member_lt (key : String) {value : Value} (ordinary : isOrdinary key = true)
    (held : (get key value).isAbsent = false) : sizeOf (get key value) < sizeOf value := by
  have there : get key value ≠ absent := fun missing => by simp [missing,isAbsent] at held
  have := sizeOf_get_lt ordinary value there
  omega

end Value

end Trifold
