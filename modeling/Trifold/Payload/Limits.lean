import Trifold.Value.Items
import Trifold.Value.Numeric

namespace Trifold

abbrev Bound := Option Int

namespace Bound

-- A bound that is no number never bites; a fraction bounds like its floor.
def ofNumber (x : Float) : Bound :=
  match Number.exact x with
  | .nan => none
  | .infinite negative => if negative then some (-1) else none
  | _ => Number.floor? x

def ofValue (limit : Value) : Ask Bound := do
  match ← limit.toAmount with
  | .bigint n => return some n
  | .number x => return ofNumber x

def exceededBy (bound : Bound) (n : Nat) : Bool := Option.any (fun limit : Int => limit < (n : Int)) bound

end Bound

-- The limits as they are given. One is asked for its number only where it matters.
structure Limits where
  size : Value
  depth : Value
  textLength : Value

inductive PayloadError where
  | tooLarge
  | tooDeep
  | textTooLong
  deriving DecidableEq, Repr

def PayloadError.name : PayloadError → String
  | tooLarge => "payload_too_large"
  | tooDeep => "payload_too_deep"
  | textTooLong => "string_too_long"

namespace Payload
open Value

def defaultLimits : Limits := ⟨number 10000,number 10,number 1000⟩

def limitsOf (given : Value) : Ask Limits := do
  if given.isAbsent then return defaultLimits
  return { depth := ← given.fetch "maxDepth", size := given.get "maxSize", textLength := given.get "maxStringLength" }

-- A text costs its bytes and ten, a plain scalar twenty, a record what its fields cost, anything else ten.
mutual
def cost : Value → Nat
  | .text s => Text.byteLength s + 10
  | .number _ | .bool _ | .null => 20
  | .record _ fields => size fields
  | .ancestor => 0
  | _ => 10
def size : List (String × Value) → Nat
  | [] => 0
  | (_,value) :: rest => cost value + size rest
end

-- Deepest record below, a flat record standing at `level`. The descent ends one step past the bound.
mutual
def depthOf (bound : Bound) (level : Nat) : Value → Nat
  | .record _ fields => if bound.exceededBy (level + 1) then level + 1 else depthWithin bound (level + 1) fields
  | .ancestor => level + 1
  | _ => level
def depthWithin (bound : Bound) (level : Nat) : List (String × Value) → Nat
  | [] => level
  | (_,value) :: rest => max (depthOf bound level value) (depthWithin bound level rest)
end

def depth (bound : Bound) (level : Nat) (data : Fields Value) : Nat :=
  if bound.exceededBy level then level else depthWithin bound level data

mutual
def levelOf? (stop level : Value) : Value → Ask (Option Value)
  | .record _ fields => do
      let next ← sum level (number 1)
      if ← isAbove next stop then return some next else return some (← levelWithin stop next next fields)
  | .ancestor => do return some (← sum level (number 1))
  | _ => return none
def levelWithin (stop level deepest : Value) : List (String × Value) → Ask Value
  | [] => return deepest
  | (_,value) :: rest => do
      match ← levelOf? stop level value with
      | none => levelWithin stop level deepest rest
      | some reached =>
          let larger := Number.larger (← deepest.toNumber) (← reached.toNumber)
          levelWithin stop level (number larger) rest
end

def isLevel (x : Float) : Bool := Number.isInteger x && 0 ≤ x && x < 4294967296

def measure (data level stop : Value) : Ask Value := do
  match level.given (number 0), stop.given (number Number.infinity) with
  | number x, stop =>
      if isLevel x then
        let start := ((Number.truncated? x).getD 0).toNat
        let bound ← Bound.ofValue stop
        if bound.exceededBy start then return number x else return ofNat (depth bound start (← entries data))
      else if ← isAbove (number x) stop then return number x
      else levelWithin stop (number x) (number x) (← entries data)
  | level, stop =>
      if ← isAbove level stop then return level else levelWithin stop level level (← entries data)

mutual
def hasTextIn : Value → Bool
  | .text _ => true
  | .record _ fields => hasText fields
  | _ => false
def hasText : List (String × Value) → Bool
  | [] => false
  | (_,value) :: rest => hasTextIn value || hasText rest
end

mutual
def isLong (bound : Bound) : Value → Bool
  | .text s => bound.exceededBy s.length
  | .record _ fields => hasLongText bound fields
  | _ => false
def hasLongText (bound : Bound) : List (String × Value) → Bool
  | [] => false
  | (_,value) :: rest => isLong bound value || hasLongText bound rest
end

def violation (limits : Limits) (data : Value) : Ask (Option PayloadError) := do
  let deepest ← Bound.ofValue limits.depth
  let fields ← if deepest.exceededBy 0 then pure [] else entries data
  if deepest.exceededBy (depth deepest 0 fields) then return some .tooDeep
  let largest ← Bound.ofValue limits.size
  if largest.exceededBy (size fields) then return some .tooLarge
  if !hasText fields then return none
  let longest ← Bound.ofValue limits.textLength
  return if hasLongText longest fields then some .textTooLong else none

end Payload

end Trifold
