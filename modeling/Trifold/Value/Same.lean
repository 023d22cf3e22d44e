import Trifold.Number.Basic
import Trifold.Value.Basic

namespace Trifold

def Number.same (x y : Float) : Bool := x == y || (isNaN x && isNaN y)

namespace Value

-- The same thing, and not only an equal one. No two lists or records are the same thing.
def isSame : Value → Value → Bool
  | absent, absent => true
  | null, null => true
  | bool a, bool b => a == b
  | number x, number y => x == y
  | text s, text t => s == t
  | bigint m, bigint n => m == n
  | symbol name serial, symbol name' serial' => name == name' && serial == serial'
  | function f, function g => f == g
  | ancestor, ancestor => true
  | _, _ => false

def isAmong (items : List Value) (value : Value) : Bool :=
  match value with
  | number x => items.any fun item => item.number?.any (Number.same x)
  | value => items.any (isSame value)

-- Values have no identity, so a base counts for what it holds.
mutual
def same : Value → Value → Bool
  | absent, absent => true
  | null, null => true
  | bool a, bool b => a == b
  | number x, number y => Number.same x y
  | text s, text t => s == t
  | bigint m, bigint n => m == n
  | symbol name serial, symbol name' serial' => name == name' && serial == serial'
  | function f, function g => f == g
  | list xs, list ys => sameItems xs ys
  | record bare fields, record bare' fields' =>
      bare == bare' && (defined fields).length == (defined fields').length && covered fields fields'
  | heir base _ fields, heir base' _ fields' =>
      same base base' && (defined fields).length == (defined fields').length && covered fields fields'
  | ancestor, ancestor => true
  | ancestor, record bare fields | record bare fields, ancestor => bare && (defined fields).isEmpty
  | pattern .., pattern .. => true
  | date, date => true
  | .foreign, .foreign => true
  | _, _ => false
def sameItems : List Value → List Value → Bool
  | [], [] => true
  | x :: xs, y :: ys => same x y && sameItems xs ys
  | _, _ => false
-- Every field that holds something is there on the other side with an equal value.
def covered : List (String × Value) → Fields Value → Bool
  | [], _ => true
  | (key,value) :: rest, others =>
      (value.isAbsent || match Fields.get? key others with
        | some other => !other.isAbsent && same value other
        | none => false) && covered rest others
end

end Value

end Trifold
