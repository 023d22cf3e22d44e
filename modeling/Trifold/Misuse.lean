import Trifold.Number.Written

namespace Trifold

inductive Misuse where
  | readOfNull (key : String)
  | readOfAbsent (key : String)
  | noRecord
  | writtenBigint
  | noText
  | symbolText
  | symbolNumber
  | bigintNumber
  | mixedBigint
  | bigintDivision
  | notIterable (what : String)
  | notCallable (what : String)
  | notConstructed (what : String)
  | expectingFunction (member : String)
  | badOrder (given : String)
  | lockedKey (key : String)
  | emptyReduction
  | badReceiver (member what : String)
  | badPosition (given : String)
  | noMapper
  | badCount (count : Float)
  | tooLong
  | tooDeep

namespace Misuse

def message : Misuse → String
  | readOfNull key => s!"Cannot read properties of null (reading '{key}')"
  | readOfAbsent key => s!"Cannot read properties of undefined (reading '{key}')"
  | noRecord => "Cannot convert undefined or null to object"
  | writtenBigint => "Do not know how to serialize a BigInt"
  | noText => "Cannot convert object to primitive value"
  | symbolText => "Cannot convert a Symbol value to a string"
  | symbolNumber => "Cannot convert a Symbol value to a number"
  | bigintNumber => "Cannot convert a BigInt value to a number"
  | mixedBigint => "Cannot mix BigInt and other types, use explicit conversions"
  | bigintDivision => "Division by zero"
  | notIterable what => s!"{what} is not iterable"
  | notCallable what => s!"{what} is not a function"
  | notConstructed what => s!"Class constructor {what} cannot be invoked without 'new'"
  | expectingFunction member => s!"Object.prototype.{member}: Expecting function"
  | badOrder given => s!"The comparison function must be either a function or undefined: {given}"
  | lockedKey key => s!"Cannot assign to read only property '{key}' of object '[object Object]'"
  | emptyReduction => "Reduce of empty array with no initial value"
  | badReceiver member what => s!"Method {member} called on incompatible receiver {what}"
  | badPosition given => s!"Invalid index : {given}"
  | noMapper => "flatMap mapper function is not callable"
  | badCount count => s!"Invalid count value: {Number.written count}"
  | tooLong => "Invalid string length"
  | tooDeep => "Maximum call stack size exceeded"

-- The causes that concern the size of a number rather than the kind of a value.
def isRange : Misuse → Bool
  | badCount _ | badPosition _ | bigintDivision | tooLong | tooDeep => true
  | _ => false

end Misuse

end Trifold
