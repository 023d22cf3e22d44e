import Trifold.Value.Convert
import Trifold.Number.Written

namespace Trifold.Marked
open Value

def special : String → Float
  | "Infinity" => Number.infinity
  | "-Infinity" => -Number.infinity
  | "-0" => -0.0
  | _ => Number.nan

def integer (digits : List Char) : Int :=
  match digits with
  | '-' :: rest => -(Fields.numeral rest : Int)
  | digits => Fields.numeral digits

def nest (key : String) (inner : Value) : Nat → Value
  | 0 => inner
  | depth+1 => nest key (object [(key,inner)]) depth

def resolve (function_ : String → Function) (fields : Fields Value) (serial : Nat) : Value × Nat :=
  let given := object fields
  match (given.at "$" : String) with
  | "undefined" => (absent,serial)
  | "number" => (number (special (given.at "value")),serial)
  | "bigint" => (bigint (integer (given.at "value" : String).toList),serial)
  | "symbol" => (symbol (given.at "name") serial,serial + 1)
  | "fn" => (function (function_ (given.at "name")),serial)
  | "date" => (date,serial)
  | "opaque" => (.foreign,serial)
  | "regex" => (pattern (given.at "source") (given.at "flags"),serial)
  | "nullproto" => (record true (given.at "fields"),serial)
  | "repeat" => (text (String.join (List.replicate (given.at "count") (given.at "text"))),serial)
  | "nest" => (nest (given.at "key") (given.get "leaf") (given.at "count"),serial)
  | _ => (given,serial)

-- Functions are known by name. Symbols are numbered as they come, so that no two are the same.
mutual
def read (function_ : String → Function) : Value → Nat → Value × Nat
  | list items, serial =>
      let (items,serial) := readItems function_ items serial
      (list items,serial)
  | record _ fields, serial =>
      let (fields,serial) := readFields function_ fields serial
      resolve function_ fields serial
  | value, serial => (value,serial)
def readItems (function_ : String → Function) : List Value → Nat → List Value × Nat
  | [], serial => ([],serial)
  | item :: rest, serial =>
      let (item,serial) := read function_ item serial
      let (rest,serial) := readItems function_ rest serial
      (item :: rest,serial)
def readFields (function_ : String → Function) : List (String × Value) → Nat → List (String × Value) × Nat
  | [], serial => ([],serial)
  | (key,value) :: rest, serial =>
      let (value,serial) := read function_ value serial
      let (rest,serial) := readFields function_ rest serial
      ((key,value) :: rest,serial)
end

def mark (kind : String) : Value := object [("$",text kind)]

def markWith (kind shown : String) : Value := object [("$",text kind), ("value",text shown)]

mutual
def write : Value → Value
  | absent => mark "undefined"
  | number x => if Number.isFinite x then number x else markWith "number" (Number.written x)
  | bigint n => markWith "bigint" (toString n)
  | symbol .. => mark "symbol"
  | function _ => mark "fn"
  | date => mark "date"
  | .foreign => mark "opaque"
  | ancestor | pattern .. => object []
  | list items => list (writeItems items)
  | record _ fields => object (writeFields fields)
  | heir _ _ fields => object (writeFields fields)
  | value => value
def writeItems : List Value → List Value
  | [] => []
  | item :: rest => write item :: writeItems rest
def writeFields : List (String × Value) → List (String × Value)
  | [] => []
  | (_,absent) :: rest => writeFields rest
  | (key,value) :: rest => (key,write value) :: writeFields rest
end

end Trifold.Marked
