import Trifold.Number.Reading
import Trifold.Value.Basic

namespace Trifold.Read

def isSpace (c : Char) : Bool := c == ' ' || c == '\n' || c == '\t' || c == '\r'

def skip (cs : List Char) : List Char := cs.dropWhile isSpace

def escaped? : Char → Option Char
  | '"' => some '"'
  | '\\' => some '\\'
  | '/' => some '/'
  | 'b' => some '\x08'
  | 'f' => some '\x0c'
  | 'n' => some '\n'
  | 'r' => some '\r'
  | 't' => some '\t'
  | _ => none

def units? : List Char → Option (List Nat × List Char)
  | [] => none
  | '"' :: rest => some ([],rest)
  | '\\' :: 'u' :: a :: b :: c :: d :: rest => do
      let unit ← Number.natural? 16 [a, b, c, d]
      let (more,after) ← units? rest
      return (unit :: more,after)
  | '\\' :: c :: rest => do
      let plain ← escaped? c
      let (more,after) ← units? rest
      return (plain.toNat :: more,after)
  | c :: rest => do
      let (more,after) ← units? rest
      return (c.toNat :: more,after)

def isHigh (unit : Nat) : Bool := 0xD800 ≤ unit && unit < 0xDC00

def isLow (unit : Nat) : Bool := 0xDC00 ≤ unit && unit < 0xE000

-- Two halves make one character; a half on its own is replaced.
def joined : List Nat → List Char
  | [] => []
  | high :: low :: rest =>
      if isHigh high && isLow low then
        Char.ofNat (0x10000 + (high - 0xD800) * 0x400 + (low - 0xDC00)) :: joined rest
      else if isHigh high || isLow high then '\ufffd' :: joined (low :: rest)
      else Char.ofNat high :: joined (low :: rest)
  | [unit] => [if isHigh unit || isLow unit then '\ufffd' else Char.ofNat unit]

def text? (cs : List Char) : Option (String × List Char) :=
  (units? cs).map fun (units,rest) => (String.ofList (joined units),rest)

def number? (cs : List Char) : Option (Float × List Char) :=
  let (negative,rest) := Number.signOf cs
  (Number.unsigned? rest).map fun (x,after) => (Number.negatedIf negative x,after)

-- Each value takes at least one character, so twice the number of characters bounds the steps.
mutual
def value? : Nat → List Char → Option (Value × List Char)
  | 0, _ => none
  | steps+1, cs =>
      match skip cs with
      | 't' :: 'r' :: 'u' :: 'e' :: rest => some (.bool true,rest)
      | 'f' :: 'a' :: 'l' :: 's' :: 'e' :: rest => some (.bool false,rest)
      | 'n' :: 'u' :: 'l' :: 'l' :: rest => some (.null,rest)
      | '"' :: rest => (text? rest).map fun (s,after) => (.text s,after)
      | '[' :: rest =>
          match skip rest with
          | ']' :: after => some (.list [],after)
          | inside => (items? steps inside).map fun (items,after) => (.list items,after)
      | '\x7b' :: rest =>
          match skip rest with
          | '\x7d' :: after => some (.object [],after)
          | inside => (fields? steps inside).map fun (fields,after) => (.object (Fields.ofEntries fields),after)
      | other => (number? other).map fun (x,after) => (.number x,after)
def items? : Nat → List Char → Option (List Value × List Char)
  | 0, _ => none
  | steps+1, cs => do
      let (item,rest) ← value? steps cs
      match skip rest with
      | ',' :: after => do
          let (items,last) ← items? steps after
          return (item :: items,last)
      | ']' :: after => some ([item],after)
      | _ => none
def fields? : Nat → List Char → Option (List (String × Value) × List Char)
  | 0, _ => none
  | steps+1, cs =>
      match skip cs with
      | '"' :: quoted => do
          let (key,rest) ← text? quoted
          match skip rest with
          | ':' :: held => do
              let (value,rest) ← value? steps held
              match skip rest with
              | ',' :: after => do
                  let (fields,last) ← fields? steps after
                  return ((key,value) :: fields,last)
              | '\x7d' :: after => some ([(key,value)],after)
              | _ => none
          | _ => none
      | _ => none
end

end Trifold.Read

namespace Trifold

-- Nothing when the text is not JSON, or goes on after the value.
def Value.read? (written : String) : Option Value :=
  match Read.value? (2 * written.length + 2) written.toList with
  | some (value,rest) => if (Read.skip rest).isEmpty then some value else none
  | none => none

end Trifold
