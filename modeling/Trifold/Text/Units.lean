namespace Trifold.Text

def units (c : Char) : List Nat :=
  if c.toNat < 0x10000 then [c.toNat]
  else [0xD800 + (c.toNat - 0x10000) / 0x400, 0xDC00 + (c.toNat - 0x10000) % 0x400]

def unitsOf (s : String) : List Nat := s.toList.flatMap units

def unitLength (s : String) : Nat := (unitsOf s).length

-- Texts are made of whole characters. A unit as a text of its own may be half of one, and is shown as U+FFFD then.
def unitTexts (s : String) : List String :=
  s.toList.flatMap fun c => if c.toNat < 0x10000 then [String.singleton c] else ["\uFFFD", "\uFFFD"]

-- The order of names everywhere: unit by unit, the shorter of two that agree first.
def before (a b : String) : Bool := decide (unitsOf a < unitsOf b)

def sorted (names : List String) : List String :=
  names.mergeSort (fun a b => !before b a)

-- A cut through the middle of a two-unit character leaves half of it, which is shown as U+FFFD.
def takeUnits : Nat → List Char → List Char
  | 0, _ => []
  | _, [] => []
  | n+1, c :: rest =>
      if c.toNat < 0x10000 then c :: takeUnits n rest
      else match n with
        | 0 => ['\uFFFD']
        | n+1 => c :: takeUnits n rest

def spaces (n : Nat) : String := String.ofList (List.replicate n ' ')

def padEnd (width : Nat) (s : String) : String := s ++ spaces (width - unitLength s)

def padStart (width : Nat) (s : String) : String := spaces (width - unitLength s) ++ s

def byteLength (s : String) : Nat := s.utf8ByteSize

end Trifold.Text
