import Trifold.Text.CaseData

namespace Trifold.Text

def shifted (runs : List CaseRun) (code : Nat) : Option Nat :=
  (runs.find? fun run => run.first ≤ code && code ≤ run.last && (code - run.first) % run.step == 0).map
    fun run => ((code : Int) + run.shift).toNat

def recase (ascii : Char → Char) (spellings : List (Nat × List Nat)) (runs : List CaseRun) (c : Char) :
    List Char :=
  if c.toNat < 128 then [ascii c]
  else match spellings.lookup c.toNat with
    | some codes => codes.map Char.ofNat
    | none => [(shifted runs c.toNat).elim c Char.ofNat]

def upperChar : Char → List Char := recase Char.toUpper upperSpellings upperRuns

def lowerChar : Char → List Char := recase Char.toLower lowerSpellings lowerRuns

def within (ranges : List (Nat × Nat)) (c : Char) : Bool :=
  ranges.any fun range => range.1 ≤ c.toNat && c.toNat ≤ range.2

-- The nearest letter, past the signs a word may hold between two letters, has a case.
def meetsCased (cs : List Char) : Bool :=
  match cs.dropWhile (within caseIgnorableRanges) with
  | [] => false
  | c :: _ => within casedRanges c

def lowerFrom (earlier : List Char) : List Char → List Char
  | [] => []
  | c :: rest =>
      let image :=
        if c == 'Σ' then [if meetsCased earlier && !meetsCased rest then 'ς' else 'σ'] else lowerChar c
      image ++ lowerFrom (c :: earlier) rest

def upper (s : String) : String := String.ofList (s.toList.flatMap upperChar)

def lower (s : String) : String := String.ofList (lowerFrom [] s.toList)

-- First unit upper, the rest lower. Half of a two-unit character has no case.
def capitalize (s : String) : String :=
  match s.toList with
  | [] => ""
  | c :: rest =>
      String.ofList ((if c.toNat < 0x10000 then upperChar c else [c]) ++ lowerFrom [] rest)

end Trifold.Text
