import Trifold.Payload.Limits
import Trifold.Text.Case
import Trifold.Text.Search
import Trifold.Value.Assign

namespace Trifold

inductive CleanError where
  | payload (error : PayloadError)
  | tooLong
  deriving DecidableEq, Repr

def CleanError.name : CleanError → String
  | payload error => error.name
  | tooLong => "too_long"

namespace Payload
open Value

def longestText : Nat := 10000

def longestErrorText : Nat := 200

def redacted : String := "[REDACTED]"

def sensitiveParts : List String :=
  ["password", "passwd", "pwd", "secret", "token", "api_key", "apikey", "passphrase"]

def isMarkup (c : Char) : Bool := c == '<' || c == '>' || c == '&'

-- The three entities go first, then the characters that are left.
def stripMarkup (s : String) : String :=
  let plain := Text.replaceAll "&amp;" "" (Text.replaceAll "&gt;" "" (Text.replaceAll "&lt;" "" s))
  String.ofList (plain.toList.filter (!isMarkup ·))

-- Records are rebuilt field by field; nothing is the answer when a text is too long.
mutual
def clean : Value → Except Misuse (Option Value)
  | .text s => .ok (if longestText < s.length then none else some (.text (stripMarkup s)))
  | .record _ fields => cleanFields (object []) fields
  | .number x => .ok (some (.number x))
  | .bool truth => .ok (some (.bool truth))
  | .list items => .ok (some (.list items))
  | .absent => .ok (some .absent)
  | .ancestor => .ok (some (object []))
  | _ => .ok (some .null)
def cleanFields (draft : Value) : List (String × Value) → Except Misuse (Option Value)
  | [] => .ok (some draft)
  | (key,value) :: rest => do
      match ← clean value with
      | none => return none
      | some cleaned =>
          let rebuilt := match cleaned with
            | .record .. | .heir .. => true
            | _ => false
          cleanFields (← assign rebuilt key cleaned draft) rest
end

def cleaned (data : Fields Value) : Except Misuse (Except CleanError Value) := do
  return match ← cleanFields (object []) data with
    | some cleaned => .ok cleaned
    | none => .error .tooLong

def sanitize (data : Value) : Ask (Except CleanError Value) := do .ofMisuse (cleaned (← entries data))

def isSensitive (key : String) : Bool :=
  let lowered := Text.lower key
  sensitiveParts.any fun part => Text.contains part lowered

def redactedFields (data : Fields Value) : Except Misuse Value :=
  assignAll false (data.map fun (key,value) => (key,if isSensitive key then .text redacted else value))

def redact (data : Value) : Ask Value := do .ofMisuse (redactedFields (← entries data))

def secure (limits : Limits) (data : Value) : Ask (Except CleanError Value) := do
  match ← violation limits data with
  | some error => return .error (.payload error)
  | none =>
      match ← sanitize data with
      | .error error => return .error error
      | .ok cleaned => return .ok (← redact cleaned)

def errorText (value : Value) : Ask String := do
  let shown ← value.toText
  return stripMarkup (if longestErrorText < shown.length then
    String.ofList (shown.toList.take longestErrorText) ++ "..." else shown)

end Payload

end Trifold
