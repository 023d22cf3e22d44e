import Trifold.Text.Quoted
import Trifold.Value.Text

namespace Trifold.Value

def listed (items : List String) : String := "[" ++ ",".intercalate items ++ "]"

def braced (members : List String) : String := "\x7b" ++ ",".intercalate members ++ "\x7d"

def member? (key : String) (written : Option String) : Option String :=
  written.map fun written => Text.quoted key ++ ":" ++ written

def scalarJson? : Value → Ask (Option String)
  | null => return some "null"
  | bool truth => return some (if truth then "true" else "false")
  | number x => return some (if Number.isFinite x then Number.written x else "null")
  | text s => return some (Text.quoted s)
  | bigint _ => .misuse .writtenBigint
  | date => return some (Text.quoted "1970-01-01T00:00:00.000Z")
  | ancestor | pattern .. | .foreign => return some (braced [])
  | _ => return none

def substitute? (base : Value) (fields : Fields Value) : Option Function :=
  ((Fields.get? "toJSON" fields).getD (base.get "toJSON")).function?

section

variable (answer : Function → String → Ask (Option String))

mutual
def jsonUnder (key : String) : Value → Ask (Option String)
  | list items => do return some (listed (← jsonItems 0 items))
  | record _ fields => do
      match substitute? absent fields with
      | some f => answer f key
      | none => return some (braced (← jsonMembers fields))
  | heir base _ fields => do
      match substitute? base fields with
      | some f => answer f key
      | none => return some (braced (← jsonMembers fields))
  | value => scalarJson? value
def jsonItems (position : Nat) : List Value → Ask (List String)
  | [] => return []
  | item :: rest => do
      let head ← jsonUnder (toString position) item
      return head.getD "null" :: (← jsonItems (position + 1) rest)
def jsonMembers : List (String × Value) → Ask (List String)
  | [] => return []
  | (key,value) :: rest => do
      let head ← jsonUnder key value
      return (member? key head).toList ++ (← jsonMembers rest)
end

-- An answer is not asked again itself, only what it holds. So a date in it has no text.
def answerJson? : Value → Ask (Option String)
  | list items => do return some (listed (← jsonItems answer 0 items))
  | record _ fields | heir _ _ fields => do return some (braced (← jsonMembers answer fields))
  | date => return some (braced [])
  | value => scalarJson? value

end

def answered : Nat → Function → String → Ask (Option String)
  | 0, _, _ => .misuse .tooDeep
  | depth + 1, f, key => do answerJson? (answered depth) (← f.apply [text key])

def json? (value : Value) : Ask (Option String) := do jsonUnder (answered (← Ask.depth)) "" value

end Trifold.Value
