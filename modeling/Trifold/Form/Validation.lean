import Trifold.Form.Pattern
import Trifold.Value.Assign
import Trifold.Value.Items
import Trifold.Value.Numeric

namespace Trifold

inductive FieldError where
  | required
  | missing
  | invalidType
  | invalidFormat
  | tooShort
  | tooLong
  | unknownPattern
  deriving DecidableEq, Repr

def FieldError.name : FieldError → String
  | required => "required"
  | missing => "missing"
  | invalidType => "invalid_type"
  | invalidFormat => "invalid_format"
  | tooShort => "too_short"
  | tooLong => "too_long"
  | unknownPattern => "unknown_pattern"

inductive PatternRef where
  | known (pattern : Pattern)
  | written (source flags : String)
  | other (given : Value)

inductive Rule where
  | required
  | email
  | length (min max : Value)
  | format (pattern : Value)

def Rule.ofValue? (value : Value) : Option Rule :=
  match (value.get "kind").text? with
  | some "required" => some .required
  | some "email" => some .email
  | some "length" => some (.length (value.get "min") (value.get "max"))
  | some "format" => some (.format (value.get "pattern"))
  | _ => none

namespace Form
open Value

def isBlankField (value : Value) : Bool :=
  match value with
  | .absent | .null => true
  | .text s => s.isEmpty
  | _ => false

def isMissingField (data field : Value) : Ask Bool := do return isBlankField (← fetchBy field data)

def missingFields (data fields : Value) : Ask (List Value) := do
  (← listItems "fields.filter" fields).filterM (isMissingField data)

def isEmail (s : String) : Bool :=
  match Text.splitChars '@' s.toList with
  | [name,domain] => !name.isEmpty && !domain.isEmpty && domain.contains '.'
  | _ => false

def emailError (data field : Value) : Ask (Option FieldError) := do
  match ← fetchBy field data with
  | .absent | .null => return some .missing
  | .text s => return if isEmail s then none else some .invalidFormat
  | _ => return some .invalidFormat

def textError (value : Value) (check : String → Ask (Option FieldError)) : Ask (Option FieldError) :=
  match value with
  | .absent | .null => return some .missing
  | .text s => check s
  | _ => return some .invalidType

def boundsError (length : Nat) (min max : Value) : Ask (Option FieldError) := do
  if ← isBelow (ofNat length) min then return some .tooShort
  if ← isAbove (ofNat length) max then return some .tooLong
  return none

def lengthError (data field min max : Value) : Ask (Option FieldError) := do
  textError (← fetchBy field data) fun s => boundsError s.length min (max.given (number Number.infinity))

-- A name may be one every record inherits; what it finds is no pattern.
def patternOf? : Value → Option PatternRef
  | .text name =>
      match Pattern.ofName? name with
      | some known => some (.known known)
      | none => (inherited name).present?.map .other
  | .pattern source flags => some (.written source flags)
  | given => given.present?.map .other

def isMatch (given : Value) (s : String) : Ask Bool := do
  match ← given.fetch "test" with
  | function f => return (← f.apply [text s]).isTrue
  | _ => .misuse (.notCallable "regex.test")

def formatError (data field pattern : Value) : Ask (Option FieldError) := do
  match patternOf? pattern with
  | none => return some .unknownPattern
  | some reference =>
      textError (← fetchBy field data) fun s => do
        let fits ← match reference with
          | .known known => pure (known.accepts s)
          | .written source flags => Ask.finds source flags s
          | .other given => isMatch given s
        return if fits then none else some .invalidFormat

def ruleError (data field : Value) : Rule → Ask (Option FieldError)
  | .required => do return if ← isMissingField data field then some .required else none
  | .email => emailError data field
  | .length min max => lengthError data field min max
  | .format wanted => formatError data field wanted

-- A failure under the name of the base leaves no mark, and neither does one under a name without a text.
def note (errors : Fields FieldError) (field : Option String) (error : FieldError) : Fields FieldError :=
  match field with
  | some name => if name == baseName then errors else Fields.put name error errors
  | none => errors

def checkRule (data : Value) (errors : Fields FieldError) (written : Value) : Ask (Fields FieldError) := do
  let field ← written.fetch "field"
  let name ← toKey field
  if name.any (Fields.has · errors) then return errors
  match Rule.ofValue? written with
  | none => .misuse (.readOfAbsent "ok")
  | some rule =>
      match ← ruleError data field rule with
      | some error => return note errors name error
      | none => return errors

def ruleErrors (data rules : Value) : Ask (Fields FieldError) := do
  (← items rules).foldlM (checkRule data) []

end Form

end Trifold
