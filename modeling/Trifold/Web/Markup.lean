import Trifold.Text.Search
import Trifold.Value.Items

namespace Trifold.Web

def escapeChar : Char → List Char
  | '&' => "&amp;".toList
  | '<' => "&lt;".toList
  | '>' => "&gt;".toList
  | '"' => "&quot;".toList
  | '\'' => "&#39;".toList
  | c => [c]

def escape (s : String) : String := String.ofList (s.toList.flatMap escapeChar)

-- The five entities, one after the other; the ampersand comes last.
def unescape (s : String) : String :=
  Text.replaceAll "&amp;" "&" (Text.replaceAll "&gt;" ">" (Text.replaceAll "&lt;" "<"
    (Text.replaceAll "&#39;" "'" (Text.replaceAll "&quot;" "\"" s))))

-- An attribute without a value, or with an empty one, is not written.
abbrev Attribute := String × Option String

namespace Attribute

def flag (name : String) (on : Bool) : Attribute := (name,if on then some "true" else none)

def written : Attribute → String
  | (_,none) => ""
  | (name,some value) => if value.isEmpty then "" else " " ++ name ++ "=\"" ++ escape value ++ "\""

end Attribute

def attributes (given : List Attribute) : String := String.join (given.map Attribute.written)

def wrap (name : String) (given : List Attribute) (inner : String) : String :=
  "<" ++ name ++ attributes given ++ ">" ++ inner ++ "</" ++ name ++ ">"

def wrapVoid (name : String) (given : List Attribute) : String := "<" ++ name ++ attributes given ++ " />"

namespace Given
open Value

def isUnset : Value → Bool
  | absent | .bool false => true
  | text s => s.isEmpty
  | _ => false

-- An attribute as it is written: a name and what it holds. One that holds nothing is not asked for its name.
def attributeOf (pair : Value) : Ask String := do
  let parts ← items pair
  let held := parts.getD 1 absent
  if isUnset held then return ""
  let value ← held.toText
  let name ← shown (parts.getD 0 absent)
  return " " ++ name ++ "=\"" ++ escape value ++ "\""

def attributes (given : Value) : Ask String := do return String.join (← (← items given).mapM attributeOf)

def wrap (name given inner : Value) : Ask String := do
  let name ← shown name
  let attributes ← attributes given
  return "<" ++ name ++ attributes ++ ">" ++ (← shown (inner.given (text ""))) ++ "</" ++ name ++ ">"

def wrapVoid (name given : Value) : Ask String := do
  let name ← shown name
  return "<" ++ name ++ (← attributes given) ++ " />"

def escaped (value : Value) : Ask String := do return escape (← textOf "value.replace" value)

end Given

inductive Markup where
  | text (content : String)
  | element (name : String) (given : List Attribute) (children : List Markup)
  | void (name : String) (given : List Attribute)

namespace Markup

mutual
def written : Markup → String
  | text content => escape content
  | element name given children => wrap name given (writtenAll children)
  | void name given => wrapVoid name given
def writtenAll : List Markup → String
  | [] => ""
  | markup :: rest => written markup ++ writtenAll rest
end

end Markup

end Trifold.Web
