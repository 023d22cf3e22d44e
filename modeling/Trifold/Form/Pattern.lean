import Trifold.Text.Search

namespace Trifold

inductive Pattern where
  | usZip
  | username
  | uuid
  | slug
  deriving DecidableEq, Repr

namespace Pattern
open Text

def isHexDigit (c : Char) : Bool := isDigit c || ('a' ≤ c && c ≤ 'f') || ('A' ≤ c && c ≤ 'F')

def isWord (c : Char) : Bool := isSmall c || isCapital c || isDigit c || c == '_'

def isDigits (count : Nat) (cs : List Char) : Bool := cs.length == count && cs.all isDigit

def isUsZip (cs : List Char) : Bool :=
  match splitChars '-' cs with
  | [code] => isDigits 5 code
  | [code,extension] => isDigits 5 code && isDigits 4 extension
  | _ => false

def isUsername (cs : List Char) : Bool := 3 ≤ cs.length && cs.length ≤ 32 && cs.all isWord

def isUuid (cs : List Char) : Bool :=
  let groups := splitChars '-' cs
  groups.map List.length == [8,4,4,4,12] && groups.all fun group => group.all isHexDigit

def isSlug (cs : List Char) : Bool :=
  (splitChars '-' cs).all fun part => !part.isEmpty && part.all fun c => isSmall c || isDigit c

def accepts (pattern : Pattern) (s : String) : Bool :=
  match pattern with
  | usZip => isUsZip s.toList
  | username => isUsername s.toList
  | uuid => isUuid s.toList
  | slug => isSlug s.toList

def ofName? : String → Option Pattern
  | "us_zip" => some usZip
  | "username" => some username
  | "uuid" => some uuid
  | "slug" => some slug
  | _ => none

end Pattern

end Trifold
