import Trifold.Platform.Handlers
import Trifold.Text.Blank
import Trifold.Text.Case
import Trifold.Web.Markup

namespace Trifold.Web

structure OpenTag where
  name : String
  given : List (String × String)

namespace OpenTag

def isNameChar (c : Char) : Bool := Text.isSmall c || c == '-'

def attribute? (cs : List Char) : Option ((String × String) × List Char) :=
  let named := cs.dropWhile Text.isBlank
  match (cs.takeWhile Text.isBlank), named.takeWhile isNameChar, named.dropWhile isNameChar with
  | _ :: _, c :: name, '=' :: '"' :: quoted =>
      match quoted.dropWhile (· != '"') with
      | '"' :: rest => some ((String.ofList (c :: name),String.ofList (quoted.takeWhile (· != '"'))),rest)
      | _ => none
  | _, _, _ => none

theorem attribute?_shorter {cs rest : List Char} {found : String × String}
    (read : attribute? cs = some (found,rest)) : rest.length < cs.length := by
  unfold attribute? at read
  dsimp only at read
  split at read
  · rename_i blank blanks c name quoted first second third
    split at read
    · rename_i after closed
      cases read
      have one := congrArg List.length (List.takeWhile_append_dropWhile (p := Text.isBlank) (l := cs))
      have two := congrArg List.length
        (List.takeWhile_append_dropWhile (p := isNameChar) (l := cs.dropWhile Text.isBlank))
      have three := congrArg List.length (List.takeWhile_append_dropWhile (p := (· != '"')) (l := quoted))
      simp only [List.length_append,first,second,third,closed,List.length_cons] at one two three
      omega
    · cases read
  · cases read

def attributes (cs : List Char) : List (String × String) × List Char :=
  match _ : attribute? cs with
  | none => ([],cs)
  | some (found,rest) =>
      let (more,last) := attributes rest
      (found :: more,last)
termination_by cs.length
decreasing_by exact attribute?_shorter (by assumption)

def closed? (cs : List Char) : Option (List Char) :=
  match cs.dropWhile Text.isBlank with
  | '/' :: '>' :: rest => some rest
  | '>' :: rest => some rest
  | _ => none

def read? (cs : List Char) : Option (OpenTag × List Char) :=
  match cs.takeWhile Text.isSmall with
  | [] => none
  | name =>
      let (given,rest) := attributes (cs.dropWhile Text.isSmall)
      (closed? rest).map fun after => (⟨String.ofList name,given⟩,after)

-- The steps never exceed the characters.
def scan : Nat → List Char → List OpenTag
  | 0, _ => []
  | _+1, [] => []
  | steps+1, c :: rest =>
      if c = '<' then
        match read? rest with
        | some (tag,after) => tag :: scan steps after
        | none => scan steps rest
      else scan steps rest

def all (markup : String) : List OpenTag := scan markup.length markup.toList

def eventMark : String := "data-on-"

def capitalized (word : List Char) : List Char :=
  match word with
  | [] => []
  | c :: rest => c.toUpper :: rest

def handlerKey (name : String) : String :=
  "on" ++ String.ofList ((Text.splitChars '-' (name.toList.drop eventMark.length)).flatMap capitalized)

def isEvent (name : String) : Bool := eventMark.toList.isPrefixOf name.toList

def id? (tag : OpenTag) : Option String := ((tag.given.filter (·.1 == "id")).getLast?).map (unescape ·.2)

def handlers (tag : OpenTag) : Fields Value :=
  Fields.ofEntries ((tag.given.filter (isEvent ·.1)).map fun (name,value) => (handlerKey name,.text (unescape value)))

end OpenTag

def handlers (markup : String) : Handlers.Found :=
  (OpenTag.all markup).flatMap fun tag => Handlers.entry (tag.name == "input") tag.id? tag.handlers

def handlersOf (markup : Value) : Ask Handlers.Found := do return handlers (← Value.textOf "html.matchAll" markup)

end Trifold.Web
