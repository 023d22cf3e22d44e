import Trifold.Value.Items

namespace Trifold.Action

def mouse : List String :=
  ["click", "double_click", "right_click", "middle_click", "scroll", "move", "down", "up"]

def window : List String :=
  ["move", "resize", "close", "minimize", "maximize", "restore", "focus", "blur", "show", "hide"]

def key : List String := ["press", "release", "down", "up"]

def focus : List String := ["focus", "blur"]

def allowed? : String → Option (List String)
  | "mouse" => some mouse
  | "window" => some window
  | "key" => some key
  | "focus" => some focus
  | _ => none

def choose (words : List String) (given : Value) : Option String :=
  given.text?.bind fun word => words.find? (· == word)

-- The lists are a record too: a category it inherits is a function, which cannot be searched, and its base is a
-- record without a search.
def lookup (category given : Value) : Ask (Option String) := do
  let name ← category.toKey
  match name.bind allowed? with
  | some words => return choose words given
  | none =>
      if name.all fun name => (Value.inherited name).isAbsent then return none
      else if given.text?.isNone then return none
      else .misuse (.notCallable "allowed.find")

def isFixed (category : Value) : Bool := category.text?.any ["click", "change", "submit"].contains

def isAllowed (category given : Value) : Ask Bool := do
  if isFixed category then return true
  return (← lookup category given).isSome

end Trifold.Action
