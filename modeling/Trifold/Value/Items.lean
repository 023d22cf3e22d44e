import Trifold.Value.Text

namespace Trifold.Value

def characters (s : String) : List Value := s.toList.map fun c => text (String.singleton c)

def itemsOf (what : String) : Value → Ask (List Value)
  | list items => return items
  | text s => return characters s
  | _ => .misuse (.notIterable what)

def items : Value → Ask (List Value) := itemsOf "value"

def lastName (path : String) : String := String.ofList (path.toList.reverse.takeWhile (· != '.')).reverse

-- What is asked for a member that it does not have. The member is written as a path.
def lacking {α : Type} (member : String) : Value → Ask α
  | null => .misuse (.readOfNull (lastName member))
  | absent => .misuse (.readOfAbsent (lastName member))
  | _ => .misuse (.notCallable member)

def listItems (member : String) : Value → Ask (List Value)
  | list items => return items
  | value => lacking member value

def textOf (member : String) : Value → Ask String
  | text s => return s
  | value => lacking member value

def entries : Value → Ask (Fields Value)
  | null | absent => .misuse .noRecord
  | value => return own value

end Trifold.Value
