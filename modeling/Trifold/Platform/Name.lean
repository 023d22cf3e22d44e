namespace Trifold

inductive Platform where
  | terminal | desktop | web
  deriving DecidableEq, Repr

namespace Platform

def name : Platform → String
  | terminal => "terminal"
  | desktop => "desktop"
  | web => "web"

def all : List Platform := [terminal, desktop, web]

def ofName? (s : String) : Option Platform := all.find? (·.name == s)

theorem ofName?_name (platform : Platform) : ofName? platform.name = some platform := by
  cases platform <;> decide

end Platform

end Trifold
