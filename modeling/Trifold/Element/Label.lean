import Trifold.Element.Basic
import Trifold.Text.Repeat
import Trifold.Value.Items
import Trifold.Value.Numeric
import Trifold.Value.Same

namespace Trifold.Label
open Value

def emptyInput : String := "[________________]"

-- The marks are a record, so a name it inherits has a mark of its own.
def marks : Value :=
  object [("text",text ":"), ("password",text "*"), ("email",text "@"), ("number",text "#"), ("tel",text "T")]

def inputMark (type : Value) : Ask Value := do return (← fetchBy type marks).orElse (text ":")

def button (label : Value) : Ask String := do return "[ " ++ (← shown (label.orElse (text ""))) ++ " ]"

def hidden (value : Value) : Ask Value := do return text (Text.repeated (← items value).length "*")

def inputDisplay (input : Value) : Ask Value := do
  let value ← input.fetch "value"
  let placeholder := input.get "placeholder"
  if !value.isAbsent then
    if isSame (input.get "inputType") (text "password") then hidden value else return value
  else if !placeholder.isAbsent then return text ("[" ++ (← shown placeholder) ++ "]")
  else return text emptyInput

def input (input : Value) : Ask String := do
  let mark ← shown (← inputMark (← input.fetch "inputType"))
  return mark ++ " " ++ (← shown (← inputDisplay input))

def around (before after : String) (part : Value) : Ask String := do
  if part.isAbsent then return "" else return before ++ (← shown part) ++ after

def bracketed (icon : Value) : Ask String := around "[" "] " icon

def menuItem (item : Value) : Ask String := do
  let disabled := if (← item.fetch "disabled").isTrue then "× " else ""
  let icon ← bracketed (item.get "icon")
  let shortcut ← around " (" ")" (item.get "shortcut")
  let submenu := if (item.get "submenu").isAbsent then "" else " >"
  return disabled ++ icon ++ (← shown (item.get "label")) ++ shortcut ++ submenu

def menuTitle (menu : Value) : Ask Value := do
  let title ← menu.fetch "title"
  if title.isAbsent || !isSame (menu.get "position") (text "top") then return title
  else return text (← around "── " " ──" title)

def tab (tab : Value) : Ask String := do
  let disabled := if (← tab.fetch "disabled").isTrue then "(×) " else ""
  let icon ← bracketed (tab.get "icon")
  return disabled ++ icon ++ (← shown (tab.get "label")) ++ (if (tab.get "closable").isTrue then " ×" else "")

def treeNode (node : Value) : Ask String := do
  let expanded := (← node.fetch "expanded").isTrue
  let marker := if (node.get "children").isAbsent then "    " else if expanded then "[-] " else "[+] "
  let icon :=
    if expanded && !(node.get "iconExpanded").isAbsent then node.get "iconExpanded" else node.get "icon"
  return marker ++ (← bracketed icon) ++ (← shown (node.get "label"))

def shownBeneath (node : Value) : Ask Value := do
  if (← node.fetch "expanded").isTrue && !(node.get "children").isAbsent then return node.get "children"
  else return list []

def visibleChildren (node : TreeNode) : List Value := if node.expanded then node.children.getD [] else []

def isNamed (id value : Value) : Bool := isSame (value.get "id") id

-- The first value with the id. Asking nothing for its id is a misuse, so everything before it has to be a value.
def findNamed (id : Value) : List Value → Except Misuse (Option Value)
  | [] => .ok none
  | .null :: _ => .error (.readOfNull "id")
  | .absent :: _ => .error (.readOfAbsent "id")
  | value :: rest => if isNamed id value then .ok (some value) else findNamed id rest

def contentOf (value : Value) : List Value :=
  match value.get "content" with
  | .absent => []
  | content => Body.tabContent content

def activeContent (tabs : List Value) (active : Value) : Except Misuse (List Value) :=
  if active.isAbsent then .ok [] else do return ((← findNamed active tabs).map contentOf).getD []

def activeContentOf (tabs active : Value) : Ask (List Value) := do
  if active.isAbsent then return []
  else .ofMisuse (activeContent (← listItems "find" tabs) active)

theorem visibleChildren_le (node : TreeNode) :
    sizeOf (visibleChildren node) ≤ sizeOf (node.children.getD []) := by
  unfold visibleChildren
  split
  · exact Nat.le_refl _
  · have := Value.sizeOf_list_pos (node.children.getD [])
    simp only [List.nil.sizeOf_spec]
    omega

theorem mem_of_findNamed {id : Value} {values : List Value} {value : Value}
    (found : findNamed id values = .ok (some value)) : value ∈ values := by
  fun_induction findNamed id values with
  | case1 => cases found
  | case2 => cases found
  | case3 => cases found
  | case4 head rest _ _ named => cases found; exact List.mem_cons_self
  | case5 head rest _ _ other ih => exact List.mem_cons_of_mem _ (ih found)

theorem sizeOf_contentOf (value : Value) : sizeOf (contentOf value) ≤ sizeOf value := by
  have large : 0 < sizeOf value := by cases value <;> simp +arith
  unfold contentOf
  split
  · simp only [List.nil.sizeOf_spec]; omega
  · rename_i content nothing
    have there : value.get "content" ≠ .absent := nothing
    have smaller := Value.sizeOf_get_lt (by decide) value there
    have := Element.sizeOf_tabContent (value.get "content")
    omega

theorem activeContent_lt {tabs content : List Value} {active : Value}
    (shown : activeContent tabs active = .ok content) : sizeOf content ≤ sizeOf tabs := by
  have small : sizeOf ([] : List Value) ≤ sizeOf tabs := by
    have := Value.sizeOf_list_pos tabs
    simp only [List.nil.sizeOf_spec]
    omega
  unfold activeContent at shown
  split at shown
  · cases shown; exact small
  · cases found : findNamed active tabs with
    | error cause => simp [found,bind,Except.bind] at shown
    | ok hit =>
      cases hit with
      | none =>
        simp only [found,bind,Except.bind,pure,Except.pure,Except.ok.injEq,Option.map_none,Option.getD_none] at shown
        exact shown ▸ small
      | some value =>
        simp only [found,bind,Except.bind,pure,Except.pure,Except.ok.injEq,Option.map_some,Option.getD_some] at shown
        have inside := List.sizeOf_lt_of_mem (mem_of_findNamed found)
        have := sizeOf_contentOf value
        rw [← shown]
        omega

end Trifold.Label
