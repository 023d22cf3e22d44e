import Trifold.Value.Items
import Trifold.Value.Numeric

namespace Trifold.Web
open Value

def cssColor : Value → Ask Value
  | text name => return text name
  | color => do
      let channels ← itemsOf "color" color
      let channel (position : Nat) : Ask String := shown (channels.getD position absent)
      return text ("rgb(" ++ (← channel 0) ++ ", " ++ (← channel 1) ++ ", " ++ (← channel 2) ++ ")")

def attrCss : Value :=
  object [("bold",text "font-weight: bold"), ("underline",text "text-decoration: underline"),
    ("italic",text "font-style: italic"), ("strikethrough",text "text-decoration: line-through"),
    ("dim",text "opacity: 0.7")]

def declaration (before after : String) (value : Value) : Ask (List Value) := do
  if value.isAbsent then return [] else return [text (before ++ (← shown value) ++ after)]

def colorDeclaration (before : String) (color : Value) : Ask (List Value) := do
  if color.isAbsent then return [] else declaration before "" (← cssColor color)

-- An attribute without a declaration is passed over.
def styleCss (style : Value) : Ask (List Value) := do
  if style.isAbsent then return []
  let fg ← colorDeclaration "color: " (← style.fetch "fg")
  let bg ← colorDeclaration "background-color: " (style.get "bg")
  let declared ← (← items (style.get "attrs")).mapM (fetchBy · attrCss)
  return fg ++ bg ++ declared.filter (!·.isAbsent)

def joined (declarations : List Value) : Ask String := do return "; ".intercalate (← itemTexts declarations)

def css (style : Value) : Ask String := do joined (← styleCss style)

def alignItems : Value :=
  object [("start",text "flex-start"), ("center",text "center"), ("end",text "flex-end"),
    ("stretch",text "stretch")]

def justifyContent : Value :=
  object [("start",text "flex-start"), ("center",text "center"), ("end",text "flex-end"),
    ("space_between",text "space-between"), ("space_around",text "space-around")]

def keyword (before : String) (meanings given : Value) : Ask (List Value) := do
  if given.isAbsent then return [] else return [text (before ++ (← shown (← fetchBy given meanings)))]

def gapDeclaration (spacing : Value) : Ask (List Value) := do
  if spacing.isAbsent then return []
  if ← isAbove spacing (number 0) then declaration "gap: " "px" spacing else return []

def layoutCss (flex : Value) : Ask (List Value) := do
  let direction ← shown (← flex.fetch "direction")
  let gap ← gapDeclaration (flex.get "spacing")
  let padding ← declaration "padding: " "px" (flex.get "padding")
  let align ← keyword "align-items: " alignItems (flex.get "align")
  let justify ← keyword "justify-content: " justifyContent (flex.get "justify")
  return [text "display: flex", text ("flex-direction: " ++ direction)] ++ gap ++ padding ++ align ++ justify

def flexCss (flex : Value) : Ask String := do
  let layout ← layoutCss flex
  joined (layout ++ (← styleCss (flex.get "style")))

end Trifold.Web
