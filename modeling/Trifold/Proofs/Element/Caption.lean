import Trifold.Chart.Basic
import Trifold.Platform.Walk
import Trifold.Proofs.Ask
import Trifold.Proofs.Element.Held

namespace Trifold

structure Caption where
  element : Element
  words : String

namespace Caption
open Value

-- What an input shows: its value, hidden for passwords, else the placeholder, else an empty field.
def entered (input : TextInput) : String :=
  match input.value, input.placeholder with
  | some value, _ => if input.inputType = "password" then Text.repeated value.length "*" else value
  | none, some placeholder => "[" ++ placeholder ++ "]"
  | none, none => Label.emptyInput

def title? (menu : Menu) : Option String :=
  menu.title.map fun title => if menu.position = some "top" then "── " ++ title ++ " ──" else title

def assemble (value : Value) (element : Element) (inside panel : List (List Caption)) : Ask (List Caption) := do
  let one (words : String) : List Caption := [⟨element,words⟩]
  match element.body with
  | .text content => return one (content.getD "")
  | .button it => return one (it.label.getD "")
  | .label _ content => return one (content.getD "")
  | .textInput it => return one (entered it)
  | .gauge _ => return one (← Chart.gaugeText value)
  | .sparkline _ => return one (← Chart.sparklineText (value.get "data"))
  | .barChart _ => return one (← Chart.barText value)
  | .lineChart _ => return one (← Chart.lineText value)
  | .table _ => return one (← Table.drawn value)
  | .column it => return one it.header
  | .menuItem _ => return one (← Label.menuItem value)
  | .menu it => return ((title? it).map one).getD [] ++ inside.flatten
  | .tab _ => return one (← Label.tab value)
  | .tabs _ => return inside.flatten ++ panel.flatten
  | .treeNode _ => return one (← Label.treeNode value) ++ inside.flatten
  | .contextMenu _ | .treeView _ | .vbox _ | .hbox _ => return inside.flatten

-- The platform it is written for warns of nothing, so its name does not matter.
def backend : Backend (List Caption) :=
  { platform := .terminal,
    blank := [],
    blankName := "empty",
    ready := fun _ => return (),
    assemble }

def indicator (type : String) : Ask String := do shown (← Label.inputMark (text type))

-- A terminal frames a button and puts the mark of its type before an input.
def onTerminal (caption : Caption) : Ask String := do
  match caption.element.body with
  | .button _ => return "[ " ++ caption.words ++ " ]"
  | .textInput it => return (← indicator it.inputType) ++ " " ++ caption.words
  | _ => return caption.words

end Caption

namespace Label
open Value Element

variable {value : Value} {id : Option String} {style : Option Value} {visible : Bool}

theorem ofText?_orElse (s : Option String) : (ofText? s).orElse (text "") = text (s.getD "") := by cases s <;> rfl

theorem button_text (label : Option String) : button (ofText? label) = pure ("[ " ++ label.getD "" ++ " ]") := by
  cases label <;> rfl

theorem hidden_text (s : String) : hidden (text s) = pure (text (Text.repeated s.length "*")) := by
  have counted : (characters s).length = s.length := by rw [characters,List.length_map,String.length_toList]
  rw [← counted]
  rfl

theorem inputDisplay_sound {it : TextInput} (sound : ofValue? value = some ⟨id,style,visible,.textInput it⟩) :
    inputDisplay value = pure (text (Caption.entered it)) := by
  obtain ⟨entry,placeholder,type,_⟩ := it
  have entered : value.get "value" = ofText? entry := get_of_sound sound rfl
  have hinted : value.get "placeholder" = ofText? placeholder := get_of_sound sound rfl
  have typed : value.get "inputType" = text type := get_of_sound sound rfl
  unfold inputDisplay
  rw [fetch_there (there_of_sound sound),entered,hinted,typed]
  simp only [pure_bind]
  cases entry with
  | some entry =>
    by_cases secret : type = "password"
    · subst secret
      exact hidden_text entry
    · have plain : isSame (text type) (text "password") = false := beq_false_of_ne secret
      show (if isSame (text type) (text "password") then hidden (text entry) else pure (text entry)) =
        pure (text (if type = "password" then Text.repeated entry.length "*" else entry))
      rw [plain,if_neg secret]
      rfl
  | none => cases placeholder <;> rfl

theorem menuTitle_sound {it : Menu} (sound : ofValue? value = some ⟨id,style,visible,.menu it⟩) :
    menuTitle value = pure (ofText? (Caption.title? it)) := by
  obtain ⟨title,position,items⟩ := it
  have titled : value.get "title" = ofText? title := get_of_sound sound rfl
  have placed : value.get "position" = ofText? position := get_of_sound sound rfl
  unfold menuTitle
  rw [fetch_there (there_of_sound sound),titled,placed]
  simp only [pure_bind]
  cases title with
  | none => rfl
  | some title =>
    by_cases top : position = some "top"
    · subst top
      rfl
    · have elsewhere : isSame (ofText? position) (text "top") = false := by
        cases position with
        | none => rfl
        | some place => exact beq_false_of_ne fun same => top (congrArg some same)
      show (if false || !isSame (ofText? position) (text "top") then pure (text title) else _) =
        pure (text (if position = some "top" then _ else title))
      rw [elsewhere,if_neg top]
      rfl

theorem shown_inherited (key : String) (host : Host) :
    ∃ words, shown ((inherited key).orElse (text ":")) host = .ok words := by
  unfold inherited standard
  split
  · exact ⟨_,rfl⟩
  · split <;> exact ⟨_,rfl⟩

theorem indicator_ok (type : String) (host : Host) : ∃ mark, Caption.indicator type host = .ok mark := by
  change ∃ mark, shown ((marks.get type).orElse (text ":")) host = .ok mark
  rw [marks,object,Value.get]
  generalize listed : Fields.get? type _ = found
  cases found with
  | none => exact shown_inherited type host
  | some mark =>
    have there := Fields.mem_of_get? listed
    simp only [List.mem_cons,Prod.mk.injEq,List.not_mem_nil,or_false] at there
    rcases there with ⟨_,rfl⟩ | ⟨_,rfl⟩ | ⟨_,rfl⟩ | ⟨_,rfl⟩ | ⟨_,rfl⟩ <;> exact ⟨_,rfl⟩

theorem input_sound {it : TextInput} (sound : ofValue? value = some ⟨id,style,visible,.textInput it⟩) (host : Host) :
    ∃ mark, Caption.indicator it.inputType host = .ok mark ∧
      input value host = .ok (mark ++ " " ++ Caption.entered it) := by
  obtain ⟨mark,marked⟩ := indicator_ok it.inputType host
  refine ⟨mark,marked,?_⟩
  have typed : value.get "inputType" = text it.inputType := get_of_sound sound rfl
  have asked : input value = (do return (← Caption.indicator it.inputType) ++ " " ++ Caption.entered it) := by
    unfold input Caption.indicator
    rw [fetch_there (there_of_sound sound),typed,inputDisplay_sound sound]
    simp only [pure_bind,bind_assoc]
    rfl
  rw [asked,Ask.bind_ok marked]
  rfl

end Label

end Trifold
