import Trifold.Element.Label
import Trifold.Proofs.Value.Alike

namespace Trifold.Label
open Value

variable {level : Value → Value → Prop} {a b : Value}

theorem around_alike (before after : String) (alike : Alike level a b) : around before after a = around before after b := by
  rw [around,around,alike.isAbsent,alike.shown]

theorem button_alike (alike : Alike level a b) : button a = button b := by
  rw [button,button,(alike.orElse (.flat rfl)).shown]

theorem inputMark_alike (alike : Alike level a b) : inputMark a = inputMark b := by
  rw [inputMark,inputMark,alike.fetchBy]

theorem hidden_alike (alike : Alike level a b) : hidden a = hidden b := by
  have counted (items : List Value) : hidden (list items) = pure (text (Text.repeated items.length "*")) := rfl
  cases alike with
  | flat => rfl
  | number => rfl
  | list same => rw [counted,counted,same]
  | record left right => cases a <;> cases left <;> cases b <;> cases right <;> rfl

-- A text made of one answer is the same on both sides.
theorem texted_alike {α : Type} (asked : Ask α) (f : α → String) (host : Host) :
    Agree.Outcome (Alike level) ((do return text (f (← asked))) host) ((do return text (f (← asked))) host) := by
  refine Agree.Outcome.bind (Agree.Outcome.of_eq rfl) ?_
  intro answer _ same
  subst same
  exact .ok (.flat rfl)

section

variable (alike : Alike level a b) (there : a.isMissing = false)
include alike there

theorem fetch_alike (key : String) : fetch key a = pure (a.get key) ∧ fetch key b = pure (b.get key) :=
  ⟨fetch_there there key,fetch_there (alike.isMissing.symm.trans there) key⟩

theorem inputDisplay_alike (host : Host) :
    Agree.Outcome (Alike level) (inputDisplay a host) (inputDisplay b host) := by
  obtain ⟨left,right⟩ := fetch_alike alike there "value"
  have value := alike.get "value"
  have placeholder := alike.get "placeholder"
  unfold inputDisplay
  rw [left,right]
  simp only [pure_bind,value.isAbsent,placeholder.isAbsent,(alike.get "inputType").isSame_text,placeholder.shown]
  split
  · split
    · rw [hidden_alike value]
      exact texted_alike _ _ host
    · exact .ok value
  · split
    · exact texted_alike _ _ host
    · exact .ok (.flat rfl)

theorem input_alike : input a = input b := by
  obtain ⟨left,right⟩ := fetch_alike alike there "inputType"
  unfold input
  rw [left,right]
  simp only [pure_bind,inputMark_alike (alike.get "inputType")]
  funext host
  refine (Agree.Outcome.bind (Agree.Outcome.of_eq rfl) ?_).eq
  intro mark _ same
  subst same
  refine Agree.Outcome.bind (Agree.Outcome.of_eq rfl) ?_
  intro mark _ same
  subst same
  refine Agree.Outcome.bind (inputDisplay_alike alike there host) ?_
  intro shown shown' inside
  rw [inside.shown]
  exact Agree.Outcome.of_eq rfl

theorem menuItem_alike : menuItem a = menuItem b := by
  obtain ⟨left,right⟩ := fetch_alike alike there "disabled"
  unfold menuItem bracketed
  rw [left,right]
  simp only [pure_bind,(alike.get "disabled").isTrue,(alike.get "submenu").isAbsent,(alike.get "label").shown,
    around_alike _ _ (alike.get "icon"),around_alike _ _ (alike.get "shortcut")]

theorem menuTitle_alike (host : Host) : Agree.Outcome (Alike level) (menuTitle a host) (menuTitle b host) := by
  obtain ⟨left,right⟩ := fetch_alike alike there "title"
  have title := alike.get "title"
  unfold menuTitle
  rw [left,right]
  simp only [pure_bind,title.isAbsent,(alike.get "position").isSame_text,around_alike _ _ title]
  split
  · exact .ok title
  · exact texted_alike _ _ host

theorem tab_alike : tab a = tab b := by
  obtain ⟨left,right⟩ := fetch_alike alike there "disabled"
  unfold tab bracketed
  rw [left,right]
  simp only [pure_bind,(alike.get "disabled").isTrue,(alike.get "closable").isTrue,(alike.get "label").shown,
    around_alike _ _ (alike.get "icon")]

theorem treeNode_alike : treeNode a = treeNode b := by
  obtain ⟨left,right⟩ := fetch_alike alike there "expanded"
  unfold treeNode bracketed
  rw [left,right]
  simp only [pure_bind,(alike.get "expanded").isTrue,(alike.get "children").isAbsent,(alike.get "label").shown,
    (alike.get "iconExpanded").isAbsent]
  split
  · rw [around_alike _ _ (alike.get "iconExpanded")]
  · rw [around_alike _ _ (alike.get "icon")]

end

end Trifold.Label
