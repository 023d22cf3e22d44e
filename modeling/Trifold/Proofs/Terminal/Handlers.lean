import Trifold.Proofs.Ask
import Trifold.Proofs.Platform.Bearing
import Trifold.Proofs.Platform.Seen
import Trifold.Terminal.Convert
import Trifold.Terminal.Handlers

namespace Trifold.Terminal
open Value Element
open List (Forall₂)

variable {host : Host}

namespace Node

def Finds (host : Host) (node : Value) (found : Handlers.Found) : Prop := handlers node host = .ok found

variable {node inner : Value} {found : Handlers.Found}

theorem finds_content (shown : Value) : Finds host (content shown) [] := by
  rw [Finds,handlers]
  rfl

theorem there_of_finds (finds : Finds host node found) : node.isAbsent = false := by
  rw [Finds,handlers] at finds
  cases node <;> first | rfl | cases finds

theorem finds_wrapper {own : Handlers.Found} (shaped : shape node = .wrapper) (there : there node host = .ok ())
    (held : node.get "node" = inner) (finds : Finds host inner found) (bears : ownHandlers node host = .ok own) :
    Finds host node (found ++ own) := by
  have inside : (node.get "node").isAbsent = false := held ▸ there_of_finds finds
  rw [Finds,handlers,Ask.bind_ok there,shaped]
  dsimp only
  rw [dif_pos inside,held,Ask.bind_ok finds,Ask.bind_ok bears]
  rfl

theorem finds_withStyle (style : Value) (finds : Finds host inner found) : Finds host (withStyle inner style) found := by
  unfold withStyle
  split
  · exact finds
  · have styled := @finds_wrapper host (object [("kind",text "styled"), ("node",inner), ("style",style)]) inner found [] rfl rfl
      rfl finds rfl
    rwa [List.append_nil] at styled

theorem handlersOf_ok {nodes : List Value} {each : List Handlers.Found} (finds : Forall₂ (Finds host) nodes each) :
    handlersOf nodes host = .ok each.flatten := by
  induction finds with
  | nil =>
    rw [handlersOf]
    rfl
  | cons here later ih =>
    rw [handlersOf,Ask.bind_ok here,Ask.bind_ok ih,List.flatten_cons]
    rfl

theorem handlers_children {children : List Value} (shaped : shape node = .stack)
    (held : node.get "children" = list children) : handlers node = (there node >>= fun _ => handlersOf children) := by
  rw [handlers,shaped]
  dsimp only
  congr 1
  funext _
  split
  · rename_i found same
    rw [held] at same
    cases same
    rfl
  · rename_i unlisted
    exact (unlisted children held).elim

theorem finds_stack {children : List Value} {each : List Handlers.Found} (shaped : shape node = .stack)
    (there : there node host = .ok ()) (held : node.get "children" = list children)
    (finds : Forall₂ (Finds host) children each) : Finds host node each.flatten := by
  rw [Finds,handlers_children shaped held,Ask.bind_ok there]
  exact handlersOf_ok finds

end Node

-- The elements a node stands for: what is found in it are their handlers, in some order.
def Stands (host : Host) (node : Value) (elements : List Element) : Prop :=
  ∃ found, Node.handlers node host = .ok found ∧ found.Perm (elements.flatMap (bearing "action"))

variable {node : Value} {elements : List Element} {children : List Value} {told : List (List Element)}

theorem stands_content (shown : Value) : Stands host (Node.content shown) [] := ⟨[],Node.finds_content shown,.nil⟩

theorem stands_withStyle (style : Value) (stands : Stands host node elements) :
    Stands host (Node.withStyle node style) elements := by
  obtain ⟨found,finds,order⟩ := stands
  exact ⟨found,Node.finds_withStyle style finds,order⟩

theorem stands_leaf (style shown : Value) : Stands host (leaf style shown) [] := stands_withStyle style (stands_content shown)

theorem found_all (stands : Forall₂ (Stands host) children told) :
    ∃ each, Forall₂ (Node.Finds host) children each ∧ each.flatten.Perm (told.flatten.flatMap (bearing "action")) := by
  induction stands with
  | nil => exact ⟨[],.nil,.nil⟩
  | cons here later ih =>
    obtain ⟨found,finds,order⟩ := here
    obtain ⟨each,inside,orders⟩ := ih
    refine ⟨found :: each,.cons finds inside,?_⟩
    rw [List.flatten_cons,List.flatten_cons,List.flatMap_append]
    exact order.append orders

theorem stands_stackWith (direction : String) (spacing padding align justify : Value)
    (stands : Forall₂ (Stands host) children told) :
    Stands host (Node.stackWith (text direction) children spacing padding align justify) told.flatten := by
  obtain ⟨each,finds,order⟩ := found_all stands
  exact ⟨_,Node.finds_stack rfl rfl rfl finds,order⟩

theorem stands_column (style : Value) (stands : Forall₂ (Stands host) children told) :
    Stands host (column style children) told.flatten :=
  stands_withStyle style (stands_stackWith _ _ _ _ _ stands)

section
variable {value : Value} {element : Element}

-- A tag records the id of its element and its handlers.
theorem ownHandlers_tagged (sound : ofValue? value = some element)
    (listed : handlerKeys.filter (· ∈ further element.kind ++ Details.keys element.kind) =
      (element.handlersOf "action").map (·.1)) (node : Value) :
    Node.ownHandlers (tagged value element node) host = .ok (bearing "action" element) := by
  have once : (further element.kind ++ Details.keys element.kind).Nodup := by
    cases element.kind <;> decide
  have plain : ∀ key ∈ handlerKeys, key ∉ Fields.keys (Details.derived element.body) ∧ inherited key = absent :=
    Handlers.event_plain element.body
  have handlers := @Handlers.among_details value element _ _ _ once plain fun _ => rfl
  rw [listed,Handlers.among_borne (handlersOf_held sound)] at handlers
  have fresh : "id" ∉ Fields.keys (Details.derived element.body) := by
    cases element.body <;> simp [Details.derived,Fields.keys]
  have identified : (Details.ofElement (further element.kind) value element).get "id" = ofText? element.id := by
    have known : value.get "id" = ofText? element.id := get_of_sound sound rfl
    have recorded : "id" ∈ further element.kind ++ Details.keys element.kind := by
      cases element.kind <;> decide
    rw [Details.ofElement,object,Value.get,Details.get?_recorded once fresh,if_pos recorded,known]
    cases element.id <;> rfl
  have kind : isSame (text element.kind.name) (text Kind.textInput.name) = (element.kind == .textInput) := by
    cases element.kind <;> decide
  have tag : (tagged value element node).get "tag" = text element.kind.name := rfl
  have details : (tagged value element node).get "meta" = Details.ofElement (further element.kind) value element := rfl
  have tagging : Node.isTagged (tagged value element node) = true := rfl
  have same : (ofText? element.id).text? = element.id := by cases element.id <;> rfl
  unfold Node.ownHandlers
  rw [tagging,tag,details]
  dsimp only
  rw [fetch_there rfl,identified,kind,pure_bind,same,bearing,← handlers]
  rfl

theorem stands_tagged (sound : ofValue? value = some element)
    (listed : handlerKeys.filter (· ∈ further element.kind ++ Details.keys element.kind) =
      (element.handlersOf "action").map (·.1)) (stands : Stands host node elements) :
    Stands host (tagged value element node) (element :: elements) := by
  obtain ⟨found,finds,order⟩ := stands
  refine ⟨_,Node.finds_wrapper rfl rfl rfl finds (ownHandlers_tagged sound listed node),?_⟩
  rw [List.flatMap_cons]
  exact (order.append_right _).trans List.perm_append_comm

-- An element that bears no handler need not be tagged.
theorem stands_untagged (bare : bearing "action" element = []) (stands : Stands host node elements) :
    Stands host node (element :: elements) := by
  obtain ⟨found,finds,order⟩ := stands
  refine ⟨found,finds,?_⟩
  rw [List.flatMap_cons,bare]
  exact order

end

-- One case a kind: a leaf of the element's own, or a stack of what stands for its contents.
theorem assemble_stands {value : Value} {element : Element} (sound : ofValue? value = some element) {inside panel : List Value}
    {made : Value} {told told' : List (List Element)} (bare : element.shown = [] → inside = [])
    (closed : element.panel = .ok [] → panel = []) (insides : Forall₂ (Stands host) inside told)
    (panels : Forall₂ (Stands host) panel told') (given : assemble value element inside panel host = .ok made) :
    Stands host made (element :: (told.flatten ++ told'.flatten)) := by
  obtain ⟨style,_,given⟩ := Ask.ok_of_bind given
  obtain ⟨id,shape,visible,body⟩ := element
  cases body with
  | text | column =>
    cases bare rfl
    cases closed rfl
    cases insides
    cases panels
    cases given
    exact stands_untagged (by cases id <;> rfl) (stands_leaf _ _)
  | button it =>
    cases bare rfl
    cases closed rfl
    cases insides
    cases panels
    obtain ⟨label,_,given⟩ := Ask.ok_of_bind given
    split at given
    · cases given
      exact stands_tagged sound rfl (stands_leaf _ _)
    · rename_i silent
      cases given
      have nothing : it.onClick = none := by simpa using silent
      refine stands_untagged ?_ (stands_leaf _ _)
      simp [bearing,handlersOf,borne,nothing,Handlers.entry,Element.kind,Body.kind]
      cases id <;> rfl
  | label =>
    cases bare rfl
    cases closed rfl
    cases insides
    cases panels
    dsimp only at given
    split at given
    · cases given
      exact stands_tagged sound rfl (stands_leaf _ _)
    · cases given
      exact stands_untagged (by cases id <;> rfl) (stands_leaf _ _)
  | textInput | gauge | sparkline | barChart | lineChart | table | menuItem | tab =>
    cases bare rfl
    cases closed rfl
    cases insides
    cases panels
    obtain ⟨shown,_,given⟩ := Ask.ok_of_bind given
    cases given
    exact stands_tagged sound rfl (stands_leaf _ _)
  | menu it =>
    cases closed rfl
    cases panels
    obtain ⟨title,_,given⟩ := Ask.ok_of_bind given
    cases given
    have heading : ∃ between, Forall₂ (Stands host) (title.present?.map Node.content).toList between ∧ between.flatten = [] := by
      cases title.present? with
      | none => exact ⟨[],.nil,rfl⟩
      | some shown => exact ⟨[[]],.cons (stands_content shown) .nil,rfl⟩
    obtain ⟨between,heads,silent⟩ := heading
    have whole := stands_column style (List.rel_append heads insides)
    rw [List.flatten_append,silent,List.nil_append] at whole
    rw [List.flatten_nil,List.append_nil]
    exact stands_tagged sound rfl whole
  | contextMenu | treeView =>
    cases closed rfl
    cases panels
    cases given
    rw [List.flatten_nil,List.append_nil]
    exact stands_tagged sound rfl (stands_column _ insides)
  | tabs it =>
    cases given
    have bar := stands_withStyle style (stands_stackWith "horizontal" (number 2) absent absent absent insides)
    exact stands_tagged sound rfl (stands_stackWith "vertical" (number 1) absent absent absent (.cons bar panels))
  | treeNode it =>
    cases closed rfl
    cases panels
    obtain ⟨label,_,given⟩ := Ask.ok_of_bind given
    cases given
    rw [List.flatten_nil,List.append_nil]
    have head : Stands host (leaf style (text label)) [] := stands_leaf _ _
    cases insides with
    | nil => exact stands_tagged sound rfl head
    | cons here later =>
      have lines : Forall₂ (Stands host) _ ([] :: _ :: _) := .cons head (.cons here later)
      have whole := stands_stackWith "vertical" (number 0) absent absent absent lines
      exact stands_tagged sound rfl whole
  | vbox | hbox =>
    cases closed rfl
    cases panels
    cases given
    rw [List.flatten_nil,List.append_nil]
    exact stands_untagged (by cases id <;> rfl) (stands_withStyle _ (stands_stackWith _ _ _ _ _ insides))

theorem convert_stands {value root : Value} (converted : (backend.convert host value).outcome = .ok (some root)) :
    Stands host root (seen value) := by
  have blank : Stands host backend.blank [] := by
    refine ⟨[],?_,.nil⟩
    rw [Node.handlers]
    rfl
  exact Backend.convert_stands_some blank (fun sound => assemble_stands sound) converted

end Trifold.Terminal
