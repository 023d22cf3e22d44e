import Trifold.Proofs.Element.Caption
import Trifold.Proofs.Platform.Beside
import Trifold.Terminal.Convert

namespace Trifold.Terminal
open Value Agree Element
open List (Forall₂)

variable {host : Host}

namespace Node

def Texts (host : Host) (node : Value) (words : List String) : Prop := texts node host = .ok (some (words.map text))

variable {node inner style : Value} {words : List String}

theorem texts_content (word : String) : Texts host (content (text word)) [word] := by
  rw [Texts,texts]
  rfl

theorem there_of_texts (shows : Texts host node words) : node.isAbsent = false := by
  rw [Texts,texts] at shows
  cases node <;> first | rfl | cases shows

theorem texts_wrapper (shaped : shape node = .wrapper) (there : there node host = .ok ()) (held : node.get "node" = inner)
    (shows : Texts host inner words) : Texts host node words := by
  have inside : (node.get "node").isAbsent = false := held ▸ there_of_texts shows
  rw [Texts,texts,Ask.bind_ok there,shaped]
  dsimp only
  rw [dif_pos inside,held]
  exact shows

theorem texts_withStyle (style : Value) (shows : Texts host inner words) : Texts host (withStyle inner style) words := by
  unfold withStyle
  split
  · exact shows
  · exact texts_wrapper rfl rfl rfl shows

theorem texts_withTag (tag details : Value) (shows : Texts host inner words) :
    Texts host (withTag tag inner details) words := texts_wrapper rfl rfl rfl shows

theorem textsOf_ok {nodes : List Value} {each : List (List String)} (shows : Forall₂ (Texts host) nodes each) :
    textsOf nodes host = .ok (each.flatten.map text) := by
  induction shows with
  | nil =>
    rw [textsOf]
    rfl
  | cons here later ih =>
    rw [textsOf,Ask.bind_ok here,Ask.bind_ok ih,List.flatten_cons,List.map_append]
    rfl

theorem texts_children {children : List Value} (shaped : shape node = .stack) (held : node.get "children" = list children) :
    texts node = (there node >>= fun _ => some <$> textsOf children) := by
  rw [texts,shaped]
  dsimp only
  congr 1
  funext _
  split
  · rename_i found same
    rw [held] at same
    cases same
    rfl
  · rename_i unlisted
    exact (unlisted children held).elim

theorem texts_stack {children : List Value} {each : List (List String)} (shaped : shape node = .stack)
    (there : there node host = .ok ()) (held : node.get "children" = list children)
    (shows : Forall₂ (Texts host) children each) : Texts host node each.flatten := by
  rw [Texts,texts_children shaped held,Ask.bind_ok there]
  change (textsOf children host).map some = _
  rw [textsOf_ok shows]
  rfl

theorem texts_stackWith (direction : String) (spacing padding align justify : Value) {children : List Value}
    {each : List (List String)} (shows : Forall₂ (Texts host) children each) :
    Texts host (stackWith (text direction) children spacing padding align justify) each.flatten :=
  texts_stack rfl rfl rfl shows

end Node

-- A node that shows the captions as a terminal draws them.
def Shows (host : Host) (node : Value) (captions : List Caption) : Prop :=
  ∃ words, captions.mapM Caption.onTerminal host = .ok words ∧ Node.Texts host node words

variable {node : Value} {captions : List Caption}

theorem shows_content {caption : Caption} {words : String} (drawn : caption.onTerminal host = .ok words) :
    Shows host (Node.content (text words)) [caption] := by
  refine ⟨[words],?_,Node.texts_content words⟩
  rw [List.mapM_cons,Ask.bind_ok drawn]
  rfl

theorem shows_withStyle (style : Value) (shows : Shows host node captions) :
    Shows host (Node.withStyle node style) captions := by
  obtain ⟨words,drawn,texts⟩ := shows
  exact ⟨words,drawn,Node.texts_withStyle style texts⟩

theorem shows_leaf (style : Value) {caption : Caption} {words : String} (drawn : caption.onTerminal host = .ok words) :
    Shows host (leaf style (text words)) [caption] := shows_withStyle style (shows_content drawn)

theorem shows_tagged (value : Value) (element : Element) (shows : Shows host node captions) :
    Shows host (tagged value element node) captions := by
  obtain ⟨words,drawn,texts⟩ := shows
  exact ⟨words,drawn,Node.texts_withTag _ _ texts⟩

theorem texts_of_shows {nodes : List Value} {each : List (List Caption)} (shows : Forall₂ (Shows host) nodes each) :
    ∃ words, Forall₂ (Node.Texts host) nodes words ∧
      each.flatten.mapM Caption.onTerminal host = .ok words.flatten := by
  induction shows with
  | nil => exact ⟨[],.nil,rfl⟩
  | cons here later ih =>
    obtain ⟨first,drawn,shown⟩ := here
    obtain ⟨others,rest,more⟩ := ih
    refine ⟨first :: others,.cons shown rest,?_⟩
    rw [List.flatten_cons,List.mapM_append,Ask.bind_ok drawn,Ask.bind_ok more]
    rfl

theorem shows_stackWith (direction : String) (spacing padding align justify : Value) {children : List Value}
    {each : List (List Caption)} (shows : Forall₂ (Shows host) children each) :
    Shows host (Node.stackWith (text direction) children spacing padding align justify) each.flatten := by
  obtain ⟨words,texts,drawn⟩ := texts_of_shows shows
  exact ⟨words.flatten,drawn,Node.texts_stackWith direction spacing padding align justify texts⟩

theorem shows_stack (direction : String) (spacing : Float) {children : List Value} {each : List (List Caption)}
    (shows : Forall₂ (Shows host) children each) : Shows host (Node.stack direction children spacing) each.flatten :=
  shows_stackWith direction _ _ _ _ shows

theorem cellStyle_ok {value : Value} {element : Element} (sound : ofValue? value = some element) (host : Host) :
    ∃ style, cellStyle (value.get "style") host = .ok style := by
  have held : value.get "style" = ofOption element.style := get_of_sound sound rfl
  have shaped := style_of_sound sound
  rw [held]
  cases styled : element.style with
  | none => exact ⟨_,rfl⟩
  | some style =>
    obtain ⟨plain,attrs,listed⟩ := shaped style styled
    have there : style.isMissing = false := by cases style <;> first | rfl | cases plain
    have counted : fetch "length" (list attrs) = pure (ofNat attrs.length) := rfl
    unfold cellStyle
    rw [ofOption,fetch_there there,listed]
    simp only [pure_bind,counted]
    split
    · exact ⟨_,rfl⟩
    · split <;> exact ⟨_,rfl⟩

-- One case a kind: a leaf with a text, or a stack of what the contents have become.
theorem assemble_beside {value : Value} {element : Element} (sound : ofValue? value = some element)
    {inside panel : List Value} {inside' panel' : List (List Caption)} (insides : Forall₂ (Shows host) inside inside')
    (panels : Forall₂ (Shows host) panel panel') :
    Outcome (Shows host) (assemble value element inside panel host) (Caption.assemble value element inside' panel' host) := by
  obtain ⟨id,shape,visible,body⟩ := element
  obtain ⟨style,styled⟩ := cellStyle_ok sound host
  have tag {captions : List Caption} {node : Value} := @shows_tagged host node captions value
  have drawn {caption : Caption} {words : String} := @shows_leaf host style caption words
  unfold assemble Caption.assemble
  rw [Ask.bind_ok styled]
  cases body with
  | gauge | sparkline | barChart | lineChart | table | menuItem | tab =>
    exact Outcome.bind_same fun words _ => .ok (tag _ (drawn rfl))
  | text content =>
    have held : value.get "content" = ofText? content := get_of_sound sound rfl
    dsimp only
    rw [held,Label.ofText?_orElse]
    exact .ok (drawn rfl)
  | button it =>
    have held : value.get "label" = ofText? it.label := get_of_sound sound rfl
    dsimp only
    rw [held,Label.button_text,pure_bind]
    split
    · exact .ok (tag _ (drawn rfl))
    · exact .ok (drawn rfl)
  | label target content =>
    have held : value.get "text" = ofText? content := get_of_sound sound rfl
    dsimp only
    rw [held,Label.ofText?_orElse]
    split
    · exact .ok (tag _ (drawn rfl))
    · exact .ok (drawn rfl)
  | textInput it =>
    obtain ⟨mark,marked,shown⟩ := Label.input_sound sound host
    dsimp only
    rw [Ask.bind_ok shown]
    exact .ok (tag _ (drawn (Ask.bind_ok marked)))
  | column it =>
    have held : value.get "header" = text it.header := get_of_sound sound rfl
    dsimp only
    rw [held]
    exact .ok (drawn rfl)
  | menu it =>
    dsimp only
    rw [Label.menuTitle_sound sound,pure_bind]
    cases Caption.title? it with
    | none => exact .ok (tag _ (shows_withStyle style (shows_stack "vertical" 0 insides)))
    | some title =>
      exact .ok (tag _ (shows_withStyle style (shows_stack "vertical" 0 (.cons (shows_content rfl) insides))))
  | contextMenu | treeView => exact .ok (tag _ (shows_withStyle _ (shows_stack _ _ insides)))
  | tabs =>
    have bar := shows_withStyle style (shows_stack "horizontal" 2 insides)
    exact .ok (tag _ (shows_stack "vertical" 1 (.cons bar panels)))
  | treeNode =>
    refine Outcome.bind_same fun words _ => ?_
    cases insides with
    | nil => exact .ok (tag _ (drawn rfl))
    | cons here later => exact .ok (tag _ (shows_stack "vertical" 0 (.cons (drawn rfl) (.cons here later))))
  | vbox | hbox => exact .ok (shows_withStyle _ (shows_stackWith _ _ _ _ _ insides))

theorem backend_beside (host : Host) : backend.Beside Caption.backend host (Shows host) :=
  ⟨fun _ => .ok trivial,fun sound => assemble_beside sound⟩

end Trifold.Terminal
