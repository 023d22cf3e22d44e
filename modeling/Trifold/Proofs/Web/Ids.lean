import Trifold.Proofs.Web.Handlers

namespace Trifold.Web
open Element Markup OpenTag

namespace OpenTag

-- What the tag says its id is, read back.
def ids (tag : OpenTag) : List String := (tag.given.filter (·.1 == "id")).map (unescape ·.2)

variable {name : String} {given : List Attribute}

theorem ids_fresh (fresh : (given.all (·.1 != "id")) = true) : (of name given).ids = [] := by
  rw [ids,of,ids_none fresh]
  rfl

theorem ids_of (id : Option String) (fresh : (given.all (·.1 != "id")) = true) :
    (of name (("id",id) :: given)).ids = (id.filter (· ≠ "")).toList := by
  have rest := ids_none fresh
  rw [ids,of]
  cases id with
  | none =>
    rw [List.filterMap_cons_none rfl,rest]
    rfl
  | some id =>
    by_cases empty : id = ""
    · subst empty
      rw [List.filterMap_cons_none rfl,rest]
      rfl
    · have read : Attribute.given? ("id",some id) = some ("id",escape id) := if_neg (mt String.isEmpty_iff.mp empty)
      have kept : (some id).filter (· ≠ "") = some id := Option.filter_eq_some_iff.mpr ⟨rfl,decide_eq_true empty⟩
      rw [List.filterMap_cons_some read,List.filter_cons_of_pos rfl,rest,kept]
      exact congrArg (fun id => [id]) (unescape_escape id)

end OpenTag

-- The ids in a text of markup, in the order in which they are written.
def ids (html : String) : List String := (OpenTag.all html).flatMap OpenTag.ids

namespace Markup

def ids (markup : Markup) : List String := markup.tags.flatMap OpenTag.ids

variable {given : List Attribute}

theorem ids_element (name : String) (given : List Attribute) (children : List Markup) :
    (element name given children).ids = (of name given).ids ++ children.flatMap ids := by
  rw [ids,tags,tagsAll_eq,List.flatMap_cons,List.flatMap_assoc]
  rfl

theorem ids_texted (name : String) (given : List Attribute) (content : String) :
    (texted name given content).ids = (of name given).ids := List.append_nil _

theorem ids_silent {children : List Markup} (silent : ∀ child ∈ children, child.ids = []) : children.flatMap ids = [] :=
  List.flatMap_eq_nil_iff.mpr silent

-- A tag without an id around what has none.
theorem ids_around {cells : List Markup} (silent : ∀ cell ∈ cells, cell.ids = []) (name : String)
    (fresh : (given.all (·.1 != "id")) = true) : (element name given cells).ids = [] := by
  rw [ids_element,ids_fresh fresh,ids_silent silent]
  rfl

end Markup

variable {host : Host}

theorem bodyRow_ids {table : Table} {columns : List Value} {row : Value} {place : Nat} {made : Markup}
    (given : bodyRow table columns row place host = .ok made) : made.ids = [] := by
  obtain ⟨cells,inside,given⟩ := Ask.ok_of_bind given
  cases given
  refine ids_around (Ask.forall_of_mapM ?_ inside) "tr" rfl
  intro column _ cell drawn
  obtain ⟨shown,_,drawn⟩ := Ask.ok_of_bind drawn
  obtain ⟨content,_,drawn⟩ := Ask.ok_of_bind drawn
  cases drawn
  exact (ids_texted _ _ _).trans (ids_fresh rfl)

theorem table_ids {id styled : Option String} {value : Value} {it : Table} {made : Markup}
    (given : table ("id",id) ("style",styled) value it host = .ok made) : made.ids = (id.filter (· ≠ "")).toList := by
  unfold table at given
  split at given
  · cases given
    rw [ids_texted]
    exact ids_of id rfl
  · obtain ⟨sorted,_,given⟩ := Ask.ok_of_bind given
    obtain ⟨rows,_,given⟩ := Ask.ok_of_bind given
    obtain ⟨body,inside,given⟩ := Ask.ok_of_bind given
    cases given
    have cells : ∀ cell ∈ (Table.shownColumns it).map (headCell it), cell.ids = [] := by
      intro cell there
      obtain ⟨column,_,rfl⟩ := List.mem_map.mp there
      exact (ids_texted _ _ _).trans (ids_fresh rfl)
    have head : (Markup.element "tr" [] ((Table.shownColumns it).map (headCell it))).ids = [] := ids_around cells "tr" rfl
    have thead : (Markup.element "thead" [] [.element "tr" [] ((Table.shownColumns it).map (headCell it))]).ids = [] :=
      ids_around (by simpa using head) "thead" rfl
    have tbody : (Markup.element "tbody" [] body).ids = [] :=
      ids_around (Ask.forall_of_mapM (fun _ _ _ drawn => bodyRow_ids drawn) inside) "tbody" rfl
    rw [ids_element,ids_of id rfl,ids_silent (by simp [thead,tbody]),List.append_nil]

theorem assemble_ids {value : Value} {element : Element} {inside panel : List Markup} {made : Markup}
    (bare : element.shown = [] → inside = []) (closed : element.panel = .ok [] → panel = [])
    (given : assemble value element inside panel host = .ok made) :
    made.ids = (element.id.filter (· ≠ "")).toList ++ (inside.flatMap Markup.ids ++ panel.flatMap Markup.ids) := by
  obtain ⟨style,_,given⟩ := Ask.ok_of_bind given
  obtain ⟨id,styled,visible,body⟩ := element
  cases body with
  | text | label | column | button =>
    cases given
    cases bare rfl
    cases closed rfl
    rw [ids_texted]
    exact (ids_of id rfl).trans (List.append_nil _).symm
  | gauge | sparkline | barChart | lineChart | tab | menuItem =>
    obtain ⟨drawn,_,given⟩ := Ask.ok_of_bind given
    cases given
    cases bare rfl
    cases closed rfl
    rw [ids_texted]
    exact (ids_of id rfl).trans (List.append_nil _).symm
  | textInput it =>
    cases given
    cases bare rfl
    cases closed rfl
    rw [Markup.ids,Markup.tags,List.flatMap_singleton]
    exact (ids_of id rfl).trans (List.append_nil _).symm
  | table it =>
    cases bare rfl
    cases closed rfl
    exact (table_ids given).trans (List.append_nil _).symm
  | menu it =>
    obtain ⟨title,_,given⟩ := Ask.ok_of_bind given
    cases given
    cases closed rfl
    have heading : ((title.text?.map (texted "div" [("class",some "menu-title")])).toList).flatMap Markup.ids = [] := by
      apply ids_silent
      intro made there
      obtain ⟨content,_,rfl⟩ := Option.map_eq_some_iff.mp (Option.mem_toList.mp there)
      exact (ids_texted _ _ _).trans (ids_fresh rfl)
    rw [ids_element,ids_of id rfl,List.flatMap_append,heading,List.flatMap_singleton,ids_element,ids_fresh rfl]
    exact congrArg _ (List.append_nil _).symm
  | contextMenu | treeView =>
    cases given
    cases closed rfl
    rw [ids_element,ids_of id rfl]
    exact congrArg _ (List.append_nil _).symm
  | tabs it =>
    cases given
    rw [ids_element,ids_of id rfl,List.flatMap_cons,List.flatMap_singleton,ids_element,ids_element,ids_fresh rfl,
      ids_fresh rfl]
    rfl
  | treeNode it =>
    obtain ⟨label,_,given⟩ := Ask.ok_of_bind given
    cases given
    cases closed rfl
    have group : (if inside.isEmpty then [] else [Markup.element "ul" [("role",some "group")] inside]).flatMap Markup.ids =
        inside.flatMap Markup.ids := by
      cases inside with
      | nil => rfl
      | cons child rest =>
        rw [if_neg (by simp),List.flatMap_singleton,ids_element,ids_fresh rfl]
        rfl
    rw [ids_element,ids_of id rfl,List.flatMap_cons,group]
    exact congrArg _ (List.append_nil _).symm
  | vbox it | hbox it =>
    cases closed rfl
    obtain ⟨css,_,given⟩ := Ask.ok_of_bind given
    cases given
    rw [ids_element,ids_of id rfl]
    exact congrArg _ (List.append_nil _).symm

theorem convert_ids {value : Value} {markup : Markup} (drawn : (backend.convert host value).outcome = .ok (some markup)) :
    ids markup.written = (seen value).filterMap fun element => element.id.filter (· ≠ "") := by
  have named : markup.Named :=
    Backend.convert_keeps blank_named (fun inside panel given => assemble_named inside panel given) value markup drawn
  have gathered := @Backend.convert_gathers _ _ backend host Markup.ids
    (fun element => (element.id.filter (· ≠ "")).toList) rfl
    (fun sound opened first second given => by
      refine assemble_ids ?_ ?_ given
      · intro bare
        exact Backend.nothing_inside (bare ▸ first)
      · intro closed
        cases closed.symm.trans opened
        exact Backend.nothing_inside second) value _ drawn
  rw [ids,all_written named]
  change Markup.ids markup = _
  rw [← List.append_nil (Markup.ids markup)]
  exact gathered.trans (List.filterMap_eq_flatMap_toList _ _).symm

end Trifold.Web
