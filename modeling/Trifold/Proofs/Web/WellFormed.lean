import Trifold.Platform.Builtin
import Trifold.Proofs.Platform.Walk
import Trifold.Proofs.Web.Grammar

namespace Trifold.Web
open Grammar

theorem escapeChar_plain (c : Char) {rest : List Char} (others : Plain rest) : Plain (escapeChar c ++ rest) := by
  unfold escapeChar
  split
  case h_6 _ amp lt gt quote apostrophe =>
    refine .cons ?_ amp others
    simp only [delimiters,List.mem_cons,List.not_mem_nil,or_false,not_or]
    exact ⟨lt,gt,quote,apostrophe⟩
  all_goals exact .entity (by decide) others

theorem escape_plain (s : String) : Plain (escape s).toList := by
  rw [escape,String.toList_ofList]
  induction s.toList with
  | nil => exact .nil
  | cons c rest ih =>
    rw [List.flatMap_cons]
    exact escapeChar_plain c ih

theorem join_cons (head : String) (rest : List String) : String.join (head :: rest) = head ++ String.join rest := by
  have moved (rest : List String) : ∀ start : String, rest.foldl (· ++ ·) start = start ++ rest.foldl (· ++ ·) "" := by
    induction rest with
    | nil => intro start; simp
    | cons s rest ih =>
      intro start
      rw [List.foldl_cons,List.foldl_cons,ih (start ++ s),ih ("" ++ s),String.empty_append,String.append_assoc]
  rw [String.join,String.join,List.foldl_cons,String.empty_append]
  exact moved rest head

theorem attributes_named {given : List Attribute} (listed : ∀ pair ∈ given, pair.1 ∈ attributeNames) :
    Attributes (attributes given).toList := by
  induction given with
  | nil => exact .nil
  | cons pair rest ih =>
    obtain ⟨name,value⟩ := pair
    obtain ⟨here,later⟩ := List.forall_mem_cons.mp listed
    have others := ih later
    rw [attributes,List.map_cons,join_cons,String.toList_append]
    change Attributes ((Attribute.written (name,value)).toList ++ (attributes rest).toList)
    cases value with
    | none => exact others
    | some value =>
      simp only [Attribute.written]
      split
      · exact others
      · simpa using Attributes.cons here (escape_plain value) others

namespace Markup

-- Every name in the tree is one of the literal ones.
mutual
def Named : Markup → Prop
  | text _ => True
  | element name given children =>
      name ∈ tagNames ∧ (∀ pair ∈ given, pair.1 ∈ attributeNames) ∧ NamedAll children
  | void name given => name ∈ tagNames ∧ ∀ pair ∈ given, pair.1 ∈ attributeNames
def NamedAll : List Markup → Prop
  | [] => True
  | markup :: rest => Named markup ∧ NamedAll rest
end

theorem namedAll_of_forall {children : List Markup} (named : ∀ child ∈ children, child.Named) :
    NamedAll children := by
  induction children with
  | nil => trivial
  | cons child rest ih =>
    obtain ⟨here,later⟩ := List.forall_mem_cons.mp named
    exact ⟨here,ih later⟩

theorem namedAll_append {first second : List Markup} (left : NamedAll first) (right : NamedAll second) :
    NamedAll (first ++ second) := by
  induction first with
  | nil => exact right
  | cons child rest ih => exact ⟨left.1,ih left.2⟩

mutual
theorem written_wellFormed : (markup : Markup) → markup.Named → WellFormed markup.written.toList
  | .text content, _ => .ofPlain (escape_plain content)
  | .element name given children, ⟨listed,pairs,inner⟩ => by
      have whole := WellFormed.element listed (attributes_named pairs) (writtenAll_wellFormed children inner) .nil
      simpa [written,wrap] using whole
  | .void name given, ⟨listed,pairs⟩ => by
      have whole := WellFormed.void listed (attributes_named pairs) .nil
      simpa [written,wrapVoid] using whole
theorem writtenAll_wellFormed : (children : List Markup) → NamedAll children →
    WellFormed (writtenAll children).toList
  | [], _ => .nil
  | child :: rest, ⟨here,later⟩ => by
      rw [writtenAll,String.toList_append]
      exact (written_wellFormed child here).append (writtenAll_wellFormed rest later)
end

end Markup

@[simp] theorem eventAttr_name (event : String) (handler : Option Value) :
    (eventAttr event handler).1 = "data-on-" ++ event := rfl

@[simp] theorem flag_name (name : String) (on : Bool) : (Attribute.flag name on).1 = name := rfl

theorem texted_named {name : String} {given : List Attribute} (content : String) (listed : name ∈ tagNames)
    (pairs : ∀ pair ∈ given, pair.1 ∈ attributeNames) : (texted name given content).Named :=
  ⟨listed,pairs,trivial,trivial⟩

theorem headCell_named (table : Table) (column : Column) : (headCell table column).Named :=
  texted_named _ (by decide) (by simp [attributeNames])

theorem bodyCell_named {row column : Value} {host : Host} {made : Markup} (given : bodyCell row column host = .ok made) :
    made.Named := by
  obtain ⟨shown,_,given⟩ := Ask.ok_of_bind given
  obtain ⟨content,_,given⟩ := Ask.ok_of_bind given
  cases given
  exact texted_named _ (by decide) (by simp [attributeNames])

theorem bodyRow_named {table : Table} {columns : List Value} {row : Value} {place : Nat} {host : Host} {made : Markup}
    (given : bodyRow table columns row place host = .ok made) : made.Named := by
  obtain ⟨cells,inside,given⟩ := Ask.ok_of_bind given
  cases given
  refine ⟨by decide,by simp [attributeNames],Markup.namedAll_of_forall ?_⟩
  exact Ask.forall_of_mapM (fun column _ cell drawn => bodyCell_named drawn) inside

theorem table_named {id styled : Attribute} {value : Value} {it : Table} {host : Host} {made : Markup}
    (idNamed : id.1 = "id") (styleNamed : styled.1 = "style") (given : table id styled value it host = .ok made) :
    made.Named := by
  unfold table at given
  split at given
  · cases given
    exact texted_named _ (by decide) (by simp [attributeNames,idNamed])
  · obtain ⟨sorted,_,given⟩ := Ask.ok_of_bind given
    obtain ⟨rows,_,given⟩ := Ask.ok_of_bind given
    obtain ⟨body,inside,given⟩ := Ask.ok_of_bind given
    cases given
    have headNamed : Markup.NamedAll ((Table.shownColumns it).map (headCell it)) := by
      refine Markup.namedAll_of_forall ?_
      intro cell there
      obtain ⟨column,_,rfl⟩ := List.mem_map.mp there
      exact headCell_named it column
    have bodyNamed : Markup.NamedAll body :=
      Markup.namedAll_of_forall (Ask.forall_of_mapM (fun _ _ _ drawn => bodyRow_named drawn) inside)
    have headRow : (Markup.element "tr" [] ((Table.shownColumns it).map (headCell it))).Named :=
      ⟨by decide,by simp,headNamed⟩
    exact ⟨by decide,by simp [attributeNames,idNamed,styleNamed],⟨by decide,by simp,headRow,trivial⟩,
      ⟨by decide,by simp,bodyNamed⟩,trivial⟩

theorem box_named {id : Attribute} {direction : String} {value : Value} {inside : List Markup} {host : Host}
    {made : Markup} (idNamed : id.1 = "id") (named : ∀ child ∈ inside, child.Named)
    (given : box id direction value inside host = .ok made) : made.Named := by
  obtain ⟨css,_,given⟩ := Ask.ok_of_bind given
  cases given
  exact ⟨by decide,by simp [attributeNames,idNamed],Markup.namedAll_of_forall named⟩

-- One case a kind: each writes literal names around what its contents have become.
theorem assemble_named {value : Value} {element : Element} {inside panel : List Markup} {host : Host} {made : Markup}
    (insideNamed : ∀ child ∈ inside, child.Named) (panelNamed : ∀ child ∈ panel, child.Named)
    (given : assemble value element inside panel host = .ok made) : made.Named := by
  have contents := Markup.namedAll_of_forall insideNamed
  have opened := Markup.namedAll_of_forall panelNamed
  obtain ⟨style,_,given⟩ := Ask.ok_of_bind given
  obtain ⟨id,styled,visible,body⟩ := element
  cases body with
  | text | button | label | column =>
    cases given
    exact texted_named _ (by decide) (by simp [attributeNames])
  | textInput =>
    cases given
    exact ⟨by decide,by simp [attributeNames]⟩
  | gauge | sparkline | barChart | lineChart | menuItem | tab =>
    obtain ⟨drawn,_,given⟩ := Ask.ok_of_bind given
    cases given
    exact texted_named _ (by decide) (by simp [attributeNames])
  | table => exact table_named rfl rfl given
  | menu it =>
    obtain ⟨title,_,given⟩ := Ask.ok_of_bind given
    cases given
    refine ⟨by decide,by simp [attributeNames],Markup.namedAll_append ?_ ⟨⟨by decide,by simp [attributeNames],contents⟩,trivial⟩⟩
    refine Markup.namedAll_of_forall ?_
    intro heading there
    obtain ⟨content,_,rfl⟩ := Option.map_eq_some_iff.mp (Option.mem_toList.mp there)
    exact texted_named _ (by decide) (by simp [attributeNames])
  | contextMenu | treeView =>
    cases given
    exact ⟨by decide,by simp [attributeNames],contents⟩
  | tabs it =>
    cases given
    exact ⟨by decide,by simp [attributeNames],⟨by decide,by simp [attributeNames],contents⟩,
      ⟨by decide,by simp [attributeNames],opened⟩,trivial⟩
  | treeNode it =>
    obtain ⟨label,_,given⟩ := Ask.ok_of_bind given
    cases given
    refine ⟨by decide,by simp [attributeNames],trivial,?_⟩
    split
    · trivial
    · exact ⟨⟨by decide,by simp [attributeNames],contents⟩,trivial⟩
  | vbox | hbox => exact box_named rfl insideNamed given

theorem blank_named : backend.blank.Named := ⟨by decide,by simp,trivial⟩

-- What is hidden gives nothing, and everything else a text of the grammar.
theorem convert_wellFormed (host : Host) (value root : Value)
    (ended : ((Renderer.web host).convert value).outcome = .ok root) :
    root = .null ∨ ∃ html, root = .text html ∧ WellFormed html.toList := by
  obtain ⟨made,converted,ended⟩ := Run.ok_of_bind ended
  cases ended
  cases made with
  | none => exact .inl rfl
  | some markup =>
    have named : markup.Named :=
      Backend.convert_keeps blank_named (fun inside panel given => assemble_named inside panel given) value markup converted
    exact .inr ⟨markup.written,rfl,markup.written_wellFormed named⟩

-- A tree whose texts try to break out of their places, beside a value that is no element.
def closingText : Value := .object [("type",.text "text"), ("visible",.bool true), ("content",.text "</ul>&'")]

def breakout : Value :=
  .object [("type",.text "contextMenu"), ("id",.text "\"><i"), ("visible",.bool true), ("triggerOn",.text "on"),
    ("items",.list [closingText, .null])]

def brokenIn : Markup :=
  .element "ul" [("id",some "\"><i"), ("role",some "menu"), ("data-trigger",some "on"), ("style",some "")]
    [.element "span" [("id",none), ("style",some "")] [.text "</ul>&'"], .element "span" [] []]

theorem closingText_shown : backend.convert .silent closingText =
    pure (some (.element "span" [("id",none), ("style",some "")] [.text "</ul>&'"])) := by
  have sound : Element.ofValue? closingText = some ⟨none,none,true,.text (some "</ul>&'")⟩ := rfl
  rw [Backend.convert_shown sound rfl]
  simp only [Element.shown,Element.panel,Backend.convertAll.eq_1,Run.ofMisuse_ok,Run.pure_bind]
  rfl

theorem breakout_shown : ((Renderer.web .silent).convert breakout).outcome = .ok (.text brokenIn.written) := by
  have sound : Element.ofValue? breakout = some ⟨some "\"><i",none,true,.contextMenu ⟨"on",[closingText, .null]⟩⟩ := rfl
  have foreign : backend.convert .silent .null = backend.unknown .silent .null := Backend.convert_foreign rfl
  change (Run.bind (backend.convert .silent breakout) _).outcome = _
  rw [Backend.convert_shown sound rfl]
  simp only [Element.shown,Element.panel,Backend.convertAll.eq_1,Backend.convertAll_cons,closingText_shown,foreign,
    Run.ofMisuse_ok,Run.pure_bind]
  rfl

theorem convert_wellFormed_breakout :
    ((Renderer.web .silent).convert breakout).outcome = .ok (.text brokenIn.written) ∧
      (.text brokenIn.written = Value.null ∨
        ∃ html, .text brokenIn.written = Value.text html ∧ WellFormed html.toList) :=
  ⟨breakout_shown,convert_wellFormed .silent breakout _ breakout_shown⟩

end Trifold.Web
