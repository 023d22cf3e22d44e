import Trifold.Proofs.Chart.Alike
import Trifold.Proofs.Element.Label
import Trifold.Proofs.Platform.Alike
import Trifold.Web.Convert

namespace Trifold.Web
open Value Agree
open List (Forall₂)

variable {level : Value → Value → Prop} {host : Host} {a b : Value}

theorem cssColor_text (value : Value) : cssColor value = match value.text? with
    | some name => pure (text name)
    | none => do
        let channels ← itemsOf "color" value
        let channel (position : Nat) : Ask String := shown (channels.getD position absent)
        return text ("rgb(" ++ (← channel 0) ++ ", " ++ (← channel 1) ++ ", " ++ (← channel 2) ++ ")") := by
  cases value <;> rfl

theorem cssColor_alike (alike : Alike level a b) : cssColor a host = cssColor b host := by
  rw [cssColor_text,cssColor_text,alike.text?]
  cases b.text? with
  | some name => rfl
  | none =>
    refine (Outcome.bind (alike.itemsOf "color" host) ?_).eq
    intro channels channels' each
    have channel (position : Nat) : shown (channels.getD position absent) = shown (channels'.getD position absent) := by
      rw [List.getD_eq_getElem?_getD,List.getD_eq_getElem?_getD]
      exact (Agree.getD (Agree.getElem? each position) (.flat rfl)).shown
    simp only [channel]
    exact Outcome.of_eq rfl

theorem declaration_alike (before after : String) (alike : Alike level a b) :
    declaration before after a = declaration before after b := by
  rw [declaration,declaration,alike.isAbsent,alike.shown]

theorem colorDeclaration_alike (before : String) (alike : Alike level a b) :
    colorDeclaration before a host = colorDeclaration before b host := by
  unfold colorDeclaration
  rw [alike.isAbsent]
  split
  · rfl
  · refine (Outcome.bind (Outcome.of_eq (cssColor_alike alike)) ?_).eq
    rintro color _ rfl
    exact Outcome.of_eq rfl

theorem styleCss_alike (alike : Alike level a b) : styleCss a host = styleCss b host := by
  unfold styleCss
  rw [alike.isAbsent]
  split
  · rfl
  · refine (Outcome.bind (alike.fetch "fg" host) ?_).eq
    intro color color' colors
    refine Outcome.bind (Outcome.of_eq (colorDeclaration_alike "color: " colors)) ?_
    rintro fg _ rfl
    refine Outcome.bind (Outcome.of_eq (colorDeclaration_alike "background-color: " (alike.get "bg"))) ?_
    rintro bg _ rfl
    refine Outcome.bind ((alike.get "attrs").itemsOf "value" host) ?_
    intro attrs attrs' each
    rw [mapM_eq each fun _ _ attr => attr.fetchBy attrCss]
    exact Outcome.of_eq rfl

theorem css_alike (alike : Alike level a b) : css a host = css b host := by
  refine (Outcome.bind (Outcome.of_eq (styleCss_alike alike)) ?_).eq
  rintro declared _ rfl
  exact Outcome.of_eq rfl

theorem keyword_alike (before : String) (meanings : Value) (alike : Alike level a b) :
    keyword before meanings a = keyword before meanings b := by
  rw [keyword,keyword,alike.isAbsent,alike.fetchBy]

theorem gapDeclaration_alike (alike : Alike level a b) : gapDeclaration a = gapDeclaration b := by
  rw [gapDeclaration,gapDeclaration,alike.isAbsent,isAbove_alike alike (.flat rfl),declaration_alike _ _ alike]

theorem flexCss_alike {flex flex' : Value} (there : flex.isMissing = false) (there' : flex'.isMissing = false)
    (parts : ∀ key ∈ ["direction", "spacing", "padding", "align", "justify", "style"],
      Alike level (flex.get key) (flex'.get key)) : flexCss flex host = flexCss flex' host := by
  simp only [List.forall_mem_cons] at parts
  obtain ⟨direction,spacing,padding,align,justify,style,_⟩ := parts
  have layout : layoutCss flex = layoutCss flex' := by
    unfold layoutCss
    rw [fetch_there there,fetch_there there']
    simp only [pure_bind,direction.shown,gapDeclaration_alike spacing,declaration_alike _ _ padding,
      keyword_alike _ _ align,keyword_alike _ _ justify]
  unfold flexCss
  rw [layout]
  refine (Outcome.bind_same (S := (· = ·)) fun _ _ => ?_).eq
  refine Outcome.bind (Outcome.of_eq (styleCss_alike style)) ?_
  rintro declared _ rfl
  exact Outcome.of_eq rfl

theorem box_alike (id : Attribute) (direction : String) (alike : Alike level a b) (inside : List Markup) :
    box id direction a inside host = box id direction b inside host := by
  refine (Outcome.bind (Outcome.of_eq (@flexCss_alike level host _ _ rfl rfl ?_)) ?_).eq
  · simp only [List.forall_mem_cons]
    exact ⟨.flat rfl,alike.get "spacing",alike.get "padding",alike.get "alignItems",alike.get "justifyContent",
      alike.get "style",nofun⟩
  · rintro css _ rfl
    exact Outcome.of_eq rfl

-- The name of the signal a handler stands for.
theorem signal_eq (value : Value) : (Handler.ofValue? value).map (·.signal) =
    (value.text?.or (if value.isPlain then (value.get "signal").text? else none)) := by
  have kept (found : Option String) (f : String → Handler) (signal : (f · |>.signal) = id) :
      (found.map f).map (·.signal) = Option.or none found := by
    rw [Option.map_map,Option.none_or]
    exact (congrArg (Option.map · found) signal).trans Option.map_id'
  cases value with
  | text => rfl
  | record bare fields => exact kept (Value.get "signal" (record bare fields)).text? _ rfl
  | _ => rfl

theorem eventAttr_alike (event : String) {handler handler' : Option Value} (handlers : Alike? level handler handler') :
    eventAttr event handler = eventAttr event handler' := by
  have named (value : Value) : (Handler.ofValue? value).map (fun handler => dashed handler.signal) =
      ((Handler.ofValue? value).map (·.signal)).map dashed := (Option.map_map ..).symm
  unfold eventAttr
  cases handlers with
  | none => rfl
  | some alike =>
    rw [Option.bind_some,Option.bind_some,named,named,signal_eq,signal_eq,alike.text?,alike.isPlain,
      (alike.get "signal").text?]

theorem headCell_matched {left right : Table} (sorted : left.sortColumn = right.sortColumn)
    (facing : left.sortDirection = right.sortDirection) {c c' : Column} (matched : Column.Matched c c') :
    headCell left c = headCell right c' := by
  rw [headCell,headCell,sorted,facing,matched.key,matched.header,matched.sortable,matched.align]

open Table in
theorem bodyCell_agree {left right : Table} (legible : Legible host left right) {c c' row row' : Value}
    (facing : Facing host left c c') (rows : Rows host left right row row') :
    Outcome (· = ·) (bodyCell row c host) (bodyCell row' c' host) := by
  unfold bodyCell
  rw [(shownColumn_matched facing).align]
  refine Outcome.bind (Outcome.of_eq (cell_agree legible facing rows)) ?_
  rintro shown _ rfl
  exact Outcome.of_eq rfl

theorem isSelected_same {left right : Table} (selected : Option.Rel SameNumber left.selectedRow right.selectedRow)
    (place : Nat) : isSelected left place = isSelected right place := by
  unfold isSelected
  generalize left.selectedRow = x at selected
  generalize right.selectedRow = y at selected
  cases selected with
  | none => rfl
  | some equal => exact Number.beq_same equal (Number.same_refl _)

open Table in
theorem table_agree {id styled : Attribute} {left right : Table} (beside : Beside host a b left right) :
    Outcome (· = ·) (table id styled a left host) (table id styled b right host) := by
  have columns := facing_shown beside
  have matched := beside.matched
  have head : (shownColumns left).map (headCell left) = (shownColumns right).map (headCell right) :=
    map_eq (shownColumns_matched beside) fun _ _ => headCell_matched matched.sortColumn matched.sortDirection
  unfold table
  simp only [isEmpty_eq columns,head,eventAttr_alike "sort" matched.onSort,
    eventAttr_alike "row-select" matched.onRowSelect]
  split
  · exact .ok rfl
  · refine Outcome.bind (rows_agree beside) ?_
    rintro _ _ ⟨xs,ys,rfl,rfl,rows⟩
    have listed (items : List Value) : Value.items (list items) = pure items := rfl
    simp only [listed,pure_bind]
    refine Outcome.bind (Outcome.mapM_same (Agree.zipIdx rows 0) ?_) ?_
    · rintro ⟨row,place⟩ ⟨row',_⟩ ⟨here,rfl⟩
      unfold bodyRow
      rw [isSelected_same matched.selectedRow]
      refine Outcome.bind (Outcome.mapM_same columns fun c c' facing => bodyCell_agree beside.legible facing here) ?_
      rintro cells _ rfl
      exact Outcome.of_eq rfl
    · rintro body _ rfl
      exact Outcome.of_eq rfl

-- One case a kind. Texts and flags are the same on both sides, and handlers name the same signals.
theorem assemble_agree {element element' : Element} (pair : Counterpart host a b element element')
    (inside panel : List Markup) :
    Outcome (· = ·) (assemble a element inside panel host) (assemble b element' inside panel host) := by
  have alike := pair.alike
  have there := pair.there
  have kind := pair.kind
  have drawn {left right : Table} (body : element.body = .table left) (body' : element'.body = .table right) :=
    pair.beside body body'
  obtain ⟨_,_,_,ids,_,_,bodies⟩ := pair
  obtain ⟨id,style,visible,body⟩ := element
  obtain ⟨id',style',visible',body'⟩ := element'
  dsimp only at ids bodies drawn
  subst ids
  unfold assemble
  rw [kind]
  refine Outcome.bind (Outcome.of_eq (css_alike (alike.get "style"))) ?_
  rintro written _ rfl
  cases bodies with
  | text | label => exact .ok rfl
  | button label click disabled => exact .ok (by rw [eventAttr_alike "click" click])
  | textInput value placeholder inputType change submit disabled formId =>
    exact .ok (by rw [eventAttr_alike "change" change,eventAttr_alike "submit" submit])
  | gauge =>
    dsimp only
    rw [Chart.gaugeText_alike alike there]
    exact Outcome.of_eq rfl
  | sparkline =>
    dsimp only
    rw [Chart.sparklineText_alike (alike.get "data")]
    exact Outcome.of_eq rfl
  | barChart =>
    dsimp only
    rw [Chart.barText_alike alike]
    exact Outcome.of_eq rfl
  | lineChart =>
    dsimp only
    rw [Chart.lineText_alike alike]
    exact Outcome.of_eq rfl
  | table => exact table_agree (drawn rfl rfl)
  | column columns => exact .ok (by rw [columns.header])
  | menu title position inside =>
    refine Outcome.bind (Label.menuTitle_alike alike there host) ?_
    intro title title' titles
    exact .ok (by rw [titles.text?])
  | @menuItem label action action' actions disabled icon shortcut _ _ submenu =>
    have clicks : Alike? (Table.Level host) (if disabled then none else action) (if disabled then none else action') := by
      cases disabled
      · exact actions
      · exact .none
    dsimp only
    rw [Label.menuItem_alike alike there,eventAttr_alike "click" clicks,Agree.isSome_eq submenu]
    exact Outcome.of_eq rfl
  | contextMenu => exact .ok rfl
  | tabs activeTab position change => exact .ok (by rw [eventAttr_alike "change" change])
  | tab =>
    dsimp only
    rw [Label.tab_alike alike there]
    exact Outcome.of_eq rfl
  | treeView nodes selected expanded select toggle =>
    exact .ok (by rw [eventAttr_alike "select" select,eventAttr_alike "toggle" toggle])
  | treeNode label values expanded icon iconExpanded selectable children =>
    dsimp only
    rw [Label.treeNode_alike alike there,Agree.isSome_eq children]
    exact Outcome.of_eq rfl
  | vbox | hbox => exact Outcome.of_eq (box_alike _ _ alike inside)

theorem backend_keeps (host : Host) : backend.Keeps host (· = ·) := by
  refine ⟨rfl,?_,?_⟩
  · intro a b alike
    refine (Outcome.bind (Outcome.of_eq (css_alike (alike.get "style"))) ?_).eq
    intro _ _ _
    exact .ok rfl
  · intro a b element element' inside inside' panel panel' pair insides panels
    rw [List.forall₂_eq_eq_eq] at insides panels
    subst insides panels
    exact assemble_agree pair inside panel

end Trifold.Web
