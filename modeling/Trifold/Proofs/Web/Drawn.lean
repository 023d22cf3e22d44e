import Trifold.Proofs.Element.Drawn
import Trifold.Web.Convert

namespace Trifold.Web
open Value
open Ask (Answers Ends)

variable {host : Host} {value style : Value}

-- What a keyword means: a text, or what every record has under that name.
inductive Meant : Value → Prop
  | word (s : String) : Meant (text s)
  | inherited {value : Value} (entry : Inherited value) : Meant value

theorem Meant.shown (meant : Meant value) : Ends host value.shown := by
  cases meant with
  | word s => exact .pure _
  | inherited entry =>
    have ends := @Inherited.toText _ host entry
    cases entry <;> exact ends

theorem Meant.itemText (meant : Meant value) : Ends host (Alike.itemText value) := by
  cases meant with
  | word s => exact .pure _
  | inherited entry =>
    have ends := @Inherited.toText _ host entry
    cases entry with
    | absent => exact .pure _
    | ancestor => exact ends
    | member => exact ends

theorem fetchBy_answers {meanings : Fields Value} (each : ∀ entry ∈ meanings, ∃ s, entry.2 = text s) (key : String) :
    Answers host Meant (fetchBy (text key) (object meanings)) := by
  have meant : fetchBy (text key) (object meanings) = (pure ((Fields.get? key meanings).getD (inherited key)) : Ask Value) := rfl
  rw [meant]
  cases found : Fields.get? key meanings with
  | none => exact .pure (.inherited (inherited_standard .record key))
  | some held =>
    obtain ⟨s,same⟩ := each _ (Fields.mem_of_get? found)
    dsimp only at same
    subst same
    exact .pure (.word s)

abbrev Declared (host : Host) (declarations : Ask (List Value)) : Prop :=
  Answers host (fun declared => ∀ entry ∈ declared, Meant entry) declarations

theorem colorDeclaration_answers (before : String) {color : Value} (colored : Style.Colored color) :
    Declared host (colorDeclaration before color) := by
  cases colored with
  | absent => exact .pure (List.forall_mem_nil _)
  | name s => exact .pure (List.forall_mem_singleton.mpr (.word _))
  | channels xs =>
    have channel (position : Nat) : Ends host (shown ((xs.map number).getD position absent)) := by
      rw [List.getD_eq_getElem?_getD,List.getElem?_map]
      cases xs[position]? <;> exact Ends.pure _
    refine Answers.bind (P := fun color => ∃ s, color = text s) ?_ ?_
    · exact (channel 0).bind fun _ => (channel 1).bind fun _ => (channel 2).bind fun _ => .pure ⟨_,rfl⟩
    · rintro _ ⟨s,rfl⟩
      exact .pure (List.forall_mem_singleton.mpr (.word _))

theorem styleCss_answers (written : Style.Written style) : Declared host (styleCss style) := by
  obtain ⟨there,fg,bg,attrs,same,texts⟩ := written
  have given : style.isAbsent = false := by cases style <;> first | rfl | cases there
  have listed : items (list attrs) = pure attrs := rfl
  unfold styleCss
  rw [given,fetch_there there,same,listed]
  simp only [Bool.false_eq_true,if_false,pure_bind]
  refine (colorDeclaration_answers _ fg).bind fun front first => ?_
  refine (colorDeclaration_answers _ bg).bind fun back second => ?_
  refine (Answers.mapM (Q := Meant) ?_).bind fun declared each => .pure ?_
  · intro attr there
    obtain ⟨s,rfl⟩ := texts attr there
    exact fetchBy_answers (by simp) s
  · intro entry inside
    simp only [List.mem_append] at inside
    rcases inside with (here | here) | here
    · exact first entry here
    · exact second entry here
    · exact each.2 entry (List.mem_filter.mp here).1

theorem joined_ends {declarations : List Value} (each : ∀ entry ∈ declarations, Meant entry) : Ends host (joined declarations) := by
  unfold joined
  rw [Alike.itemTexts_mapM]
  exact Ends.map (Ends.mapM fun entry there => (each entry there).itemText)

theorem style_answers {given : Option Value} (styled : ∀ style ∈ given, Style.Written style) : Declared host (styleCss (ofOption given)) := by
  cases given with
  | none => exact .pure (List.forall_mem_nil _)
  | some style => exact styleCss_answers (styled style rfl)

theorem css_ends {given : Option Value} (styled : ∀ style ∈ given, Style.Written style) : Ends host (css (ofOption given)) :=
  Answers.bind (style_answers styled) fun _ => joined_ends

theorem keyword_answers (before : String) {meanings : Fields Value} (each : ∀ entry ∈ meanings, ∃ s, entry.2 = text s)
    (given : Option String) : Declared host (keyword before (object meanings) (ofText? given)) := by
  cases given with
  | none => exact .pure (List.forall_mem_nil _)
  | some name =>
    refine (fetchBy_answers each name).bind fun meant known => ?_
    exact known.shown.bind fun _ => .pure (List.forall_mem_singleton.mpr (.word _))

theorem gap_answers (spacing : Float) : Declared host (gapDeclaration (number spacing)) := by
  have asked : (isAbove (number spacing) (number 0) : Ask Bool) =
      pure (Amount.below? (.number 0) (.number spacing) == .some true) := rfl
  unfold gapDeclaration
  rw [asked]
  simp only [pure_bind]
  split
  · exact .pure (List.forall_mem_nil _)
  · split
    · exact .pure (List.forall_mem_singleton.mpr (.word _))
    · exact .pure (List.forall_mem_nil _)

theorem padding_answers (padding : Option Float) : Declared host (declaration "padding: " "px" (ofNumber? padding)) := by
  cases padding with
  | none => exact .pure (List.forall_mem_nil _)
  | some x => exact .pure (List.forall_mem_singleton.mpr (.word _))

theorem box_ends (id : Attribute) (direction : String) {it : Box} {given : Option Value} (inside : List Markup)
    (spacing : value.get "spacing" = number it.spacing) (padding : value.get "padding" = ofNumber? it.padding)
    (across : value.get "alignItems" = ofText? it.alignItems) (along : value.get "justifyContent" = ofText? it.justifyContent)
    (style : value.get "style" = ofOption given) (styled : ∀ style ∈ given, Style.Written style) :
    Ends host (box id direction value inside) := by
  unfold box
  rw [spacing,padding,across,along,style]
  refine Ends.map ?_
  have layout : Declared host (layoutCss (object [("direction",text direction), ("spacing",number it.spacing),
      ("padding",ofNumber? it.padding), ("align",ofText? it.alignItems), ("justify",ofText? it.justifyContent),
      ("style",ofOption given)])) := by
    refine (gap_answers it.spacing).bind fun gap first => ?_
    refine (padding_answers it.padding).bind fun padding second => ?_
    refine (keyword_answers _ (by simp) it.alignItems).bind fun align third => ?_
    refine (keyword_answers _ (by simp) it.justifyContent).bind fun justify fourth => .pure ?_
    intro entry there
    simp only [List.mem_append,List.mem_cons,List.not_mem_nil,or_false] at there
    rcases there with ((((rfl | rfl) | here) | here) | here) | here
    · exact .word _
    · exact .word _
    · exact first entry here
    · exact second entry here
    · exact third entry here
    · exact fourth entry here
  refine layout.bind fun declared each => ?_
  refine (style_answers styled).bind fun own each' => joined_ends ?_
  intro entry there
  exact (List.mem_append.mp there).elim (each entry) (each' entry)

open Table in
theorem bodyCell_ends {row column : Value} (describes : Describes column) (plain : (Table.column column).formatter = none)
    (json : Json row) : Ends host (bodyCell row column) := by
  refine (cell_answers describes plain json).bind ?_
  rintro _ ⟨s,rfl⟩
  exact Ends.pure _

open Table in
theorem table_ends (id styled : Attribute) {it : Table} (holds : Holds value it)
    (shown : ∀ c ∈ shownValues it, Headed c ∧ Plain c) (json : ∀ row ∈ it.data, Json row) :
    Ends host (table id styled value it) := by
  unfold table
  dsimp only
  split
  · exact Ends.pure _
  · refine (rows_answers holds json).bind ?_
    rintro _ ⟨all,rfl,kept⟩
    have listed : items (list all) = pure all := rfl
    rw [listed,pure_bind]
    refine Ends.map (Ends.mapM ?_)
    rintro ⟨row,place⟩ there
    refine Ends.map (Ends.mapM fun c inside => ?_)
    obtain ⟨headed,plain⟩ := shown c inside
    exact bodyCell_ends headed.toDescribes plain.formatter (json row (kept row (List.fst_mem_of_mem_zipIdx there)))

-- Nothing is framed, so no width is too narrow.
theorem assemble_ends {element : Element} (sound : Element.ofValue? value = some element)
    (measured : element.body.Measured) (styled : ∀ style ∈ element.style, Style.Written style) (inside panel : List Markup) :
    Ends host (assemble value element inside panel) := by
  have there := Element.there_of_sound sound
  have plotted := @Chart.data_sound value element sound
  have style : value.get "style" = ofOption element.style := Element.get_of_sound sound rfl
  have captions := @Caption.assemble_ends host _ _ sound measured
  unfold assemble
  rw [style]
  refine (css_ends styled).bind fun written => ?_
  obtain ⟨id,style,visible,body⟩ := element
  cases body with
  | gauge | sparkline | barChart | lineChart =>
    obtain ⟨words,told,_⟩ := captions trivial trivial [] []
    obtain ⟨shown,told,_⟩ := Ask.ok_of_bind told
    exact Ends.map ⟨shown,told,trivial⟩
  | table it =>
    have shown := Table.shown_plain measured.2 (Table.columns_sound sound rfl)
    exact table_ends _ _ (Table.holds_of_sound sound rfl) shown measured.1
  | menuItem it => exact Ends.map (Label.menuItem_ends sound)
  | menu it =>
    dsimp only
    rw [Label.menuTitle_sound sound]
    exact Ends.pure _
  | tab it => exact Ends.map (Label.tab_ends sound)
  | treeNode it => exact Ends.map (Label.treeNode_ends sound)
  | vbox it | hbox it =>
    exact box_ends _ _ _ (Element.get_of_sound sound rfl) (Element.get_of_sound sound rfl) (Element.get_of_sound sound rfl)
      (Element.get_of_sound sound rfl) (Element.get_of_sound sound rfl) styled
  | _ => exact Ends.pure _

end Trifold.Web
