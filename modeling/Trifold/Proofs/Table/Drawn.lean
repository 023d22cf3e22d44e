import Trifold.Proofs.Element.Held
import Trifold.Proofs.Number.Count
import Trifold.Proofs.Value.Json

namespace Trifold.Table
open Value Number
open Ask (Answers Ends)
open List (Forall₂)

variable {host : Host} {value c row : Value} {table : Table}

-- The widest column that a frame can be drawn around.
def longest : Nat := 536870886

-- A column without a formatter, and with a finite width where one is declared.
structure Plain (c : Value) : Prop where
  formatter : (column c).formatter = none
  width : ∀ w ∈ (column c).width, isFinite w = true

-- A column that is not declared narrower than its frame.
def Broad (c : Value) : Prop := ∀ w ∈ (column c).width, -3 < w

-- The texts of a column are not too long for a frame.
def Brief (host : Host) (rows : List Value) (c : Value) : Prop :=
  (column c).header.length ≤ longest ∧ ∀ row ∈ rows, ∀ s, cell c row host = .ok (text s) → s.length ≤ longest

-- A column that is not declared wider than any frame, or whose texts are brief.
def Short (host : Host) (rows : List Value) (c : Value) : Prop :=
  (∀ w ∈ (column c).width, ¬ Float.ofNat longest < w) ∨ Brief host rows c

structure Roomy (host : Host) (rows : List Value) (c : Value) : Prop extends Plain c where
  broad : Broad c
  short : Short host rows c

-- A value that describes a column, its header and its width included.
structure Headed (c : Value) : Prop extends Describes c where
  header : c.get "header" = text (column c).header
  width : c.get "width" = ofNumber? (column c).width

theorem headed_of_sound (sound : Element.column? c = some c) : Headed c := by
  refine ⟨describes_of_sound sound,?_,?_⟩
  all_goals
    simp only [Element.column?,Option.bind_eq_bind,Option.bind_eq_some_iff] at sound
    obtain ⟨_,_,_,_,it,read,_⟩ := sound
    have held := Element.columnBody?_held read
  · have header : c.get "header" = text it.header := held ("header",text it.header) (by simp [Body.fields])
    rw [column,header]
    rfl
  · have width : c.get "width" = ofNumber? it.width := held ("width",ofNumber? it.width) (by simp [Body.fields])
    rw [column,width]
    cases it.width <;> rfl

theorem columns_sound {element : Element} (sound : Element.ofValue? value = some element)
    (body : element.body = .table table) : ∀ c ∈ table.columns, Element.column? c = some c := by
  have read := Element.body?_of sound
  rw [Element.kind,body] at read
  simp only [Body.kind,Element.body?,Option.bind_eq_bind,Option.bind_eq_some_iff,Option.pure_def,Option.some.injEq,
    Body.table.injEq] at read
  obtain ⟨_,_,columns,declared,_,_,_,_,_,_,_,_,_,_,_,_,rfl⟩ := read
  exact (listOf_kept column?_kept declared).2

theorem headed_columnValue (key : String) : Headed (columnValue key) := ⟨describes_columnValue key,rfl,rfl⟩

theorem roomy_columnValue (rows : List Value) (key : String) : Roomy host rows (columnValue key) :=
  ⟨⟨rfl,fun _ declared => (by cases declared)⟩,fun _ declared => (by cases declared),.inl fun _ declared => (by cases declared)⟩

theorem shown_each {P : Value → Prop} (inferred : ∀ key, P (columnValue key)) (declared : ∀ c ∈ table.columns, P c) :
    ∀ c ∈ shownValues table, P c := by
  intro c there
  unfold shownValues at there
  split at there
  · cases first : table.data.head? with
    | none =>
      rw [first] at there
      cases there
    | some row =>
      rw [first] at there
      obtain ⟨key,_,rfl⟩ := List.mem_map.mp there
      exact inferred key
  · exact declared c there

theorem shown_plain (plain : ∀ c ∈ table.columns, Plain c) (sound : ∀ c ∈ table.columns, Element.column? c = some c) :
    ∀ c ∈ shownValues table, Headed c ∧ Plain c :=
  shown_each (fun key => ⟨headed_columnValue key,(@roomy_columnValue .silent [] key).toPlain⟩) fun c there =>
    ⟨headed_of_sound (sound c there),plain c there⟩

theorem shown_roomy (plain : ∀ c ∈ table.columns, Plain c) (broad : ∀ c ∈ table.columns, Broad c)
    (short : ∀ c ∈ table.columns, Short host table.data c) : ∀ c ∈ shownValues table, Roomy host table.data c :=
  shown_each (roomy_columnValue _) fun c there => ⟨plain c there,broad c there,short c there⟩

theorem plainCell_ends {held : Value} (found : Found held) : Ends host (plainCell held) := by
  unfold plainCell
  split
  · exact .pure _
  · split
    · exact Ends.map (found.json? (by assumption))
    · exact found.toText (Bool.eq_false_of_not_eq_true (by assumption))

theorem cell_answers (describes : Describes c) (plain : (column c).formatter = none) (json : Json row) :
    Answers host (fun shown => ∃ s, shown = text s) (cell c row) := by
  rw [cell_eq describes,plain]
  exact (plainCell_ends (json.read _)).bind fun s => .pure ⟨s,rfl⟩

theorem orderText_ends {held : Value} (found : Found held) : Ends host (orderText held) := by
  unfold orderText
  split
  · exact found.json? (by assumption)
  · exact (found.toText (Bool.eq_false_of_not_eq_true (by assumption))).map

theorem compare_ends {v w : Value} (left : Found v) (right : Found w) : Ends host (compare v w) := by
  have texts : Ends host (textOrder v w) := (orderText_ends left).bind fun _ => (orderText_ends right).map
  rw [compare_eq]
  split
  · exact .pure _
  · unfold flagOrder
    split
    · exact .pure _
    · exact texts

theorem goesBefore_ends (ascending : Bool) {k l : Keyed} (left : Found k.value) (right : Found l.value) :
    Ends host (goesBefore ascending k l) := by
  refine Ends.map ?_
  unfold placed
  split
  all_goals first | exact .pure _ | exact (compare_ends left right).map

theorem sort_answers {rows : List Value} (json : ∀ row ∈ rows, Json row) (key : String) (direction : Value) :
    Answers host (fun sorted => ∀ row ∈ sorted, row ∈ rows) (sort rows (text key) direction) := by
  have keys : Answers host (fun all => ∀ k ∈ all, k.row ∈ rows ∧ Found k.value) (keyed rows (text key)) := by
    refine (Answers.mapM (Q := fun k => k.row ∈ rows ∧ Found k.value) ?_).mono fun _ all => all.2
    rintro ⟨row,place⟩ there
    have listed := List.fst_mem_of_mem_zipIdx there
    dsimp only
    rw [readBy_text]
    exact .pure ⟨listed,(json row listed).read key⟩
  refine keys.bind fun all entries => ?_
  refine (Runs.sort_answers (P := fun k => k.row ∈ rows ∧ Found k.value) ?_ entries).bind fun sorted kept => ?_
  · exact fun k l first second => goesBefore_ends _ first.2 second.2
  · refine .pure fun row there => ?_
    obtain ⟨k,listed,rfl⟩ := List.mem_map.mp there
    exact (kept k listed).1

theorem rows_answers (holds : Holds value table) (json : ∀ row ∈ table.data, Json row) :
    Answers host (fun shown => ∃ all, shown = list all ∧ ∀ row ∈ all, row ∈ table.data) (rows value) := by
  rw [rows_eq holds]
  split
  · exact .pure ⟨_,rfl,fun _ => id⟩
  · split
    · exact .pure ⟨_,rfl,fun _ => id⟩
    · exact (sort_answers json _ _).bind fun all kept => .pure ⟨all,rfl,kept⟩

theorem means_longest : Means (Float.ofNat longest) longest := means_ofNat (by decide)

-- The length of a text. Where all texts are short, so is that one.
def Counted (short : Prop) (x : Float) : Prop := ∃ n, x = Float.ofNat n ∧ (short → n ≤ longest)

theorem counted_larger {short : Prop} {x y : Float} (left : Counted short x) (right : Counted short y) :
    Counted short (larger x y) := by
  rcases larger_cases x y with same | same
  · rwa [same]
  · rwa [same]

def Wide (w : Float) : Prop := ∃ q, Means w q ∧ -3 < q ∧ q ≤ longest

theorem means_cap : Means widthCap (999 : ℕ) := means_ofNat (n := 999) (by norm_num)

theorem means_frame : Means (-3) (-3) := by
  have seen : view (-3) = .finite .negative (3 * 2 ^ 51) (-51) (by decide) := rfl
  rw [Means,seen,amount?,toward]
  norm_num

theorem width_wide {short : Prop} {x : Float} {declared : Option Float} (counted : Counted short x)
    (finite : ∀ w ∈ declared, isFinite w = true) (broad : ∀ w ∈ declared, -3 < w)
    (room : (∀ w ∈ declared, ¬ Float.ofNat longest < w) ∨ short) : Wide (smaller x (declared.getD widthCap)) := by
  obtain ⟨n,rfl,few⟩ := counted
  have bounded : longest ≤ 2 ^ 53 := by decide
  cases declared with
  | none => exact smaller_count (by norm_num) means_cap (by norm_num) bounded (.inl (by exact_mod_cast (by decide : 999 ≤ longest)))
  | some w =>
    obtain ⟨q,means⟩ := means_finite (finite w rfl)
    refine smaller_count (by norm_num) means ((lt_means means_frame means).mp (broad w rfl)) bounded ?_
    rcases room with narrow | short
    · exact .inl (le_of_not_gt (mt (lt_means means_longest means).mpr (narrow w rfl)))
    · exact .inr (few short)

theorem width_answers {rows : List Value} (headed : Headed c) (plain : Plain c) (json : ∀ row ∈ rows, Json row) :
    Answers host (fun w => ∃ x, Counted (Brief host rows c) x ∧ w = smaller x ((column c).width.getD widthCap))
      (width (list rows) c) := by
  have longest : Answers host (Counted (Brief host rows c)) (rows.foldlM (fun widest row => do
      return larger widest (← length (← cell c row))) 0) := by
    refine Answers.foldlM ⟨0,rfl,fun _ => Nat.zero_le _⟩ ?_
    intro row there widest counted
    obtain ⟨_,told,s,rfl⟩ := cell_answers headed.toDescribes plain.formatter (json row there)
    refine Answers.bind ⟨_,told,rfl⟩ ?_
    rintro _ rfl
    exact .pure (counted_larger counted ⟨_,rfl,fun brief => brief.2 row there s told⟩)
  have cap : toNumber ((c.get "width").orElse (number widthCap)) = pure ((column c).width.getD widthCap) := by
    rw [headed.width]
    cases (column c).width <;> rfl
  unfold width
  rw [headed.header,cap]
  refine longest.bind ?_
  intro widest counted
  exact .pure ⟨_,counted_larger ⟨_,rfl,fun brief => brief.1⟩ counted,rfl⟩

theorem layout_answers (holds : Holds value table) (shown : ∀ c ∈ shownValues table, Headed c ∧ Plain c)
    (json : ∀ row ∈ table.data, Json row) :
    Answers host (fun layout => layout.columns = list (shownValues table) ∧ ∃ all, layout.rows = list all ∧
      (∀ row ∈ all, row ∈ table.data) ∧ Forall₂ (fun c w => ∃ x, Counted (Brief host table.data c) x ∧
        w = smaller x ((column c).width.getD widthCap)) (shownValues table) layout.widths) (layout value) := by
  unfold layout
  rw [columnsShown_eq holds]
  refine (rows_answers holds json).bind ?_
  rintro _ ⟨all,rfl,kept⟩
  have widths : Answers host (Forall₂ (fun c w => ∃ x, Counted (Brief host table.data c) x ∧
      w = smaller x ((column c).width.getD widthCap)) (shownValues table)) ((shownValues table).mapM (width (list all))) := by
    refine Answers.mapM_each fun c there => ?_
    obtain ⟨headed,plain⟩ := shown c there
    refine (width_answers headed plain fun row inside => json row (kept row inside)).mono ?_
    rintro _ ⟨x,⟨n,rfl,few⟩,rfl⟩
    exact ⟨_,⟨n,rfl,fun brief => few ⟨brief.1,fun row inside => brief.2 row (kept row inside)⟩⟩,rfl⟩
  exact widths.bind fun widths each => .pure ⟨rfl,all,rfl,kept,each⟩

theorem repeated_ends {s : String} {x : Float} (counted : ∃ r, Text.repeat? s x = .ok r) : Ends host (repeated s x) := by
  obtain ⟨r,counted⟩ := counted
  exact .ofMisuse counted trivial

theorem align_ends (s : String) {w : Float} (wide : Wide w) (side : Value) : Ends host (align (text s) (number w) side) := by
  obtain ⟨q,means,_,small⟩ := wide
  have most : AtMost (w - Float.ofNat s.length) longest :=
    (sub_atMost means s.length).imp_right fun ⟨a,here,le⟩ => ⟨a,here,le.trans small⟩
  have padding := larger_zero most (Nat.cast_nonneg _)
  have room : longest * Text.unitLength " " ≤ Text.lengthLimit := by decide
  have blanks {x : Float} (within : Within x longest) : Ends host (repeated " " x) :=
    repeated_ends (repeat?_within within room)
  obtain ⟨a,counted,le,left⟩ := half_within padding
  unfold align
  change Ends host (if isSame side (text "right") then _ else if isSame side (text "center") then _ else _)
  split
  · exact (blanks padding).bind fun _ => Ends.pure _
  · split
    · refine (blanks (left.mono le)).bind fun _ => ?_
      exact (blanks ((rest_within counted left).mono le)).bind fun _ => Ends.pure _
    · exact (blanks padding).bind fun _ => Ends.pure _

theorem separator_ends {widths : List Float} (wide : ∀ w ∈ widths, Wide w) : Ends host (separator widths) := by
  refine Ends.map (Ends.mapM ?_)
  intro w there
  obtain ⟨q,means,above,small⟩ := wide w there
  exact repeated_ends (repeat?_frame means above small (by decide) (by decide))

theorem headerCell_ends (headed : Headed c) {w : Float} (wide : Wide w) : Ends host (headerCell value c w) := by
  unfold headerCell
  rw [headed.header]
  exact Ends.map (align_ends _ wide _)

theorem bodyLine_ends {shown : List (Value × Float)} (json : Json row)
    (each : ∀ m ∈ shown, Describes m.1 ∧ (column m.1).formatter = none ∧ Wide m.2) : Ends host (bodyLine shown row) := by
  refine Ends.map (Ends.mapM ?_)
  rintro ⟨c,w⟩ there
  obtain ⟨describes,plain,wide⟩ := each _ there
  refine (cell_answers describes plain json).bind ?_
  rintro _ ⟨s,rfl⟩
  exact align_ends s wide _

theorem lines_ends (holds : Holds value table) (headed : ∀ c ∈ shownValues table, Headed c)
    (roomy : ∀ c ∈ shownValues table, Roomy host table.data c) (json : ∀ row ∈ table.data, Json row) :
    Ends host (lines value) := by
  refine (layout_answers holds (fun c there => ⟨headed c there,(roomy c there).toPlain⟩) json).bind ?_
  rintro ⟨_,widths,_⟩ ⟨rfl,all,rfl,kept,each⟩
  have measured : ∀ m ∈ (shownValues table).zip widths, m.1 ∈ shownValues table ∧ Wide m.2 := by
    rintro ⟨c,w⟩ there
    obtain ⟨x,counted,rfl⟩ := List.forall₂_zip each there
    have inside := (List.of_mem_zip there).1
    have roomy := roomy c inside
    exact ⟨inside,width_wide counted roomy.width roomy.broad roomy.short⟩
  have wide : ∀ w ∈ widths, Wide w := by
    intro w there
    obtain ⟨c,inside,x,counted,rfl⟩ := Agree.partner each.flip w there
    have roomy := roomy c inside
    exact width_wide counted roomy.width roomy.broad roomy.short
  have listed (member : String) (items : List Value) : listItems member (list items) = pure items := rfl
  simp only [listed,pure_bind]
  split
  · exact Ends.pure _
  · refine (separator_ends wide).bind fun separator => ?_
    refine (Ends.mapM fun m there => headerCell_ends (headed _ (measured m there).1) (measured m there).2).bind fun header => ?_
    refine Ends.map (Ends.mapM ?_)
    intro row there
    refine bodyLine_ends (json row (kept row there)) ?_
    intro m beside
    obtain ⟨inside,wide⟩ := measured m beside
    exact ⟨(headed _ inside).toDescribes,(roomy _ inside).formatter,wide⟩

theorem drawn_ends (holds : Holds value table) (headed : ∀ c ∈ shownValues table, Headed c)
    (roomy : ∀ c ∈ shownValues table, Roomy host table.data c) (json : ∀ row ∈ table.data, Json row) :
    Ends host (drawn value) := Ends.map (lines_ends holds headed roomy json)

theorem separator_refused {widths : List Float} {x w : Float} {short : Prop} (counted : Counted short x)
    (finite : isFinite w = true) (narrow : ¬ -3 < w) (there : smaller x w ∈ widths) : ¬ Ends host (separator widths) := by
  rintro ⟨line,drawn,_⟩
  obtain ⟨n,rfl,_⟩ := counted
  obtain ⟨q,means⟩ := means_finite finite
  have below : q ≤ -3 := le_of_not_gt (mt (lt_means means_frame means).mpr narrow)
  obtain ⟨dashes,repeated,_⟩ := Ask.ok_of_bind drawn
  obtain ⟨_,_,told⟩ := Agree.partner (Ask.mapM_ok.mp repeated) _ there
  rw [smaller_negative n means (by linarith),Table.repeated,repeat?_frameless "-" means below] at told
  cases told

theorem broad_of_drawn (holds : Holds value table) (shown : ∀ c ∈ shownValues table, Headed c ∧ Plain c)
    (json : ∀ row ∈ table.data, Json row) (ends : Ends host (drawn value)) : ∀ c ∈ shownValues table, Broad c := by
  obtain ⟨_,ended,_⟩ := ends
  obtain ⟨all,ended,_⟩ := Ask.ok_of_bind ended
  obtain ⟨⟨_,widths,_⟩,told,rfl,rows,rfl,_,each⟩ := layout_answers holds shown json
  rw [lines,Ask.bind_ok told] at ended
  have listed (member : String) (items : List Value) : listItems member (list items) = pure items := rfl
  simp only [listed,pure_bind] at ended
  intro c there w declared
  by_contra narrow
  obtain ⟨_,inside,x,counted,rfl⟩ := Agree.partner each c there
  rw [declared,Option.getD_some] at inside
  split at ended
  · rename_i none
    rw [List.isEmpty_iff] at none
    rw [none] at there
    cases there
  · obtain ⟨line,drawn,_⟩ := Ask.ok_of_bind ended
    exact separator_refused counted ((shown c there).2.width w declared) narrow inside ⟨line,drawn,trivial⟩

end Trifold.Table
