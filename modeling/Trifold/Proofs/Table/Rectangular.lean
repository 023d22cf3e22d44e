import Trifold.Proofs.Table.Drawn
import Trifold.Proofs.Table.Ordered

namespace Trifold.Table
open Value Number
open List (Forall₂)

variable {host : Host} {value c row side : Value} {table : Table} {s padded told : String}

-- Columns without a width of their own, and texts no longer than the widest that a column then gets.
structure Fitting (host : Host) (table : Table) : Prop where
  unset : ∀ c ∈ table.columns, (column c).width = none
  header : ∀ c ∈ shownColumns table, c.header.length ≤ 999
  formatted : ∀ c ∈ table.columns, ∀ f ∈ (column c).formatter, ∀ row ∈ table.data, ∀ shown,
    f.apply [Attributes.read (column c).key row] host = .ok shown → ∃ s, shown = text s
  cell : ∀ c ∈ shownValues table, ∀ row ∈ table.data, ∀ s, cell c row host = .ok (text s) → s.length ≤ 999

-- A text between blanks, so wide in all.
def Padded (width : Nat) (s padded : String) : Prop :=
  ∃ before after, before + s.length + after = width ∧ padded = Text.repeated before " " ++ s ++ Text.repeated after " "

-- The line of a row: a cell for each column, with the text that the column shows of the row, as wide as the column.
def Carries (host : Host) (columns : List (Value × Nat)) (row : Value) (line : String) : Prop :=
  ∃ cells, line = framed cells ∧
    Forall₂ (fun column padded => ∃ s, cell column.1 row host = .ok (text s) ∧ Padded column.2 s padded) columns cells

theorem length_repeated (n : Nat) (s : String) : (Text.repeated n s).length = n * s.length := by
  rw [Text.repeated]
  induction n with
  | zero => simp
  | succ n ih => rw [List.replicate_succ,String.join_cons,String.length_append,ih,Nat.succ_mul,Nat.add_comm]

theorem Padded.length {width : Nat} (fills : Padded width s padded) : padded.length = width := by
  obtain ⟨before,after,whole,rfl⟩ := fills
  have blank : " ".length = 1 := rfl
  rw [String.length_append,String.length_append,length_repeated,length_repeated,blank]
  omega

theorem length_intercalate (between : String) (first : String) (rest : List String) :
    (between.intercalate (first :: rest)).length + between.length =
      ((first :: rest).map fun part => part.length + between.length).sum := by
  induction rest generalizing first with
  | nil => simp
  | cons next rest ih =>
    rw [String.intercalate_cons_cons,String.length_append,String.length_append,List.map_cons,List.sum_cons,← ih next]
    omega

theorem length_framed {cells : List String} (some : cells ≠ []) :
    (framed cells).length = (cells.map fun cell => cell.length + 3).sum + 1 := by
  cases cells with
  | nil => exact absurd rfl some
  | cons first rest =>
    have counted := length_intercalate " | " first rest
    have between : " | ".length = 3 := rfl
    have left : "| ".length = 2 := rfl
    have right : " |".length = 2 := rfl
    rw [between] at counted
    rw [framed,String.length_append,String.length_append,left,right]
    omega

theorem repeated_whole {x : Float} {n : Nat} (means : Means x n) (some : s ≠ "") (ended : repeated s x host = .ok told) :
    told = Text.repeated n s := by
  cases counted : Text.repeat? s x with
  | error cause =>
    rw [repeated,Ask.ofMisuse,counted] at ended
    cases ended
  | ok r =>
    rw [repeated,Ask.ofMisuse,counted] at ended
    cases ended
    exact repeat?_whole means some counted

theorem align_padded {w : Nat} (fits : s.length ≤ w) (small : w ≤ 2 ^ 53)
    (ended : align (text s) (number (Float.ofNat w)) side host = .ok padded) : Padded w s padded := by
  have free : Means (Float.ofNat w - Float.ofNat s.length) (w - s.length : ℕ) :=
    means_sub (means_ofNat small) (means_ofNat (fits.trans small)) fits small
  have padding : Means (larger 0 (Float.ofNat w - Float.ofNat s.length)) (w - s.length : ℕ) := by
    have means := larger_means means_zero free
    rwa [max_eq_right (Nat.cast_nonneg _)] at means
  have less : w - s.length ≤ 2 ^ 53 := (Nat.sub_le _ _).trans small
  obtain ⟨k,most,half⟩ := means_half padding less
  have rest := means_sub padding half most less
  have blank : " " ≠ "" := by decide
  -- The content is asked for between the blanks, and is there at once.
  have laid : (if isSame side (text "right") then do
        let before ← repeated " " (larger 0 (Float.ofNat w - Float.ofNat s.length))
        return before ++ s
      else if isSame side (text "center") then do
        let left := floor (larger 0 (Float.ofNat w - Float.ofNat s.length) / 2)
        let before ← repeated " " left
        let after ← repeated " " (larger 0 (Float.ofNat w - Float.ofNat s.length) - left)
        return before ++ s ++ after
      else do
        let after ← repeated " " (larger 0 (Float.ofNat w - Float.ofNat s.length))
        return s ++ after : Ask String) host = .ok padded := ended
  split at laid
  · obtain ⟨before,led,laid⟩ := Ask.ok_of_bind laid
    cases laid
    cases repeated_whole padding blank led
    exact ⟨w - s.length,0,by omega,by simp [Text.repeated]⟩
  · split at laid
    · obtain ⟨before,led,laid⟩ := Ask.ok_of_bind laid
      obtain ⟨after,closed,laid⟩ := Ask.ok_of_bind laid
      cases laid
      cases repeated_whole half blank led
      cases repeated_whole rest blank closed
      exact ⟨k,w - s.length - k,by omega,rfl⟩
    · obtain ⟨after,closed,laid⟩ := Ask.ok_of_bind laid
      cases laid
      cases repeated_whole padding blank closed
      exact ⟨0,w - s.length,by omega,by simp [Text.repeated]⟩

-- A column that nothing but the longest of its texts sets the width of.
structure Narrow (host : Host) (rows : List Value) (c : Value) : Prop extends Headed c where
  unset : (column c).width = none
  short : (column c).header.length ≤ 999
  texts : ∀ row ∈ rows, ∀ shown, cell c row host = .ok shown → ∃ s, shown = text s ∧ s.length ≤ 999

-- A width that every text of a column fits.
structure Spans (host : Host) (rows : List Value) (c : Value) (w : Nat) : Prop where
  small : w ≤ 999
  header : (column c).header.length ≤ w
  cell : ∀ row ∈ rows, ∃ s, cell c row host = .ok (text s) ∧ s.length ≤ w

theorem longest_spans {rows : List Value} {widest : Nat} {longest : Float} (begun : widest ≤ 999)
    (texts : ∀ row ∈ rows, ∀ shown, cell c row host = .ok shown → ∃ s, shown = text s ∧ s.length ≤ 999)
    (ended : (rows.foldlM (fun widest row => do return larger widest (← length (← cell c row)))
      (Float.ofNat widest) : Ask Float) host = .ok longest) :
    ∃ w, longest = Float.ofNat w ∧ widest ≤ w ∧ w ≤ 999 ∧ ∀ row ∈ rows, ∃ s, cell c row host = .ok (text s) ∧ s.length ≤ w := by
  induction rows generalizing widest with
  | nil =>
    cases ended
    exact ⟨widest,rfl,le_rfl,begun,List.forall_mem_nil _⟩
  | cons row rest ih =>
    obtain ⟨here,later⟩ := List.forall_mem_cons.mp texts
    rw [List.foldlM_cons] at ended
    obtain ⟨next,step,ended⟩ := Ask.ok_of_bind ended
    obtain ⟨shown,drawn,step⟩ := Ask.ok_of_bind step
    obtain ⟨s,rfl,short⟩ := here shown drawn
    have wider : next = Float.ofNat (max widest s.length) := by
      cases step
      exact larger_ofNat (begun.trans (by norm_num)) (short.trans (by norm_num))
    rw [wider] at ended
    obtain ⟨w,rfl,more,small,fits⟩ := ih (max_le begun short) later ended
    obtain ⟨before,here⟩ := max_le_iff.mp more
    exact ⟨w,rfl,before,small,List.forall_mem_cons.mpr ⟨⟨s,drawn,here⟩,fits⟩⟩

theorem width_spans {rows : List Value} {x : Float} (narrow : Narrow host rows c)
    (ended : width (list rows) c host = .ok x) : ∃ w, x = Float.ofNat w ∧ Spans host rows c w := by
  have listed : listItems "rows.reduce" (list rows) = pure rows := rfl
  have cap : toNumber ((c.get "width").orElse (number widthCap)) = pure widthCap := by
    rw [narrow.width,narrow.unset]
    rfl
  unfold width at ended
  rw [narrow.header,cap,listed] at ended
  simp only [pure_bind] at ended
  obtain ⟨longest,measured,ended⟩ := Ask.ok_of_bind ended
  obtain ⟨w,rfl,-,small,fits⟩ := longest_spans (Nat.zero_le 999) narrow.texts measured
  have counted : larger (Float.ofNat (column c).header.length) (Float.ofNat w) = Float.ofNat (max (column c).header.length w) :=
    larger_ofNat (narrow.short.trans (by norm_num)) (small.trans (by norm_num))
  have most := max_le narrow.short small
  refine ⟨max (column c).header.length w,?_,most,le_max_left _ _,?_⟩
  · cases ended
    rw [counted]
    exact smaller_ofNat means_cap (most.trans (by norm_num)) (by exact_mod_cast most)
  · intro row there
    obtain ⟨s,drawn,short⟩ := fits row there
    exact ⟨s,drawn,short.trans (le_max_right _ _)⟩

theorem widths_spans {rows cs : List Value} {widths : List Float}
    (measured : Forall₂ (fun c x => Narrow host rows c ∧ width (list rows) c host = .ok x) cs widths) :
    ∃ counts, widths = counts.map Float.ofNat ∧ Forall₂ (fun c w => Headed c ∧ Spans host rows c w) cs counts := by
  induction measured with
  | nil => exact ⟨[],rfl,.nil⟩
  | cons here _ ih =>
    obtain ⟨narrow,ended⟩ := here
    obtain ⟨w,rfl,spans⟩ := width_spans narrow ended
    obtain ⟨counts,rfl,later⟩ := ih
    exact ⟨w :: counts,rfl,.cons ⟨narrow.toHeaded,spans⟩ later⟩

theorem rows_perm {all : Value} (holds : Holds value table) (ended : rows value host = .ok all) :
    ∃ shown, all = list shown ∧ shown.Perm table.data := by
  rw [rows_eq holds] at ended
  split at ended
  · cases ended
    exact ⟨_,rfl,.refl _⟩
  · cases sorted : table.sortColumn with
    | none =>
      rw [sorted] at ended
      cases ended
      exact ⟨_,rfl,.refl _⟩
    | some key =>
      rw [sorted] at ended
      obtain ⟨sorted,told,ended⟩ := Ask.ok_of_bind ended
      cases ended
      exact ⟨sorted,rfl,sort_keeps told⟩

theorem cell_text {shown : Value} (describes : Describes c)
    (formatted : ∀ f ∈ (column c).formatter, ∀ shown, f.apply [Attributes.read (column c).key row] host = .ok shown →
      ∃ s, shown = text s) (ended : cell c row host = .ok shown) : ∃ s, shown = text s := by
  rw [cell_eq describes] at ended
  split at ended
  · rename_i f given
    exact formatted f given shown ended
  · obtain ⟨s,_,ended⟩ := Ask.ok_of_bind ended
    cases ended
    exact ⟨s,rfl⟩

theorem shown_narrow (headed : ∀ c ∈ table.columns, Headed c) (fitting : Fitting host table) :
    ∀ c ∈ shownValues table, Narrow host table.data c := by
  intro c there
  have short := fitting.header (column c) (List.mem_map_of_mem there)
  have narrow := fitting.cell c there
  unfold shownValues at there
  split at there
  · cases first : table.data.head? with
    | none =>
      rw [first] at there
      cases there
    | some row =>
      rw [first] at there
      obtain ⟨key,_,rfl⟩ := List.mem_map.mp there
      refine ⟨headed_columnValue key,rfl,short,fun row inside shown drawn => ?_⟩
      obtain ⟨s,rfl⟩ := cell_text (describes_columnValue key) (fun f given => nomatch given) drawn
      exact ⟨s,rfl,narrow row inside s drawn⟩
  · refine ⟨headed c there,fitting.unset c there,short,fun row inside shown drawn => ?_⟩
    obtain ⟨s,rfl⟩ := cell_text (headed c there).toDescribes (fun f given => fitting.formatted c there f given row inside) drawn
    exact ⟨s,rfl,narrow row inside s drawn⟩

theorem layout_spans {laid : Layout} (holds : Holds value table) (headed : ∀ c ∈ table.columns, Headed c)
    (fitting : Fitting host table) (ended : layout value host = .ok laid) : ∃ shown widths,
      laid = ⟨list (shownValues table),widths.map Float.ofNat,list shown⟩ ∧ shown.Perm table.data ∧
        Forall₂ (fun c w => Headed c ∧ Spans host shown c w) (shownValues table) widths := by
  have listed : listItems "columns.map" (list (shownValues table)) = pure (shownValues table) := rfl
  unfold layout at ended
  rw [columnsShown_eq holds] at ended
  simp only [pure_bind,listed] at ended
  obtain ⟨_,ordered,ended⟩ := Ask.ok_of_bind ended
  obtain ⟨shown,rfl,same⟩ := rows_perm holds ordered
  obtain ⟨widths,measured,ended⟩ := Ask.ok_of_bind ended
  cases ended
  have narrow : ∀ c ∈ shownValues table, Narrow host shown c := by
    intro c there
    have narrow := shown_narrow headed fitting c there
    exact { narrow with texts := fun row inside => narrow.texts row (same.mem_iff.mp inside) }
  obtain ⟨counts,rfl,spans⟩ := widths_spans ((List.forall₂_and_left _ _).mpr ⟨narrow,Ask.mapM_ok.mp measured⟩)
  exact ⟨shown,counts,rfl,same,spans⟩

def ruled (widths : List Nat) : Nat := (widths.map (· + 3)).sum + 1

theorem separator_length {widths : List Nat} (some : widths ≠ []) (small : ∀ w ∈ widths, w ≤ 999)
    (ended : separator (widths.map Float.ofNat) host = .ok told) : told.length = ruled widths := by
  obtain ⟨dashes,drawn,ended⟩ := Ask.ok_of_bind ended
  cases ended
  rw [Ask.mapM_ok,List.forall₂_map_left_iff] at drawn
  have lengths : dashes.map (fun dash => dash.length + 1) = widths.map (· + 3) := by
    refine (Agree.map_eq ((List.forall₂_and_left _ _).mpr ⟨small,drawn⟩) ?_).symm
    rintro w dash ⟨small,ended⟩
    have means : Means (Float.ofNat w + 2) (w + 2 : ℕ) :=
      means_add (means_ofNat (small.trans (by norm_num))) means_two (by omega)
    have one : "-".length = 1 := rfl
    rw [repeated_whole means (by decide) ended,length_repeated,one]
    omega
  cases dashes with
  | nil =>
    simp at drawn
    exact absurd drawn some
  | cons first rest =>
    have counted := length_intercalate "+" first rest
    have plus : "+".length = 1 := rfl
    rw [plus,lengths] at counted
    rw [String.length_append,String.length_append,plus,ruled,← counted]
    omega

theorem carries_length {columns : List (Value × Nat)} {line : String} (some : columns ≠ [])
    (carries : Carries host columns row line) : line.length = ruled (columns.map (·.2)) := by
  obtain ⟨cells,rfl,each⟩ := carries
  have filled : cells ≠ [] := by
    rintro rfl
    exact some (List.forall₂_nil_right_iff.mp each)
  rw [length_framed filled,ruled,List.map_map]
  congr 2
  refine (Agree.map_eq each ?_).symm
  rintro column padded ⟨s,_,fills⟩
  rw [fills.length]
  rfl

theorem bodyLine_carries {columns : List (Value × Nat)} {rows : List Value} (there : row ∈ rows)
    (spans : ∀ m ∈ columns, Spans host rows m.1 m.2)
    (ended : bodyLine (columns.map (Prod.map id Float.ofNat)) row host = .ok told) : Carries host columns row told := by
  obtain ⟨cells,drawn,ended⟩ := Ask.ok_of_bind ended
  cases ended
  rw [Ask.mapM_ok,List.forall₂_map_left_iff] at drawn
  refine ⟨cells,rfl,((List.forall₂_and_left _ _).mpr ⟨spans,drawn⟩).imp ?_⟩
  rintro ⟨c,w⟩ padded ⟨spans,ended⟩
  obtain ⟨s,shown,fits⟩ := spans.cell row there
  obtain ⟨_,again,ended⟩ := Ask.ok_of_bind ended
  cases shown.symm.trans again
  exact ⟨s,shown,align_padded fits (spans.small.trans (by norm_num)) ended⟩

theorem headerCell_length {w : Nat} (holds : Holds value table) (headed : Headed c) (fits : (column c).header.length ≤ w)
    (small : w ≤ 2 ^ 53) (ended : headerCell value c (Float.ofNat w) host = .ok told) :
    told.length = w + if table.sortColumn = some (column c).key then 2 else 0 := by
  have sorted : isSame (value.get "sortColumn") (c.get "key") = decide (table.sortColumn = some (column c).key) := by
    rw [holds.sortColumn,headed.key]
    cases table.sortColumn with
    | none => rfl
    | some name => exact (Bool.beq_eq_decide_eq _ _).trans (by simp)
  have glyph (direction : Value) : (" " ++ sortGlyph direction).length = 2 := by
    unfold sortGlyph
    split <;> rfl
  unfold headerCell at ended
  rw [headed.header,sorted] at ended
  obtain ⟨padded,aligned,ended⟩ := Ask.ok_of_bind ended
  cases ended
  rw [String.length_append,(align_padded fits small aligned).length]
  by_cases here : table.sortColumn = some (column c).key
  · rw [if_pos here,if_pos (decide_eq_true here),glyph]
  · rw [if_neg here,if_neg (by simpa using here)]
    rfl

theorem sum_glyphs (sorted : Value → Prop) [DecidablePred sorted] (columns : List (Value × Nat)) :
    (columns.map fun m => m.2 + (if sorted m.1 then 2 else 0) + 3).sum =
      (columns.map fun m => m.2 + 3).sum + 2 * (columns.map (·.1)).countP (sorted ·) := by
  induction columns with
  | nil => rfl
  | cons m rest ih =>
    rw [List.map_cons,List.sum_cons,ih,List.map_cons,List.sum_cons,List.map_cons,List.countP_cons]
    by_cases here : sorted m.1
    · simp only [here,decide_true,if_true]
      omega
    · simp only [here,decide_false,if_false,Bool.false_eq_true]
      omega

theorem header_length {columns : List (Value × Nat)} {cells : List String} (shown : columns ≠ []) (holds : Holds value table)
    (headed : ∀ m ∈ columns, Headed m.1 ∧ (column m.1).header.length ≤ m.2 ∧ m.2 ≤ 999)
    (ended : (columns.map (Prod.map id Float.ofNat)).mapM (fun m => headerCell value m.1 m.2) host = .ok cells) :
    (framed cells).length = ruled (columns.map (·.2)) +
      2 * ((columns.map (·.1)).map column).countP (fun c => table.sortColumn = some c.key) := by
  rw [Ask.mapM_ok,List.forall₂_map_left_iff] at ended
  have filled : cells ≠ [] := by
    rintro rfl
    exact shown (List.forall₂_nil_right_iff.mp ended)
  have lengths : cells.map (fun cell => cell.length + 3) =
      columns.map fun m => m.2 + (if table.sortColumn = some (column m.1).key then 2 else 0) + 3 := by
    refine (Agree.map_eq ((List.forall₂_and_left _ _).mpr ⟨headed,ended⟩) ?_).symm
    rintro ⟨c,w⟩ cell ⟨⟨headed,fits,small⟩,ended⟩
    rw [headerCell_length holds headed fits (small.trans (by norm_num)) ended]
  rw [length_framed filled,lengths,sum_glyphs fun c => table.sortColumn = some (column c).key,ruled]
  simp only [List.countP_map,List.map_map,Function.comp_def]
  omega

-- The lines are the header between two rules, a line for each row, and a rule again. Every line is as long as a rule, but
-- for the header that has two more for each column the rows are sorted by. The line of a row carries what its columns show
-- of it, in their order, and each text is whole between the blanks that its column leaves.
theorem lines_rectangular {all : List String} (holds : Holds value table) (headed : ∀ c ∈ table.columns, Headed c)
    (fitting : Fitting host table) (declared : shownValues table ≠ []) (ended : lines value host = .ok all) :
    ∃ rule header body shown widths,
      all = [rule, header, rule] ++ body ++ [rule] ∧ all.length = table.data.length + 4 ∧
      layout value host = .ok ⟨list (shownValues table),widths.map Float.ofNat,list shown⟩ ∧ shown.Perm table.data ∧
      widths.length = (shownValues table).length ∧
      (∀ line ∈ body, line.length = rule.length) ∧
      header.length = rule.length + 2 * (shownColumns table).countP (fun c => table.sortColumn = some c.key) ∧
      Forall₂ (Carries host ((shownValues table).zip widths)) shown body := by
  have listed (member : String) (items : List Value) : listItems member (list items) = pure items := rfl
  unfold lines at ended
  obtain ⟨_,laid,ended⟩ := Ask.ok_of_bind ended
  obtain ⟨shown,widths,rfl,same,spans⟩ := layout_spans holds headed fitting laid
  have filled : (shownValues table).isEmpty = false := by simpa using declared
  simp only [listed,pure_bind,filled,Bool.false_eq_true,if_false,List.zip_map_right] at ended
  obtain ⟨rule,ruled,ended⟩ := Ask.ok_of_bind ended
  obtain ⟨cells,headers,ended⟩ := Ask.ok_of_bind ended
  obtain ⟨body,rows,ended⟩ := Ask.ok_of_bind ended
  cases ended
  have counted := spans.length_eq
  have each : ∀ m ∈ (shownValues table).zip widths, Headed m.1 ∧ Spans host shown m.1 m.2 :=
    fun m there => List.forall₂_zip spans there
  have firsts : ((shownValues table).zip widths).map (·.1) = shownValues table := List.map_fst_zip counted.le
  have seconds : ((shownValues table).zip widths).map (·.2) = widths := List.map_snd_zip counted.ge
  have measured : (shownValues table).zip widths ≠ [] := by
    intro none
    rw [none] at firsts
    exact declared firsts.symm
  have narrow : ∀ w ∈ widths, w ≤ 999 := by
    intro w there
    rw [← seconds] at there
    obtain ⟨m,inside,rfl⟩ := List.mem_map.mp there
    exact (each m inside).2.small
  have across : rule.length = Table.ruled widths := by
    refine separator_length ?_ narrow ruled
    rintro rfl
    exact declared (List.length_eq_zero_iff.mp counted)
  have drawn : Forall₂ (Carries host ((shownValues table).zip widths)) shown body := by
    refine ((List.forall₂_and_left _ _).mpr ⟨fun _ => id,Ask.mapM_ok.mp rows⟩).imp ?_
    rintro row line ⟨there,ended⟩
    exact bodyLine_carries there (fun m inside => (each m inside).2) ended
  refine ⟨rule,framed cells,body,shown,widths,rfl,?_,laid,same,counted.symm,?_,?_,drawn⟩
  · have lengths := drawn.length_eq
    have kept := same.length_eq
    simp only [List.length_append,List.length_cons,List.length_nil]
    omega
  · have long : Forall₂ (fun line _ => line.length = rule.length ∧ True) body shown :=
      drawn.flip.imp fun line row carries => ⟨by rw [carries_length measured carries,seconds,across],trivial⟩
    exact ((List.forall₂_and_left _ _).mp long).1
  · have long := header_length measured holds (fun m there => ⟨(each m there).1,(each m there).2.header,(each m there).2.small⟩) headers
    rw [firsts,seconds] at long
    rw [long,across]
    rfl

-- Fruit by name, with what a formatter answers for the weight of each.
def fruit : Value := object [("type",text "column"), ("key",text "name"), ("header",text "Fruit"), ("sortable",bool true),
  ("align",text "center"), ("visible",bool true)]

def weight : Value := object [("type",text "column"), ("key",text "weight"), ("header",text "W"), ("sortable",bool false),
  ("formatter",function (.host "grams" 1 "weight => weight + ' g'")), ("align",text "right"), ("visible",bool true)]

def weighed : Table :=
  { data := [object [("name",text "fig"), ("weight",number 12)], object [("name",text "quince"), ("weight",number 12)]],
    columns := [fruit, weight],
    selectedRow := none,
    height := none,
    onRowSelect := none,
    onSort := none,
    sortColumn := some "name",
    sortDirection := "asc" }

def weighedValue : Value := object [("type",text "table"), ("data",list weighed.data), ("columns",list weighed.columns),
  ("sortColumn",text "name"), ("sortDirection",text "asc"), ("visible",bool true)]

def scales : Host := { Host.silent with call := fun _ _ => .returned (text "12 g") }

theorem weighed_sound : Element.ofValue? weighedValue = some ⟨none,none,true,.table weighed⟩ := rfl

theorem weighed_holds : Holds weighedValue weighed := holds_of_sound weighed_sound rfl

theorem weighed_headed : ∀ c ∈ weighed.columns, Headed c :=
  fun c there => headed_of_sound (columns_sound weighed_sound rfl c there)

theorem weighed_fitting : Fitting scales weighed := by
  have cells : ∀ c ∈ [fruit, weight], ∀ row ∈ weighed.data,
      cell c row scales ∈ [.ok (text "fig"), .ok (text "quince"), .ok (text "12 g")] := by
    intro c there row inside
    fin_cases there <;> fin_cases inside
    · exact .head _
    · exact .tail _ (.head _)
    · exact .tail _ (.tail _ (.head _))
    · exact .tail _ (.tail _ (.head _))
  refine ⟨?_,?_,?_,?_⟩
  · intro c there
    fin_cases there <;> rfl
  · decide
  · intro c there f given row inside shown told
    fin_cases there <;> cases given
    cases told
    exact ⟨_,rfl⟩
  · intro c there row inside s drawn
    have listed := cells c there row inside
    rw [drawn] at listed
    simp only [List.mem_cons,Except.ok.injEq,text.injEq,List.not_mem_nil,or_false] at listed
    rcases listed with rfl | rfl | rfl <;> decide

theorem weighed_rows : rows weighedValue scales = .ok (list weighed.data) := by
  have texts : ∀ value ∈ present "name" weighed.data, ∃ s, value = text s := by
    change ∀ value ∈ [text "fig", text "quince"], _
    simp
  have settled : sort weighed.data (text "name") (text "asc") scales = .ok weighed.data := by
    refine sort_settled (consistent_texts texts) (List.pairwise_pair.mpr ?_)
    have below : rank scales (isAscending (text "asc")) (text "fig") (text "quince") = .lt := rfl
    exact below ▸ nofun
  rw [rows_eq weighed_holds]
  exact (Ask.bind_ok settled).trans rfl

set_option maxRecDepth 4000 in
theorem weighed_lines : lines weighedValue scales = .ok ["+--------+------+", "| Fruit  ↑ |    W |", "+--------+------+",
    "|  fig   | 12 g |", "| quince | 12 g |", "+--------+------+"] := by
  have laid : layout weighedValue scales = .ok ⟨list weighed.columns,[6, 4],list weighed.data⟩ := by
    unfold layout
    rw [columnsShown_eq weighed_holds,pure_bind,Ask.bind_ok weighed_rows]
    rfl
  unfold lines
  rw [Ask.bind_ok laid]
  rfl

theorem lines_rectangular_weighed :
    let all := ["+--------+------+", "| Fruit  ↑ |    W |", "+--------+------+", "|  fig   | 12 g |", "| quince | 12 g |",
      "+--------+------+"]
    (Holds weighedValue weighed ∧ (∀ c ∈ weighed.columns, Headed c) ∧ Fitting scales weighed ∧ shownValues weighed ≠ [] ∧
      lines weighedValue scales = .ok all) ∧
    ∃ rule header body shown widths,
      all = [rule, header, rule] ++ body ++ [rule] ∧ all.length = weighed.data.length + 4 ∧
      layout weighedValue scales = .ok ⟨list (shownValues weighed),widths.map Float.ofNat,list shown⟩ ∧
      shown.Perm weighed.data ∧ widths.length = (shownValues weighed).length ∧
      (∀ line ∈ body, line.length = rule.length) ∧
      header.length = rule.length + 2 * (shownColumns weighed).countP (fun c => weighed.sortColumn = some c.key) ∧
      Forall₂ (Carries scales ((shownValues weighed).zip widths)) shown body :=
  ⟨⟨weighed_holds,weighed_headed,weighed_fitting,nofun,weighed_lines⟩,
    lines_rectangular weighed_holds weighed_headed weighed_fitting nofun weighed_lines⟩

end Trifold.Table
