import Trifold.Proofs.Number.Bounds
import Trifold.Proofs.Table.Cells
import Trifold.Proofs.Table.Runs

namespace Trifold.Table
open Value Agree
open List (Forall₂)

variable {host : Host} {value a b : Value} {table left right : Table}

-- A value that describes a column.
structure Describes (value : Value) : Prop where
  there : value.isMissing = false
  key : value.get "key" = text (column value).key
  formatter : value.get "formatter" = ofOption ((column value).formatter.map function)

-- What the value of a sound table holds of it.
structure Holds (value : Value) (table : Table) : Prop where
  there : value.isMissing = false
  data : value.get "data" = list table.data
  columns : value.get "columns" = list table.columns
  sortColumn : value.get "sortColumn" = ofText? table.sortColumn
  sortDirection : value.get "sortDirection" = text table.sortDirection
  described : ∀ column ∈ table.columns, Describes column

theorem eq_text {s : String} (read : value.text? = some s) : value = text s := by
  cases value <;> cases read
  rfl

theorem eq_function {f : Function} (read : value.function? = some f) : value = function f := by
  cases value <;> cases read
  rfl

theorem get_of_optional {α : Type} {read : Value → Option α} {write : α → Value}
    (back : ∀ {v a}, read v = some a → v = write a) {key : String} {held : Option α}
    (found : Element.optional read key value = some held) : value.get key = ofOption (held.map write) := by
  unfold Element.optional at found
  split at found
  case h_1 nothing =>
    cases found
    exact nothing
  case h_2 =>
    obtain ⟨a,there,rfl⟩ := Option.map_eq_some_iff.mp found
    exact back there

theorem listOf_kept {read : Value → Option Value} (kept : ∀ v w, read v = some w → v = w) {items : List Value}
    (listed : Element.listOf read value = some items) : value = list items ∧ ∀ item ∈ items, read item = some item := by
  obtain ⟨given,shape,each⟩ := Option.bind_eq_some_iff.mp listed
  rw [Element.list?_eq_some shape]
  clear listed shape
  suffices given = items ∧ ∀ item ∈ items, read item = some item by simpa using this
  induction given generalizing items with
  | nil =>
    cases each
    exact ⟨rfl,nofun⟩
  | cons item rest ih =>
    rw [List.mapM_cons] at each
    obtain ⟨first,here,each⟩ := Option.bind_eq_some_iff.mp each
    obtain ⟨others,later,each⟩ := Option.bind_eq_some_iff.mp each
    cases each
    cases kept _ _ here
    obtain ⟨rfl,sound⟩ := ih later
    exact ⟨rfl,List.forall_mem_cons.mpr ⟨here,sound⟩⟩

theorem row?_kept (v w : Value) (kept : Element.row? v = some w) : v = w := by
  unfold Element.row? at kept
  split at kept <;> cases kept
  rfl

theorem column?_kept (v w : Value) (kept : Element.column? v = some w) : v = w := by
  simp only [Element.column?,Option.bind_eq_bind,Option.bind_eq_some_iff] at kept
  obtain ⟨kind,_,_,_,_,_,same⟩ := kept
  split at same <;> cases same
  rfl

theorem there_of_kind {kind : Kind} (known : Element.kind? value = some kind) : value.isMissing = false := by
  unfold Element.kind? at known
  cases value <;> first | rfl | cases known

theorem describes_of_sound (sound : Element.column? value = some value) : Describes value := by
  simp only [Element.column?,Option.bind_eq_bind,Option.bind_eq_some_iff] at sound
  obtain ⟨kind,known,_,_,found,read,_⟩ := sound
  simp only [Element.columnBody?,Option.bind_eq_bind,Option.bind_eq_some_iff] at read
  obtain ⟨key,named,_,_,_,_,formatter,asked,_⟩ := read
  refine ⟨there_of_kind known,?_,?_⟩
  · rw [column,eq_text named]
    rfl
  · rw [column,get_of_optional eq_function asked]
    cases formatter <;> rfl

theorem describes_columnValue (key : String) : Describes (columnValue key) := ⟨rfl,rfl,rfl⟩

theorem holds_of_sound {element : Element} (sound : Element.ofValue? value = some element)
    (body : element.body = .table table) : Holds value table := by
  simp only [Element.ofValue?,Option.bind_eq_bind,Option.bind_eq_some_iff] at sound
  obtain ⟨kind,known,_,_,found,read,same⟩ := sound
  cases same
  subst body
  cases kind <;>
    simp only [Element.body?,Element.box?,Option.bind_eq_bind,Option.bind_eq_some_iff,Option.pure_def,Option.some.injEq,
      reduceCtorEq,and_false,exists_false,Body.table.injEq] at read
  case table =>
    obtain ⟨data,rows,columns,declared,_,_,_,_,_,_,_,_,sorted,key,direction,facing,rfl⟩ := read
    obtain ⟨rows,_⟩ := listOf_kept row?_kept rows
    obtain ⟨declared,described⟩ := listOf_kept column?_kept declared
    exact ⟨there_of_kind known,rows,declared,get_of_optional eq_text key,eq_text facing,
      fun column there => describes_of_sound (described column there)⟩

theorem shownValues_described (holds : Holds value table) : ∀ column ∈ shownValues table, Describes column := by
  intro column there
  unfold shownValues at there
  split at there
  · cases first : table.data.head? with
    | none =>
      rw [first] at there
      cases there
    | some row =>
      rw [first] at there
      obtain ⟨key,_,rfl⟩ := List.mem_map.mp there
      exact describes_columnValue key
  · exact holds.described column there

theorem below?_positive {x : Float} (positive : 0 < x) : Amount.below? (.number 0) (.number x) = some true := by
  have view_zero : Number.view 0 = .zero .positive := rfl
  have zero : Number.isNaN 0 = false := rfl
  have counted : Number.isNaN x = false := by
    rw [Bool.eq_false_iff]
    intro none
    rw [Number.lt_view,Number.isNaN_iff.mp none,view_zero] at positive
    cases positive
  simp only [Amount.below?,counted,zero,Bool.or_self,Bool.false_eq_true,if_false,decide_eq_true positive]

theorem isAbove_count {n : Nat} (some : n ≠ 0) : isAbove (ofNat n) (number 0) = pure true := by
  show (pure (Amount.below? (.number 0) (.number (Float.ofNat n)) == .some true) : Ask Bool) = pure true
  rw [below?_positive (Number.ofNat_positive some)]
  rfl

theorem columnsOf_absent : columnsOf absent = [] := by
  simp [columnsOf,Text.sorted,unique,Attributes.entries,fields?]

-- The count of the declared columns is asked for as a number.
theorem columnsShown_eq (holds : Holds value table) : columnsShown value = pure (list (shownValues table)) := by
  have declared : columnsShown value = do
      if ← isAbove (ofNat table.columns.length) (number 0) then return list table.columns
      return list (columnsOf (← (list table.data).fetch "0")) := by
    unfold columnsShown
    rw [fetch_there holds.there,holds.columns,fetch_there holds.there,holds.data]
    rfl
  rw [declared,shownValues]
  cases table.columns with
  | nil =>
    show (pure (list (columnsOf ((list table.data).get "0"))) : Ask Value) = _
    cases table.data with
    | nil =>
      have none : (list []).get "0" = absent := rfl
      rw [none,columnsOf_absent]
      rfl
    | cons => rfl
  | cons column rest =>
    rw [isAbove_count (n := (column :: rest).length) (Nat.succ_ne_zero _)]
    rfl

-- Two sound tables that read alike and show the same.
structure Beside (host : Host) (a b : Value) (left right : Table) : Prop where
  alike : Alike (Level host) a b
  matched : Table.Matched (Level host) left right
  legible : Legible host left right
  holds : Holds a left
  holds' : Holds b right

-- Two columns of such tables.
structure Facing (host : Host) (left : Table) (a b : Value) : Prop where
  alike : Alike (Level host) a b
  describes : Describes a
  describes' : Describes b
  shown : column a ∈ shownColumns left

-- Two rows at one place of such tables.
structure Rows (host : Host) (left right : Table) (a b : Value) : Prop where
  alike : Alike (Level host) a b
  there : (a,b) ∈ left.data.zip right.data

theorem columnValue_alike (key : String) : Alike (Level host) (columnValue key) (columnValue key) := by
  have once : ["type", "key", "header", "sortable", "align", "visible"].Nodup := by decide
  exact .itself ⟨once,trivial,trivial,trivial,trivial,trivial,trivial,trivial⟩ (level_refl host)

theorem facing_shown (beside : Beside host a b left right) :
    Forall₂ (Facing host left) (shownValues left) (shownValues right) := by
  have described := shownValues_described beside.holds
  have described' := shownValues_described beside.holds'
  suffices Forall₂ (Alike (Level host)) (shownValues left) (shownValues right) by
    refine List.forall₂_iff_zip.mpr ⟨this.length_eq,?_⟩
    intro c c' there
    obtain ⟨inside,inside'⟩ := List.of_mem_zip there
    exact ⟨List.forall₂_zip this there,described c inside,described' c' inside',List.mem_map_of_mem inside⟩
  have empty := isEmpty_eq beside.matched.columns
  unfold shownValues
  rw [← empty]
  split
  case isTrue none =>
    have rows := beside.matched.data
    have keys := beside.legible.keys (List.isEmpty_iff.mp none)
    generalize left.data = data at rows keys
    generalize right.data = data' at rows keys
    cases rows with
    | nil => exact .nil
    | cons =>
      show Forall₂ _ (columnsOf _) (columnsOf _)
      rw [columnsOf_eq (keys _ _ rfl rfl)]
      refine List.forall₂_same.mpr ?_
      intro c there
      obtain ⟨key,_,rfl⟩ := List.mem_map.mp there
      exact columnValue_alike key
  case isFalse => exact beside.matched.columns

theorem plainCell_alike (alike : Alike (Level host) a b) (written : Written host a b) :
    plainCell a host = plainCell b host := by
  unfold plainCell
  rw [alike.isMissing,← alike.isObject]
  split
  · rfl
  · split
    case isTrue object =>
      show ((json? a host).bind fun written => .ok (written.getD "")) = (json? b host).bind fun written => .ok (written.getD "")
      rw [written object]
    case isFalse => rw [alike.toText]

theorem readBy_text (key : String) (row : Value) : Attributes.readBy (text key) row = pure (Attributes.read key row) := by
  unfold Attributes.readBy
  cases row <;> rfl

theorem cell_eq (describes : Describes value) (row : Value) : cell value row =
    match (column value).formatter with
    | some f => f.apply [Attributes.read (column value).key row]
    | none => do return text (← plainCell (Attributes.read (column value).key row)) := by
  unfold cell
  rw [fetch_there describes.there,describes.key,describes.formatter]
  cases (column value).formatter <;> simp only [pure_bind,readBy_text] <;> rfl

theorem column_key (alike : Alike (Level host) a b) : (column a).key = (column b).key := by
  rw [column,column,(alike.get "key").text?]

theorem column_formatter (alike : Alike (Level host) a b) : (column a).formatter = (column b).formatter :=
  (alike.get "formatter").function?

theorem cell_agree (legible : Legible host left right) {c c' row row' : Value} (facing : Facing host left c c')
    (rows : Rows host left right row row') : cell c row host = cell c' row' host := by
  have shown := legible.cells row row' rows.there (column c) facing.shown
  rw [cell_eq facing.describes,cell_eq facing.describes',← column_key facing.alike,← column_formatter facing.alike]
  unfold Shown at shown
  cases found : (column c).formatter with
  | some f =>
    rw [found] at shown
    exact shown
  | none =>
    rw [found] at shown
    exact congrArg (Except.map text) (plainCell_alike (read_alike rows.alike _) shown)

theorem orderText_alike (alike : Alike (Level host) a b) (written : Written host a b) :
    orderText a host = orderText b host := by
  unfold orderText
  rw [← alike.isObject]
  split
  case isTrue object => exact written object
  case isFalse => rw [alike.toText]

-- Values that are ordered in the same way.
structure Ordered (host : Host) (a b : Value) : Prop where
  alike : Alike (Level host) a b
  written : Written host a b

def numberOrder (x y : Float) : Float :=
  if Number.isNaN x && Number.isNaN y then 0 else if Number.isNaN x then 1 else if Number.isNaN y then -1 else x - y

def textOrder (v w : Value) : Ask Float := do
  let left ← orderText v
  let right ← orderText w
  return textDifference left right

def flagOrder (p q : Option Bool) (otherwise : Ask Float) : Ask Float :=
  match p, q with
  | some p, some q => return (if p then 1 else 0) - (if q then 1 else 0)
  | _, _ => otherwise

-- How two values are compared, as one question about what each of them is.
theorem compare_eq (v w : Value) : compare v w =
    match v.number?, w.number? with
    | some x, some y => pure (numberOrder x y)
    | _, _ => flagOrder v.bool? w.bool? (textOrder v w) := by
  cases v <;> cases w <;> rfl

theorem numberOrder_same {x x' y y' : Float} (left : Number.same x x' = true) (right : Number.same y y' = true) :
    Number.same (numberOrder x y) (numberOrder x' y') = true := by
  unfold numberOrder
  rw [Number.isNaN_same left,Number.isNaN_same right]
  repeat' split
  · exact Number.same_refl _
  · exact Number.same_refl _
  · exact Number.same_refl _
  · exact Number.same_sub left right

theorem compare_agree {v v' w w' : Value} (first : Ordered host v v') (second : Ordered host w w') :
    Outcome SameNumber (compare v w host) (compare v' w' host) := by
  have numbers := first.alike.number?
  have numbers' := second.alike.number?
  have texts : Outcome SameNumber (textOrder v w host) (textOrder v' w' host) := by
    refine Outcome.bind (Outcome.of_eq (orderText_alike first.alike first.written)) ?_
    rintro left _ rfl
    refine Outcome.bind (Outcome.of_eq (orderText_alike second.alike second.written)) ?_
    rintro right _ rfl
    exact .ok (Number.same_refl _)
  have others : Outcome SameNumber (flagOrder v'.bool? w'.bool? (textOrder v w) host)
      (flagOrder v'.bool? w'.bool? (textOrder v' w') host) := by
    cases v'.bool? with
    | none => exact texts
    | some p => cases w'.bool? with
      | none => exact texts
      | some q => exact .ok (Number.same_refl _)
  rw [compare_eq,compare_eq,first.alike.bool?,second.alike.bool?]
  generalize v.number? = x at numbers
  generalize v'.number? = x' at numbers
  generalize w.number? = y at numbers'
  generalize w'.number? = y' at numbers'
  cases numbers with
  | none => exact others
  | some equal => cases numbers' with
    | none => exact others
    | some equal' => exact .ok (numberOrder_same equal equal')

theorem placed_agree (ascending : Bool) {v v' w w' : Value} (first : Ordered host v v') (second : Ordered host w w') :
    Outcome SameNumber (placed ascending v w host) (placed ascending v' w' host) := by
  unfold placed
  rw [first.alike.isMissing,second.alike.isMissing]
  cases v'.isMissing <;> cases w'.isMissing
  · refine Outcome.bind (compare_agree first second) ?_
    intro x y equal
    refine .ok ?_
    cases ascending
    · exact Number.same_neg equal
    · exact equal
  all_goals exact .ok (Number.same_refl _)

structure Keyed.Agree (host : Host) (left right : Table) (k k' : Keyed) : Prop where
  row : Rows host left right k.row k'.row
  place : k.place = k'.place
  value : Ordered host k.value k'.value

theorem goesBefore_agree (ascending : Bool) {k k' l l' : Keyed} (first : Keyed.Agree host left right k k')
    (second : Keyed.Agree host left right l l') :
    Outcome (· = ·) (goesBefore ascending k l host) (goesBefore ascending k' l' host) := by
  refine Outcome.bind (placed_agree ascending first.value second.value) ?_
  intro x y equal
  refine .ok ?_
  have zero := Number.beq_same equal (Number.same_refl 0)
  have below := Number.lt_same equal (Number.same_refl 0)
  rw [zero,first.place,second.place]
  simp only [below]

theorem rows_beside (beside : Beside host a b left right) : Forall₂ (Rows host left right) left.data right.data := by
  refine List.forall₂_iff_zip.mpr ⟨beside.matched.data.length_eq,?_⟩
  intro row row' there
  exact ⟨List.forall₂_zip beside.matched.data there,there⟩

theorem keyed_agree (beside : Beside host a b left right) {key : String} (sorted : left.sortColumn = some key) :
    Outcome (Forall₂ (Keyed.Agree host left right)) (keyed left.data (text key) host)
      (keyed right.data (text key) host) := by
  unfold keyed
  refine Outcome.mapM (Agree.zipIdx (rows_beside beside) 0) ?_
  rintro ⟨row,place⟩ ⟨row',_⟩ ⟨rows,rfl⟩
  have written := beside.legible.order row row' rows.there key sorted
  simp only [readBy_text]
  exact .ok ⟨rows,rfl,read_alike rows.alike key,written⟩

theorem rows_eq (holds : Holds value table) : rows value =
    if isSame (ofNat table.data.length) (number 0) then pure (list table.data)
    else match table.sortColumn with
      | none => pure (list table.data)
      | some key => do return list (← sort table.data (text key) (text table.sortDirection)) := by
  have counted : fetch "length" (list table.data) = pure (ofNat table.data.length) := rfl
  unfold rows sortRows
  rw [fetch_there holds.there,holds.data,holds.sortColumn,holds.sortDirection]
  simp only [pure_bind,counted]
  cases isSame (ofNat table.data.length) (number 0) <;> cases table.sortColumn <;> rfl

-- Rows as they are drawn, each beside the one it is alike.
def RowsDrawn (host : Host) (left right : Table) (v w : Value) : Prop :=
  ∃ xs ys, v = list xs ∧ w = list ys ∧ Forall₂ (Rows host left right) xs ys

theorem rows_agree (beside : Beside host a b left right) :
    Outcome (RowsDrawn host left right) (rows a host) (rows b host) := by
  have data := rows_beside beside
  rw [rows_eq beside.holds,rows_eq beside.holds',← data.length_eq,← beside.matched.sortColumn,
    ← beside.matched.sortDirection]
  split
  · exact .ok ⟨_,_,rfl,rfl,data⟩
  · cases sorted : left.sortColumn with
    | none => exact .ok ⟨_,_,rfl,rfl,data⟩
    | some key =>
      have order : Outcome (Forall₂ (Rows host left right)) (sort left.data (text key) (text left.sortDirection) host)
          (sort right.data (text key) (text left.sortDirection) host) := by
        refine Outcome.bind (keyed_agree beside sorted) ?_
        intro keys keys' agree
        have asked (k l k' l' : Keyed) (first : Keyed.Agree host left right k k')
            (second : Keyed.Agree host left right l l') :=
          goesBefore_agree (isAscending (text left.sortDirection)) first second
        refine Outcome.bind (Runs.sort_agree (Outcome.lifting host) asked agree) ?_
        intro order order' sorted
        exact .ok (List.rel_map (fun _ _ keyed => keyed.row) sorted)
      exact Outcome.bind order fun xs ys items => .ok ⟨xs,ys,rfl,rfl,items⟩

theorem length_alike (alike : Alike (Level host) a b) : length a = length b := by
  cases alike with
  | flat => rfl
  | number => rfl
  | list counted =>
    show (pure (Float.ofNat _) : Ask Float) = pure (Float.ofNat _)
    rw [counted]
  | record left right => cases a <;> cases left <;> cases b <;> cases right <;> rfl

-- What a table is drawn from cell by cell.
section

variable (beside : Beside host a b left right)
include beside

theorem width_agree {xs ys : List Value} (rows : Forall₂ (Rows host left right) xs ys) {c c' : Value}
    (facing : Facing host left c c') : Outcome SameNumber (width (list xs) c host) (width (list ys) c' host) := by
  have longest : Outcome (· = ·)
      ((xs.foldlM (fun widest row => do return Number.larger widest (← length (← cell c row))) 0 : Ask Float) host)
      ((ys.foldlM (fun widest row => do return Number.larger widest (← length (← cell c' row))) 0 : Ask Float) host) := by
    refine Outcome.foldlM rows rfl ?_
    rintro widest _ row row' rfl here
    refine Outcome.bind (Outcome.of_eq (cell_agree beside.legible facing here)) ?_
    rintro shown _ rfl
    exact Outcome.of_eq rfl
  have listed (items : List Value) : listItems "rows.reduce" (list items) = pure items := rfl
  unfold width
  simp only [listed,pure_bind]
  refine Outcome.bind longest ?_
  rintro widest _ rfl
  rw [length_alike (facing.alike.get "header")]
  refine Outcome.bind (Outcome.of_eq rfl) ?_
  rintro header _ rfl
  refine Outcome.bind (toNumber_alike ((facing.alike.get "width").orElse (.flat rfl))) ?_
  intro cap cap' equal
  exact .ok (Number.same_smaller (Number.same_refl _) equal)

end

structure Layout.Agree (host : Host) (left right : Table) (l l' : Layout) : Prop where
  columns : ∃ cs cs', l.columns = list cs ∧ l'.columns = list cs' ∧ Forall₂ (Facing host left) cs cs'
  widths : Forall₂ SameNumber l.widths l'.widths
  rows : RowsDrawn host left right l.rows l'.rows

theorem layout_agree (beside : Beside host a b left right) :
    Outcome (Layout.Agree host left right) (layout a host) (layout b host) := by
  have columns := facing_shown beside
  have listed (items : List Value) : listItems "columns.map" (list items) = pure items := rfl
  unfold layout
  rw [columnsShown_eq beside.holds,columnsShown_eq beside.holds']
  simp only [listed,pure_bind]
  refine Outcome.bind (rows_agree beside) ?_
  rintro _ _ ⟨xs,ys,rfl,rfl,rows⟩
  refine Outcome.bind (Outcome.mapM columns fun c c' facing => width_agree beside rows facing) ?_
  intro widths widths' same
  exact .ok ⟨⟨_,_,rfl,rfl,columns⟩,same,_,_,rfl,rfl,rows⟩

theorem repeated_same (s : String) {x y : Float} (equal : Number.same x y = true) : repeated s x = repeated s y := by
  rw [repeated,repeated,Number.repeat?_same equal]

theorem separator_same {widths widths' : List Float} (same : Forall₂ SameNumber widths widths') :
    separator widths = separator widths' := by
  rw [separator,separator,mapM_eq same fun _ _ equal => repeated_same "-" (Number.same_add equal (Number.same_refl 2))]

-- What is written into a cell: as long as what it stands beside, and with the same text.
structure Fits (host : Host) (shown shown' : Value) : Prop where
  length : length shown = length shown'
  content : (do scalarText (← toScalar .either shown) : Ask String) host =
    (do scalarText (← toScalar .either shown') : Ask String) host

theorem fits_refl (shown : Value) : Fits host shown shown := ⟨rfl,rfl⟩

theorem fits_alike (alike : Alike (Level host) a b) : Fits host a b := by
  refine ⟨length_alike alike,?_⟩
  refine (Outcome.bind (toScalar_alike alike .either) ?_).eq
  intro s t close
  cases close with
  | itself => exact Outcome.of_eq rfl
  | number equal =>
    refine Outcome.of_eq ?_
    show Except.ok (Number.written _) = Except.ok (Number.written _)
    rw [Number.written_same equal]

theorem align_agree {shown shown' side side' : Value} {x y : Float} (fits : Fits host shown shown')
    (equal : Number.same x y = true) (sides : Alike (Level host) side side') :
    align shown (number x) side host = align shown' (number y) side' host := by
  unfold align
  rw [fits.length,sides.isSame_text,sides.isSame_text]
  refine (Outcome.bind_same (S := (· = ·)) ?_).eq
  intro count _
  have widths : Alike (Level host) (number x) (number y) := .number equal
  refine Outcome.bind (difference_alike widths (.flat rfl)) ?_
  intro free free' frees
  refine Outcome.bind (toNumber_alike frees) ?_
  intro room room' rooms
  have padding := Number.same_larger (Number.same_refl 0) rooms
  have half := Number.same_div 2 padding
  have content := Outcome.of_eq fits.content
  simp only [repeated_same " " padding,Number.floor_same half,
    repeated_same " " (Number.same_sub padding (Number.same_refl (Number.floor (Number.larger 0 room' / 2))))]
  split
  · exact Outcome.bind_same fun before _ => Outcome.bind content fun s t same => Outcome.of_eq (same ▸ rfl)
  · split
    · refine Outcome.bind_same fun before _ => Outcome.bind content fun s t same => ?_
      subst same
      exact Outcome.of_eq rfl
    · exact Outcome.bind_same fun after _ => Outcome.bind content fun s t same => Outcome.of_eq (same ▸ rfl)

-- A column with its width.
def Measured (host : Host) (left : Table) (m m' : Value × Float) : Prop :=
  Facing host left m.1 m'.1 ∧ SameNumber m.2 m'.2

theorem headerCell_agree (alike : Alike (Level host) a b) {m m' : Value × Float} (measured : Measured host left m m') :
    headerCell a m.1 m.2 host = headerCell b m'.1 m'.2 host := by
  obtain ⟨facing,equal⟩ := measured
  have named : isSame (a.get "sortColumn") (m.1.get "key") = isSame (b.get "sortColumn") (m'.1.get "key") := by
    rw [facing.describes.key,facing.describes'.key,column_key facing.alike,(alike.get "sortColumn").isSame_text]
  have glyph : sortGlyph (a.get "sortDirection") = sortGlyph (b.get "sortDirection") := by
    rw [sortGlyph,sortGlyph,isAscending,isAscending,(alike.get "sortDirection").isSame_text]
  have aligned := align_agree (fits_alike (facing.alike.get "header")) equal (facing.alike.get "align")
  unfold headerCell
  rw [named,glyph]
  refine (Outcome.bind (Outcome.of_eq aligned) ?_).eq
  rintro shown _ rfl
  exact Outcome.of_eq rfl

theorem bodyLine_agree (legible : Legible host left right) {ms ms' : List (Value × Float)}
    (measured : Forall₂ (Measured host left) ms ms') {row row' : Value} (rows : Rows host left right row row') :
    Outcome (· = ·) (bodyLine ms row host) (bodyLine ms' row' host) := by
  refine Outcome.bind (Outcome.mapM_same measured ?_) fun _ _ same => Outcome.of_eq (same ▸ rfl)
  rintro ⟨c,w⟩ ⟨c',w'⟩ ⟨facing,equal⟩
  refine Outcome.bind (Outcome.of_eq (cell_agree legible facing rows)) ?_
  rintro shown _ rfl
  exact Outcome.of_eq (align_agree (fits_refl shown) equal (facing.alike.get "align"))

theorem lines_agree (beside : Beside host a b left right) : lines a host = lines b host := by
  have listed (member : String) (items : List Value) : listItems member (list items) = pure items := rfl
  refine (Outcome.bind (layout_agree beside) ?_).eq
  rintro ⟨_,widths,_⟩ ⟨_,widths',_⟩ ⟨⟨cs,cs',rfl,rfl,columns⟩,same,⟨xs,ys,rfl,rfl,rows⟩⟩
  have measured : Forall₂ (Measured host left) (cs.zip widths) (cs'.zip widths') := Agree.zip columns same
  simp only [listed,pure_bind,Agree.isEmpty_eq columns,separator_same same]
  split
  · exact Outcome.of_eq rfl
  · refine Outcome.bind_same fun separator _ => ?_
    have header := Outcome.mapM_same measured fun m m' here => Outcome.of_eq (headerCell_agree beside.alike here)
    refine Outcome.bind header ?_
    rintro header _ rfl
    refine Outcome.bind (Outcome.mapM_same rows fun _ _ here => bodyLine_agree beside.legible measured here) ?_
    rintro body _ rfl
    exact Outcome.of_eq rfl

theorem drawn_agree (beside : Beside host a b left right) : drawn a host = drawn b host := by
  refine (Outcome.bind (Outcome.of_eq (lines_agree beside)) ?_).eq
  rintro lines _ rfl
  exact Outcome.of_eq rfl

theorem shownColumn_matched {c c' : Value} (facing : Facing host left c c') : Column.Matched (column c) (column c') := by
  have alike := facing.alike
  refine ⟨column_key alike,?_,?_,column_formatter alike,(alike.get "width").number?,?_⟩
  · rw [column,column,(alike.get "header").text?]
  · rw [column,column,(alike.get "sortable").bool?]
  · rw [column,column,(alike.get "align").text?]

theorem shownColumns_matched (beside : Beside host a b left right) :
    Forall₂ Column.Matched (shownColumns left) (shownColumns right) := by
  refine List.rel_map ?_ (facing_shown beside)
  intro c c' facing
  exact shownColumn_matched facing

end Trifold.Table
