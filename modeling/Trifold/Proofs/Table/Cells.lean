import Trifold.Proofs.Element.Matched
import Trifold.Proofs.Text.Sorted
import Trifold.Proofs.Value.Numeric
import Trifold.Table.Layout

namespace Trifold.Table
open Value Agree
open List (Forall₂)

def Written (host : Host) (left right : Value) : Prop := left.isObject = true → json? left host = json? right host

def Shown (host : Host) (column : Column) (left right : Value) : Prop :=
  match column.formatter with
  | some f => f.apply [left] host = f.apply [right] host
  | none => Written host left right

-- Without declared columns they are taken from the first row.
structure Legible (host : Host) (left right : Table) : Prop where
  keys : left.columns = [] → ∀ row row', left.data.head? = some row → right.data.head? = some row' →
    ∀ key, Attributes.holds key row = Attributes.holds key row'
  cells : ∀ row row', (row,row') ∈ left.data.zip right.data → ∀ column ∈ shownColumns left,
    Shown host column (Attributes.read column.key row) (Attributes.read column.key row')
  order : ∀ row row', (row,row') ∈ left.data.zip right.data → ∀ key ∈ left.sortColumn,
    Written host (Attributes.read key row) (Attributes.read key row')

-- Two values that are tables agree as tables do.
def Level (host : Host) (a b : Value) : Prop := ∀ element element' left right,
  Element.ofValue? a = some element → Element.ofValue? b = some element' → element.body = .table left →
    element'.body = .table right → Legible host left right

theorem written_refl (host : Host) (value : Value) : Written host value value := fun _ => rfl

theorem level_refl (host : Host) (value : Value) : Level host value value := by
  intro element element' left right sound sound' table table'
  cases sound.symm.trans sound'
  cases table.symm.trans table'
  have twice {row row' : Value} (there : (row,row') ∈ left.data.zip left.data) : row = row' :=
    List.forall₂_zip (List.forall₂_refl left.data) there
  refine ⟨?_,?_,?_⟩
  · intro _ row row' first first' key
    cases first.symm.trans first'
    rfl
  · intro row row' there column _
    rw [twice there,Shown]
    split
    · rfl
    · exact written_refl host _
  · intro row row' there key _
    rw [twice there]
    exact written_refl host _

theorem unique_from {seen : List String} (once : seen.Nodup) (names : List String) :
    let all := names.foldl (fun seen name => if seen.contains name then seen else seen ++ [name]) seen
    all.Nodup ∧ ∀ name, name ∈ all ↔ name ∈ seen ∨ name ∈ names := by
  induction names generalizing seen with
  | nil => simpa using once
  | cons name rest ih =>
    rw [List.foldl_cons]
    by_cases known : seen.contains name = true
    · rw [if_pos known]
      obtain ⟨distinct,members⟩ := ih once
      refine ⟨distinct,?_⟩
      intro other
      rw [members,List.mem_cons]
      have there := List.contains_iff_mem.mp known
      grind
    · rw [if_neg known]
      have fresh : name ∉ seen := known ∘ List.contains_iff_mem.mpr
      obtain ⟨distinct,members⟩ := ih (List.nodup_append.mpr ⟨once,List.nodup_singleton name,by grind⟩)
      refine ⟨distinct,?_⟩
      intro other
      rw [members,List.mem_append,List.mem_singleton,List.mem_cons,or_assoc]

theorem columnsOf_eq {row row' : Value} (same : ∀ key, Attributes.holds key row = Attributes.holds key row') :
    columnsOf row = columnsOf row' := by
  have once (names : List String) : (unique names).Nodup := (unique_from List.nodup_nil names).1
  have held (row : Value) (name : String) :
      name ∈ unique ((Attributes.entries row).map (·.1)) ↔ Attributes.holds name row = true := by
    rw [unique,(unique_from List.nodup_nil _).2,Attributes.holds]
    simp
  rw [columnsOf,columnsOf,Text.sorted_eq (once _) (once _)]
  intro name
  rw [held,held,same]

abbrev Entry (level : Value → Value → Prop) (left right : String × Value) : Prop :=
  left.1 = right.1 ∧ Alike level left.2 right.2

theorem pair?_alike {level : Value → Value → Prop} {a b : Value} (alike : Alike level a b) :
    Option.Rel (Entry level) (Attributes.pair? a) (Attributes.pair? b) := by
  have one (first : Value) : Attributes.pair? (list [first]) = none := by cases first <;> rfl
  have two (first second : Value) :
      Attributes.pair? (list [first, second]) = first.text?.map fun key => (key,second) := by cases first <;> rfl
  have more (first second third : Value) (rest : List Value) :
      Attributes.pair? (list (first :: second :: third :: rest)) = none := by cases first <;> rfl
  cases alike with
  | flat flat =>
    cases a with
    | list => cases flat
    | _ => exact .none
  | number => exact .none
  | list counted each =>
    rcases (Alike.list counted each).items with _ | ⟨first,_ | ⟨second,_ | ⟨_,_⟩⟩⟩
    · exact .none
    · rw [one,one]
      exact .none
    · rw [two,two,first.text?]
      cases Value.text? _ with
      | none => exact .none
      | some key => exact .some ⟨rfl,second⟩
    · rw [more,more]
      exact .none
  | record left right => cases a <;> cases left <;> cases b <;> cases right <;> exact .none

-- The value a row holds under a name, for rows that read alike.
theorem read_alike {level : Value → Value → Prop} {row row' : Value} (alike : Alike level row row') (key : String) :
    Alike level (Attributes.read key row) (Attributes.read key row') := by
  have plain (source : Value) (unlisted : source.list? = none) :
      Attributes.read key source = if source.isPlain then source.get key else absent := by
    cases source <;> first | rfl | cases unlisted
  cases alike with
  | flat flat =>
    rw [plain _ (by cases row <;> first | rfl | cases flat)]
    split
    · exact .flat (Alike.flat_get flat key)
    · exact .flat rfl
  | number => exact .flat rfl
  | list counted each =>
    have paired : Relator.LiftFun (Alike level) (Option.Rel (Entry level)) Attributes.pair? Attributes.pair? :=
      fun _ _ => pair?_alike
    have pairs := List.rel_filterMap paired (Alike.list counted each).items
    have found := Agree.find? pairs (p := (·.1 == key)) (q := (·.1 == key)) fun _ _ same => by rw [same.1]
    exact Agree.elim found (.flat rfl) fun _ _ same => same.2
  | record left right same equal reads here =>
    rw [plain _ (by cases row <;> first | rfl | cases left),plain _ (by cases row' <;> first | rfl | cases right),same]
    split
    · exact reads key
    · exact .flat rfl

end Trifold.Table
