import Mathlib.Data.List.Perm.Subperm
import Trifold.Proofs.Number.Same
import Trifold.Proofs.Value.Distinct

namespace Trifold.Value

-- What fields hold under a name, if that is something.
def held (key : String) (fields : Fields Value) : Option Value := (Fields.get? key fields).bind present?

theorem present?_eq_some {value other : Value} : present? value = some other ↔ value = other ∧ other.isAbsent = false := by
  cases value <;> cases other <;> simp [present?,isAbsent]

theorem held_eq_some {key : String} {value : Value} {fields : Fields Value} :
    held key fields = some value ↔ Fields.get? key fields = some value ∧ value.isAbsent = false := by
  rw [held,Option.bind_eq_some_iff]
  constructor
  · rintro ⟨found,got,there⟩
    obtain ⟨rfl,there⟩ := present?_eq_some.mp there
    exact ⟨got,there⟩
  · rintro ⟨got,there⟩
    exact ⟨value,got,present?_eq_some.mpr ⟨rfl,there⟩⟩

theorem mem_of_held {key : String} {value : Value} {fields : Fields Value} (there : held key fields = some value) :
    (key,value) ∈ fields :=
  Fields.mem_of_get? (held_eq_some.mp there).1

theorem held_of_mem {fields : Fields Value} (once : (Fields.keys fields).Nodup) {entry : String × Value}
    (listed : entry ∈ fields) (there : entry.2.isAbsent = false) : held entry.1 fields = some entry.2 :=
  held_eq_some.mpr ⟨Fields.get?_of_mem once listed,there⟩

-- Two lists of fields that hold equal things. The right side may list a name twice: only its first counts.
def SameFields (fields others : Fields Value) : Prop :=
  (defined fields).length = (defined others).length ∧
    ∀ entry ∈ fields, entry.2.isAbsent = false → ∃ other, held entry.1 others = some other ∧ same entry.2 other = true

theorem sameItems_iff {xs ys : List Value} :
    sameItems xs ys = true ↔ List.Forall₂ (fun x y => same x y = true) xs ys := by
  induction xs generalizing ys with
  | nil => cases ys <;> simp [sameItems]
  | cons x xs ih =>
    cases ys with
    | nil => simp [sameItems]
    | cons y ys => rw [sameItems,Bool.and_eq_true,ih,List.forall₂_cons]

theorem covered_iff {fields : List (String × Value)} {others : Fields Value} :
    covered fields others = true ↔
      ∀ entry ∈ fields, entry.2.isAbsent = false →
        ∃ other, held entry.1 others = some other ∧ same entry.2 other = true := by
  induction fields with
  | nil => simp [covered]
  | cons entry rest ih =>
    obtain ⟨key,value⟩ := entry
    rw [covered,Bool.and_eq_true,List.forall_mem_cons,ih]
    refine and_congr_left' ?_
    cases value.isAbsent with
    | true => simp
    | false =>
      simp only [Bool.false_or,held_eq_some,forall_const]
      cases Fields.get? key others with
      | none => simp
      | some other => simp [and_assoc]

-- One level of equality, by what the two sides are. Everything that is said of equality goes through it.
inductive Same : Value → Value → Prop
  | absent : Same absent absent
  | null : Same null null
  | bool (truth : Bool) : Same (bool truth) (bool truth)
  | number {x y : Float} (equal : Number.same x y = true) : Same (number x) (number y)
  | text (s : String) : Same (text s) (text s)
  | bigint (n : Int) : Same (bigint n) (bigint n)
  | symbol (name : String) (serial : Nat) : Same (symbol name serial) (symbol name serial)
  | function (f : Function) : Same (function f) (function f)
  | list {xs ys : List Value} (items : List.Forall₂ (fun x y => same x y = true) xs ys) : Same (list xs) (list ys)
  | record (bare : Bool) {fields others : Fields Value} (equal : SameFields fields others) :
      Same (record bare fields) (record bare others)
  | heir {base base' : Value} (locked locked' : Bool) {fields others : Fields Value} (under : same base base' = true)
      (equal : SameFields fields others) : Same (heir base locked fields) (heir base' locked' others)
  | ancestor : Same ancestor ancestor
  | ancestorRecord {others : Fields Value} (empty : (defined others).length = 0) : Same ancestor (record true others)
  | recordAncestor {fields : Fields Value} (empty : (defined fields).length = 0) : Same (record true fields) ancestor
  | pattern (source flags source' flags' : String) : Same (pattern source flags) (pattern source' flags')
  | date : Same date date
  | foreign : Same .foreign .foreign

theorem same_iff {a b : Value} : same a b = true ↔ Same a b := by
  constructor
  · intro equal
    rw [same.eq_def] at equal
    split at equal
    case h_1 => exact .absent
    case h_2 => exact .null
    case h_3 => exact eq_of_beq equal ▸ .bool _
    case h_4 => exact .number equal
    case h_5 => exact eq_of_beq equal ▸ .text _
    case h_6 => exact eq_of_beq equal ▸ .bigint _
    case h_7 =>
      obtain ⟨named,numbered⟩ := Bool.and_eq_true_iff.mp equal
      exact eq_of_beq named ▸ eq_of_beq numbered ▸ .symbol _ _
    case h_8 => exact eq_of_beq equal ▸ .function _
    case h_9 => exact .list (sameItems_iff.mp equal)
    case h_10 =>
      obtain ⟨first,covers⟩ := Bool.and_eq_true_iff.mp equal
      obtain ⟨bare,counted⟩ := Bool.and_eq_true_iff.mp first
      exact eq_of_beq bare ▸ .record _ ⟨eq_of_beq counted,covered_iff.mp covers⟩
    case h_11 =>
      obtain ⟨first,covers⟩ := Bool.and_eq_true_iff.mp equal
      obtain ⟨under,counted⟩ := Bool.and_eq_true_iff.mp first
      exact .heir _ _ under ⟨eq_of_beq counted,covered_iff.mp covers⟩
    case h_12 => exact .ancestor
    case h_13 =>
      obtain ⟨bare,empty⟩ := Bool.and_eq_true_iff.mp equal
      exact bare ▸ .ancestorRecord (List.isEmpty_iff_length_eq_zero.mp empty)
    case h_14 =>
      obtain ⟨bare,empty⟩ := Bool.and_eq_true_iff.mp equal
      exact bare ▸ .recordAncestor (List.isEmpty_iff_length_eq_zero.mp empty)
    case h_15 => exact .pattern _ _ _ _
    case h_16 => exact .date
    case h_17 => exact .foreign
    case h_18 => cases equal
  · intro equal
    rw [same.eq_def]
    cases equal with
    | number equal => exact equal
    | list items => exact sameItems_iff.mpr items
    | record bare equal => simp [equal.1,covered_iff.mpr equal.2]
    | heir _ _ under equal => simp [under,equal.1,covered_iff.mpr equal.2]
    | ancestorRecord empty => simpa using empty
    | recordAncestor empty => simpa using empty
    | _ => simp

theorem same_list {xs ys : List Value} :
    same (list xs) (list ys) = true ↔ List.Forall₂ (fun x y => same x y = true) xs ys := by
  rw [same_iff]
  constructor
  · intro equal
    cases equal with
    | list items => exact items
  · exact .list

theorem same_record {bare bare' : Bool} {fields others : List (String × Value)} :
    same (record bare fields) (record bare' others) = true ↔ bare = bare' ∧ SameFields fields others := by
  rw [same_iff]
  constructor
  · intro equal
    cases equal with
    | record _ equal => exact ⟨rfl,equal⟩
  · rintro ⟨rfl,equal⟩
    exact .record _ equal

theorem length_defined_eq_zero {fields : Fields Value} :
    (defined fields).length = 0 ↔ ∀ entry ∈ fields, entry.2.isAbsent = true := by
  rw [defined,List.length_eq_zero_iff,List.filter_eq_nil_iff]
  simp

theorem nodup_defined {fields : Fields Value} (once : (Fields.keys fields).Nodup) :
    (Fields.keys (defined fields)).Nodup :=
  once.sublist (List.filter_sublist.map Prod.fst)

theorem mem_keys_defined {key : String} {fields : Fields Value} (once : (Fields.keys fields).Nodup) :
    key ∈ Fields.keys (defined fields) ↔ ∃ value, held key fields = some value := by
  constructor
  · intro listed
    obtain ⟨entry,kept,rfl⟩ := List.mem_map.mp listed
    obtain ⟨inside,there⟩ := List.mem_filter.mp kept
    exact ⟨entry.2,held_of_mem once inside (by simpa using there)⟩
  · rintro ⟨value,there⟩
    refine List.mem_map.mpr ⟨(key,value),List.mem_filter.mpr ⟨mem_of_held there,?_⟩,rfl⟩
    simp [(held_eq_some.mp there).2]

-- Where the left side is covered and both hold equally many things, no name of the right side is left over. So equal
-- fields are those that answer alike to every name.
theorem sameFields_iff {fields others : Fields Value} (once : (Fields.keys fields).Nodup)
    (once' : (Fields.keys others).Nodup) :
    SameFields fields others ↔
      ∀ key, Option.Rel (fun x y => same x y = true) (held key fields) (held key others) := by
  constructor
  · rintro ⟨counted,each⟩ key
    have within : Fields.keys (defined fields) ⊆ Fields.keys (defined others) := by
      intro name listed
      obtain ⟨value,there⟩ := (mem_keys_defined once).mp listed
      obtain ⟨other,found,_⟩ := each (name,value) (mem_of_held there) (held_eq_some.mp there).2
      exact (mem_keys_defined once').mpr ⟨other,found⟩
    have whole : (Fields.keys (defined fields)).Perm (Fields.keys (defined others)) :=
      ((nodup_defined once).subperm within).perm_of_length_le (by simp [Fields.keys,counted])
    cases there : held key fields with
    | some value =>
      obtain ⟨other,found,equal⟩ := each (key,value) (mem_of_held there) (held_eq_some.mp there).2
      rw [found]
      exact .some equal
    | none =>
      cases found : held key others with
      | none => exact .none
      | some other =>
        have listed := whole.symm.subset ((mem_keys_defined once').mpr ⟨other,found⟩)
        obtain ⟨value,held⟩ := (mem_keys_defined once).mp listed
        rw [there] at held
        cases held
  · intro alike
    have names (name : String) : name ∈ Fields.keys (defined fields) ↔ name ∈ Fields.keys (defined others) := by
      rw [mem_keys_defined once,mem_keys_defined once',← Option.isSome_iff_exists,← Option.isSome_iff_exists]
      have one := alike name
      generalize held name fields = left at one ⊢
      generalize held name others = right at one ⊢
      cases one <;> simp
    have whole := (List.perm_ext_iff_of_nodup (nodup_defined once) (nodup_defined once')).mpr names
    refine ⟨by simpa [Fields.keys] using whole.length_eq,?_⟩
    intro entry listed there
    have one := alike entry.1
    rw [held_of_mem once listed there] at one
    cases found : held entry.1 others with
    | none => rw [found] at one; cases one
    | some other =>
      rw [found] at one
      cases one with
      | some equal => exact ⟨other,rfl,equal⟩

theorem sameItems_trans {xs ys zs : List Value} (first : List.Forall₂ (fun x y => same x y = true) xs ys)
    (second : List.Forall₂ (fun x y => same x y = true) ys zs)
    (each : ∀ x ∈ xs, ∀ {b c}, same x b = true → same b c = true → same x c = true) :
    List.Forall₂ (fun x y => same x y = true) xs zs := by
  induction first generalizing zs with
  | nil => exact second
  | cons equal rest ih =>
    cases second with
    | cons equal' rest' =>
      exact .cons (each _ List.mem_cons_self equal equal')
        (ih rest' fun x there => each x (List.mem_cons_of_mem _ there))

theorem SameFields.trans {fields others last : Fields Value} (first : SameFields fields others)
    (second : SameFields others last)
    (each : ∀ entry ∈ fields, ∀ {b c}, same entry.2 b = true → same b c = true → same entry.2 c = true) :
    SameFields fields last := by
  refine ⟨first.1.trans second.1,?_⟩
  intro entry listed there
  obtain ⟨other,found,equal⟩ := first.2 entry listed there
  obtain ⟨third,found',equal'⟩ := second.2 (entry.1,other) (mem_of_held found) (held_eq_some.mp found).2
  exact ⟨third,found',each entry listed equal equal'⟩

theorem SameFields.symm {fields others : Fields Value} (once : (Fields.keys fields).Nodup)
    (once' : (Fields.keys others).Nodup) (equal : SameFields fields others)
    (each : ∀ entry ∈ fields, ∀ b, Distinct b → same entry.2 b = true → same b entry.2 = true)
    (distinct : ∀ entry ∈ others, Distinct entry.2) : SameFields others fields := by
  rw [sameFields_iff once' once]
  intro key
  have one := (sameFields_iff once once').mp equal key
  cases there : held key fields with
  | none =>
    rw [there] at one
    cases found : held key others with
    | none => exact .none
    | some other => rw [found] at one; cases one
  | some value =>
    cases found : held key others with
    | none => rw [there,found] at one; cases one
    | some other =>
      rw [there,found] at one
      cases one with
      | some equal =>
        exact .some (each (key,value) (mem_of_held there) other (distinct (key,other) (mem_of_held found)) equal)

theorem SameFields.refl {fields : Fields Value} (once : (Fields.keys fields).Nodup)
    (each : ∀ entry ∈ fields, same entry.2 entry.2 = true) : SameFields fields fields :=
  ⟨rfl,fun entry listed there => ⟨entry.2,held_of_mem once listed there,each entry listed⟩⟩

theorem same_refl {value : Value} (distinct : Distinct value) : same value value = true := by
  rw [same_iff]
  induction value using members with
  | plain value flat =>
    cases value with
    | number x => exact .number (Number.same_refl x)
    | list | record | heir => cases flat
    | _ => constructor
  | list items ih =>
    refine .list (List.forall₂_same.mpr ?_)
    intro item there
    exact same_iff.mpr (ih item there (distinctItems_iff.mp distinct item there))
  | record bare fields ih =>
    refine .record bare (.refl distinct.1 ?_)
    intro entry listed
    exact same_iff.mpr (ih entry listed (distinctFields_iff.mp distinct.2 entry listed))
  | heir base locked fields above ih =>
    refine .heir _ _ (same_iff.mpr (above distinct.1)) (.refl distinct.2.1 ?_)
    intro entry listed
    exact same_iff.mpr (ih entry listed (distinctFields_iff.mp distinct.2.2 entry listed))

-- A bare record that holds nothing may stand for the ancestor on either side.
theorem same_trans {a b c : Value} (first : same a b = true) (second : same b c = true) : same a c = true := by
  induction a using members generalizing b c with
  | plain a flat =>
    rw [same_iff] at first second ⊢
    cases first with
    | list | record | heir | recordAncestor => cases flat
    | number equal => cases second with
      | number equal' => exact .number (Number.same_trans equal equal')
    | ancestor => exact second
    | ancestorRecord empty => cases second with
      | record _ equal => exact .ancestorRecord (equal.1.symm.trans empty)
      | recordAncestor => exact .ancestor
    | pattern => cases second; exact .pattern _ _ _ _
    | _ => exact second
  | list xs ih =>
    rw [same_iff] at first second ⊢
    cases first with
    | list left => cases second with
      | list right => exact .list (sameItems_trans left right ih)
  | record bare fields ih =>
    rw [same_iff] at first second ⊢
    cases first with
    | record _ left => cases second with
      | record _ right => exact .record _ (left.trans right fun entry listed => ih entry listed)
      | recordAncestor empty => exact .recordAncestor (left.1.trans empty)
    | recordAncestor empty => cases second with
      | ancestor => exact .recordAncestor empty
      | ancestorRecord empty' =>
        refine .record _ ⟨empty.trans empty'.symm,?_⟩
        intro entry listed there
        rw [length_defined_eq_zero.mp empty entry listed] at there
        cases there
  | heir base locked fields above ih =>
    rw [same_iff] at first second ⊢
    cases first with
    | heir _ _ under left => cases second with
      | heir _ _ under' right =>
        exact .heir _ _ (above under under') (left.trans right fun entry listed => ih entry listed)

theorem sameItems_symm {xs ys : List Value} (equal : List.Forall₂ (fun x y => same x y = true) xs ys)
    (each : ∀ x ∈ xs, ∀ b, Distinct b → same x b = true → same b x = true) (distinct : ∀ y ∈ ys, Distinct y) :
    List.Forall₂ (fun x y => same x y = true) ys xs := by
  induction equal with
  | nil => exact .nil
  | cons equal rest ih =>
    obtain ⟨here,later⟩ := List.forall_mem_cons.mp distinct
    exact .cons (each _ List.mem_cons_self _ here equal) (ih (fun x there => each x (List.mem_cons_of_mem _ there)) later)

theorem same_symm {a b : Value} (left : Distinct a) (right : Distinct b) (equal : same a b = true) :
    same b a = true := by
  induction a using members generalizing b with
  | plain a flat =>
    rw [same_iff] at equal ⊢
    cases equal with
    | list | record | heir | recordAncestor => cases flat
    | number equal => exact .number (Number.same_symm equal)
    | ancestorRecord empty => exact .recordAncestor empty
    | _ => constructor
  | list xs ih =>
    rw [same_iff] at equal ⊢
    cases equal with
    | list items =>
      have inside := distinctItems_iff.mp left
      exact .list (sameItems_symm items (fun x there b => ih x there (inside x there)) (distinctItems_iff.mp right))
  | record bare fields ih =>
    rw [same_iff] at equal ⊢
    cases equal with
    | record _ fieldwise =>
      have inside := distinctFields_iff.mp left.2
      refine .record _ (fieldwise.symm left.1 right.1 ?_ (distinctFields_iff.mp right.2))
      intro entry listed b
      exact ih entry listed (inside entry listed)
    | recordAncestor empty => exact .ancestorRecord empty
  | heir base locked fields above ih =>
    rw [same_iff] at equal ⊢
    cases equal with
    | heir _ _ under fieldwise =>
      have inside := distinctFields_iff.mp left.2.2
      refine .heir _ _ (above left.1 right.1 under)
        (fieldwise.symm left.2.1 right.2.1 ?_ (distinctFields_iff.mp right.2.2))
      intro entry listed b
      exact ih entry listed (inside entry listed)

end Trifold.Value
