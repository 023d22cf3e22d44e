import Mathlib.Data.List.Sort
import Trifold.Text.Units

namespace Trifold.Text

theorem units_append {c d : Char} {left right : List Nat} (equal : units c ++ left = units d ++ right) :
    c = d ∧ left = right := by
  have valid (c : Char) : c.toNat < 0xD800 ∨ 0xDFFF < c.toNat ∧ c.toNat < 0x110000 := c.valid
  have first := valid c
  have second := valid d
  have same : c = d := by
    refine Char.toNat_inj.mp ?_
    unfold units at equal
    split at equal <;> split at equal <;>
      simp only [List.cons_append,List.nil_append,List.cons.injEq] at equal <;> omega
  subst same
  exact ⟨rfl,List.append_cancel_left equal⟩

theorem units_ne_nil (c : Char) : units c ≠ [] := by
  unfold units
  split <;> simp

theorem unitsOf_injective {s t : String} (equal : unitsOf s = unitsOf t) : s = t := by
  refine String.toList_injective ?_
  unfold unitsOf at equal
  generalize s.toList = cs, t.toList = ds at equal ⊢
  induction cs generalizing ds with
  | nil =>
    cases ds with
    | nil => rfl
    | cons d ds => simp [units_ne_nil] at equal
  | cons c cs ih =>
    cases ds with
    | nil => simp [units_ne_nil] at equal
    | cons d ds =>
      rw [List.flatMap_cons,List.flatMap_cons] at equal
      obtain ⟨rfl,rest⟩ := units_append equal
      rw [ih ds rest]

theorem notBefore_iff {a b : String} : (!before b a) = true ↔ ¬ unitsOf b < unitsOf a := by
  rw [before,Bool.not_eq_true',decide_eq_false_iff_not]

theorem notBefore_trans {a b c : String} (first : ¬ unitsOf b < unitsOf a) (second : ¬ unitsOf c < unitsOf b) :
    ¬ unitsOf c < unitsOf a :=
  List.not_lt.mpr (List.le_trans (List.not_lt.mp first) (List.not_lt.mp second))

theorem sorted_eq {names others : List String} (once : names.Nodup) (once' : others.Nodup)
    (same : ∀ name, name ∈ names ↔ name ∈ others) : sorted names = sorted others := by
  have ordered (names : List String) : (sorted names).Pairwise fun a b => (!before b a) = true := by
    refine List.pairwise_mergeSort ?_ ?_ names
    · intro a b c first second
      rw [notBefore_iff] at first second ⊢
      exact notBefore_trans first second
    · intro a b
      rw [Bool.or_eq_true,notBefore_iff,notBefore_iff,← not_and_or]
      rintro ⟨first,second⟩
      exact List.lt_asymm first second
  refine List.Perm.eq_of_pairwise ?_ (ordered names) (ordered others) ?_
  · intro a b _ _ first second
    rw [notBefore_iff] at first second
    exact unitsOf_injective (List.le_antisymm (List.not_lt.mp first) (List.not_lt.mp second))
  · have whole := (List.perm_ext_iff_of_nodup once once').mpr same
    exact (List.mergeSort_perm _ _).trans (whole.trans (List.mergeSort_perm _ _).symm)

end Trifold.Text
