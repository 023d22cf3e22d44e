import Trifold.Text.Search

namespace Trifold.Text

variable {pattern replacement piece rest : List Char}

theorem replaceFrom_covered (covered rest : List Char) :
    replaceFrom pattern replacement covered.length (covered ++ rest) = replaceFrom pattern replacement 0 rest := by
  induction covered with
  | nil => rfl
  | cons c covered ih => exact ih

theorem replaceFrom_hit (given : pattern ≠ []) (rest : List Char) :
    replaceFrom pattern replacement 0 (pattern ++ rest) = replacement ++ replaceFrom pattern replacement 0 rest := by
  cases pattern with
  | nil => exact absurd rfl given
  | cons c tail =>
    have hit : (c :: tail).isPrefixOf (c :: (tail ++ rest)) = true :=
      List.isPrefixOf_iff_prefix.mpr (List.prefix_append (c :: tail) rest)
    rw [List.cons_append,replaceFrom,if_pos hit]
    exact congrArg (replacement ++ ·) (replaceFrom_covered tail rest)

theorem replaceFrom_missed {c : Char} (missed : pattern.isPrefixOf (c :: rest) = false) :
    replaceFrom pattern replacement 0 (c :: rest) = c :: replaceFrom pattern replacement 0 rest := by
  rw [replaceFrom,missed]
  rfl

theorem not_prefix_of_head {first c : Char} {tail : List Char} (apart : first ≠ c) :
    (first :: tail).isPrefixOf (c :: rest) = false := by
  rw [List.isPrefixOf,beq_false_of_ne apart,Bool.false_and]

theorem replaceFrom_kept {first : Char} {tail : List Char} (kept : first ∉ piece) (rest : List Char) :
    replaceFrom (first :: tail) replacement 0 (piece ++ rest) = piece ++ replaceFrom (first :: tail) replacement 0 rest := by
  induction piece with
  | nil => rfl
  | cons c piece ih =>
    rw [List.mem_cons,not_or] at kept
    obtain ⟨apart,later⟩ := kept
    rw [List.cons_append,replaceFrom_missed (not_prefix_of_head apart),ih later,List.cons_append]

end Trifold.Text
