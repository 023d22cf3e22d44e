import Trifold.Payload.Hygiene
import Trifold.Proofs.Text.Search

namespace Trifold.Payload

theorem length_replaceFrom_le (pattern : List Char) (skip : Nat) (s : List Char) :
    (Text.replaceFrom pattern [] skip s).length ≤ s.length := by
  induction s generalizing skip with
  | nil => cases skip <;> exact Nat.le_refl _
  | cons c rest ih =>
    cases skip with
    | succ skip => exact Nat.le_succ_of_le (ih skip)
    | zero =>
      rw [Text.replaceFrom]
      split
      · exact Nat.le_succ_of_le (ih _)
      · exact Nat.succ_le_succ (ih 0)

theorem length_removed_le (pattern s : String) : (Text.replaceAll pattern "" s).length ≤ s.length := by
  rw [Text.replaceAll,String.length_ofList,← String.length_toList]
  exact length_replaceFrom_le _ 0 _

theorem length_stripMarkup_le (s : String) : (stripMarkup s).length ≤ s.length := by
  unfold stripMarkup
  dsimp only
  rw [String.length_ofList]
  refine Nat.le_trans (List.length_filter_le _ _) ?_
  rw [String.length_toList]
  calc (Text.replaceAll "&amp;" "" (Text.replaceAll "&gt;" "" (Text.replaceAll "&lt;" "" s))).length
    _ ≤ (Text.replaceAll "&gt;" "" (Text.replaceAll "&lt;" "" s)).length := length_removed_le _ _
    _ ≤ (Text.replaceAll "&lt;" "" s).length := length_removed_le _ _
    _ ≤ s.length := length_removed_le _ _

theorem isMarkup_eq_false {c : Char} : isMarkup c = false ↔ c ≠ '<' ∧ c ≠ '>' ∧ c ≠ '&' := by
  rw [isMarkup,Bool.or_eq_false_iff,Bool.or_eq_false_iff,and_assoc,beq_eq_false_iff_ne,beq_eq_false_iff_ne,
    beq_eq_false_iff_ne]

theorem stripMarkup_free (s : String) : ∀ c ∈ (stripMarkup s).toList, isMarkup c = false := by
  intro c there
  rw [stripMarkup,String.toList_ofList] at there
  exact Bool.not_eq_true' _ ▸ (List.mem_filter.mp there).2

-- No entity is left either: each begins with a character that is markup itself.
theorem removed_kept {s entity : String} {tail : List Char} (begins : entity.toList = '&' :: tail)
    (free : ∀ c ∈ s.toList, isMarkup c = false) : Text.replaceAll entity "" s = s := by
  have kept : '&' ∉ s.toList := fun there => absurd (free _ there) (by decide)
  have same : Text.replaceFrom ('&' :: tail) [] 0 (s.toList ++ []) = s.toList ++ [] := Text.replaceFrom_kept kept []
  rw [List.append_nil] at same
  have empty : ("" : String).toList = [] := rfl
  rw [Text.replaceAll,begins,empty,same,String.ofList_toList]

theorem stripMarkup_kept {s : String} (free : ∀ c ∈ s.toList, isMarkup c = false) : stripMarkup s = s := by
  have lt : Text.replaceAll "&lt;" "" s = s := removed_kept rfl free
  have gt : Text.replaceAll "&gt;" "" s = s := removed_kept rfl free
  have amp : Text.replaceAll "&amp;" "" s = s := removed_kept rfl free
  have all : s.toList.filter (!isMarkup ·) = s.toList := by
    rw [List.filter_eq_self]
    exact fun c there => by rw [free c there]; rfl
  rw [stripMarkup,lt,gt,amp,all,String.ofList_toList]

theorem stripMarkup_again (s : String) : stripMarkup (stripMarkup s) = stripMarkup s :=
  stripMarkup_kept (stripMarkup_free s)

end Trifold.Payload
