import Mathlib.Data.List.Induction
import Mathlib.Data.Nat.Digits.Defs
import Trifold.Proofs.Fields

namespace Trifold.Fields

variable {α : Type} {key other : String} {n : Nat} {value : α} {fields : Fields α}

def digitOf (c : Char) : Nat := c.toNat - 48

theorem digitOf_digit {c : Char} (digit : isDigit c = true) : 48 + digitOf c = c.toNat ∧ digitOf c < 10 := by
  rw [isDigit,Bool.and_eq_true,decide_eq_true_eq,decide_eq_true_eq] at digit
  have least : 48 ≤ c.toNat := digit.1
  have most : c.toNat ≤ 57 := digit.2
  unfold digitOf
  omega

theorem numeral_eq (digits : List Char) : numeral digits = Nat.ofDigits 10 (digits.map digitOf).reverse := by
  rw [Nat.ofDigits_eq_foldr,List.foldr_reverse,List.foldl_map,numeral]
  congr 1
  funext n c
  exact Nat.add_comm _ _

-- Without a zero in front the digits of a number are those it is written with.
theorem digits_numeral {c : Char} {rest : List Char} (first : c ≠ '0') (digits : ∀ d ∈ c :: rest, isDigit d = true) :
    Nat.digits 10 (numeral (c :: rest)) = ((c :: rest).map digitOf).reverse := by
  rw [numeral_eq]
  refine Nat.digits_ofDigits 10 (by decide) _ ?_ ?_
  · intro digit there
    obtain ⟨d,listed,rfl⟩ := List.mem_map.mp (List.mem_reverse.mp there)
    exact (digitOf_digit (digits d listed)).2
  · intro _
    rw [List.getLast_reverse]
    change digitOf c ≠ 0
    intro zero
    have written := (digitOf_digit (digits c List.mem_cons_self)).1
    rw [zero] at written
    exact first (Char.toNat_inj.mp written.symm)

theorem toList_of_position? (placed : position? key = some n) :
    key.toList = if n = 0 then ['0'] else (Nat.digits 10 n).reverse.map fun digit => Char.ofNat (48 + digit) := by
  unfold position? at placed
  split at placed
  · cases placed
  · rename_i written
    cases placed
    exact written
  · rename_i c rest _ written
    split at placed
    · rename_i valid
      cases placed
      simp only [Bool.and_eq_true,bne_iff_ne,List.all_eq_true] at valid
      obtain ⟨⟨⟨first,digits⟩,_⟩,_⟩ := valid
      have read := digits_numeral first digits
      have positive : numeral (c :: rest) ≠ 0 := by
        intro zero
        rw [zero,Nat.digits_zero] at read
        simp at read
      rw [if_neg positive,read,List.reverse_reverse,List.map_map,written,← List.map_id (c :: rest),List.map_map]
      refine List.map_congr_left fun d there => ?_
      change d = Char.ofNat (48 + digitOf d)
      rw [(digitOf_digit (digits d there)).1,Char.ofNat_toNat]
    · cases placed

theorem position?_injective (placed : position? key = some n) (placed' : position? other = some n) : key = other := by
  rw [← String.toList_inj,toList_of_position? placed,toList_of_position? placed']

theorem precedes_trans {first second third : String} (before : precedes first second = true)
    (after : precedes second third = true) : precedes first third = true := by
  unfold precedes at *
  cases placed : position? third with
  | none => rfl
  | some c =>
    rw [placed] at after
    cases placed' : position? second with
    | none => simp [placed'] at after
    | some b =>
      rw [placed'] at before after
      cases placed'' : position? first with
      | none => simp [placed''] at before
      | some a =>
        rw [placed''] at before
        rw [decide_eq_true_eq] at *
        exact before.trans after

-- Of two names one keeps its place in front of the other.
theorem precedes_of_not {first second : String} (apart : first ≠ second) (behind : precedes first second = false) :
    precedes second first = true := by
  unfold precedes at *
  cases placed : position? first with
  | none => rfl
  | some m =>
    cases placed' : position? second with
    | none => simp [placed'] at behind
    | some n =>
      have different : m ≠ n := fun same => apart (position?_injective placed (same ▸ placed'))
      simp only [placed,placed',decide_eq_false_iff_not,decide_eq_true_eq] at behind ⊢
      omega

theorem ordered_insert (ordered : Ordered fields) (fresh : key ∉ keys fields) : Ordered (insert key value fields) := by
  induction fields with
  | nil => exact List.pairwise_singleton _ _
  | cons entry rest ih =>
    obtain ⟨name,held⟩ := entry
    obtain ⟨first,others⟩ := List.pairwise_cons.mp ordered
    rw [keys,List.map_cons,List.mem_cons,not_or] at fresh
    rw [insert]
    split
    · rename_i before
      refine List.pairwise_cons.mpr ⟨?_,ih others fresh.2⟩
      intro other there
      rcases List.mem_cons.mp (((insert_perm key value rest).map Prod.fst).mem_iff.mp there) with rfl | later
      · exact before
      · exact first other later
    · rename_i behind
      have before := precedes_of_not (Ne.symm fresh.1) (Bool.eq_false_of_not_eq_true behind)
      refine List.pairwise_cons.mpr ⟨?_,ordered⟩
      exact List.forall_mem_cons.mpr ⟨before,fun other later => precedes_trans before (first other later)⟩

theorem ordered_put (ordered : Ordered fields) : Ordered (put key value fields) := by
  rw [put,has]
  split
  · rw [Ordered,keys_replace]
    exact ordered
  · rename_i fresh
    rw [Option.isSome_iff_ne_none,not_not,get?_eq_none] at fresh
    exact ordered_insert ordered fresh

theorem ordered_putAll (ordered : Ordered fields) (entries : List (String × α)) : Ordered (putAll fields entries) := by
  induction entries generalizing fields with
  | nil => exact ordered
  | cons entry rest ih => exact ih (ordered_put ordered)

theorem ordered_ofEntries (entries : List (String × α)) : Ordered (ofEntries entries) := by
  have none : Ordered ([] : Fields α) := List.Pairwise.nil
  exact ordered_putAll none entries

-- Fields that were written once are written again as they are.
theorem ofEntries_again (entries : List (String × α)) : ofEntries (ofEntries entries) = ofEntries entries :=
  putAll_ordered (ordered_ofEntries entries) (nodup_ofEntries entries)

theorem insert_position {position : Nat} {R : String → String → Prop} (placed : position? key = some position)
    (before : (keys fields).Pairwise fun name later => position? name = none → position? later = none → R name later) :
    (keys (insert key value fields)).Pairwise fun name later => position? name = none → position? later = none → R name later := by
  obtain ⟨front,back,parted,inserted⟩ := insert_parts key value fields
  rw [parted,keys,List.map_append,List.pairwise_append] at before
  obtain ⟨first,second,across⟩ := before
  rw [inserted,keys_append_cons,List.pairwise_append]
  refine ⟨first,List.pairwise_cons.mpr ⟨?_,second⟩,?_⟩
  · intro name _ free
    rw [placed] at free
    cases free
  · intro name there later listed
    rcases List.mem_cons.mp listed with rfl | listed
    · intro _ free
      rw [placed] at free
      cases free
    · exact across name there later listed

-- Names that read as no position stand in the order in which they were first written.
theorem ofEntries_appearance (entries : List (String × α)) : (keys (ofEntries entries)).Pairwise fun name later =>
    position? name = none → position? later = none → (keys entries).idxOf name < (keys entries).idxOf later := by
  induction entries using List.reverseRecOn with
  | nil => exact List.Pairwise.nil
  | append_singleton entries entry ih =>
    obtain ⟨key,value⟩ := entry
    have written : ofEntries (entries ++ [(key,value)]) = put key value (ofEntries entries) := putAll_append [] entries _
    have names : keys (entries ++ [(key,value)]) = keys entries ++ [key] := List.map_append
    have kept : (keys (ofEntries entries)).Pairwise fun name later => position? name = none → position? later = none →
        (keys entries ++ [key]).idxOf name < (keys entries ++ [key]).idxOf later := by
      refine ih.imp_of_mem ?_
      intro name later there there' before
      rw [List.idxOf_append_of_mem (mem_keys_ofEntries.mp there),List.idxOf_append_of_mem (mem_keys_ofEntries.mp there')]
      exact before
    rw [written,names,put]
    split
    · rw [keys_replace]
      exact kept
    · rename_i fresh
      rw [has,Option.isSome_iff_ne_none,not_not,get?_eq_none] at fresh
      cases placed : position? key with
      | some position => exact insert_position placed kept
      | none =>
        have last : ∀ name ∈ keys (ofEntries entries), precedes name key = true := fun name _ => by rw [precedes,placed]
        rw [insert_last last,keys_append_cons,List.pairwise_append]
        refine ⟨kept,List.pairwise_singleton _ _,?_⟩
        intro name there later same _ _
        cases List.mem_singleton.mp same
        have inside := mem_keys_ofEntries.mp there
        rw [List.idxOf_append_of_mem inside,List.idxOf_append_of_notMem (mt mem_keys_ofEntries.mpr fresh)]
        exact Nat.lt_add_right _ (List.idxOf_lt_length_of_mem inside)

end Trifold.Fields
