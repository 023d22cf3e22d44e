import Trifold.Proofs.Payload.Clean

namespace Trifold.Payload
open Value

variable {data value : Value} {fields : Fields Value} {bound : Bound} {level n s : ℕ} {x : Float} {host : Host}

theorem depthWithin_from (each : ∀ entry ∈ fields, ∀ level, depthOf none level entry.2 = level + depthOf none 0 entry.2)
    (level : ℕ) : depthWithin none level fields = level + depthWithin none 0 fields := by
  induction fields with
  | nil => rfl
  | cons entry rest ih =>
    obtain ⟨here,later⟩ := List.forall_mem_cons.mp each
    rw [depthWithin,depthWithin,here,ih later,Nat.add_max_add_left]

theorem depthOf_record (level : ℕ) (bare : Bool) (fields : Fields Value) :
    depthOf none level (.record bare fields) = depthWithin none (level + 1) fields := by
  rw [depthOf,exceededBy_none]
  rfl

theorem depthOf_from (value : Value) (level : ℕ) : depthOf none level value = level + depthOf none 0 value := by
  induction value using members generalizing level with
  | plain value flat => cases value <;> first | rfl | cases flat
  | list | heir => rfl
  | record bare fields ih =>
    rw [depthOf_record,depthOf_record,depthWithin_from ih,depthWithin_from ih (0 + 1)]
    omega

theorem depthWithin_capped (each : ∀ entry ∈ fields, depthOf (some s) level entry.2 = min (depthOf none level entry.2) (s + 1))
    (inside : level ≤ s) : depthWithin (some s) level fields = min (depthWithin none level fields) (s + 1) := by
  induction fields with
  | nil => exact (Nat.min_eq_left (Nat.le_succ_of_le inside)).symm
  | cons entry rest ih =>
    obtain ⟨here,later⟩ := List.forall_mem_cons.mp each
    rw [depthWithin,depthWithin,here,ih later]
    omega

theorem depthOf_capped (value : Value) (inside : level ≤ s) :
    depthOf (some s) level value = min (depthOf none level value) (s + 1) := by
  induction value using members generalizing level with
  | plain value flat =>
    cases value with
    | list | record | heir => cases flat
    | ancestor => exact (Nat.min_eq_left (Nat.succ_le_succ inside)).symm
    | _ => exact (Nat.min_eq_left (Nat.le_succ_of_le inside)).symm
  | list | heir => exact (Nat.min_eq_left (Nat.le_succ_of_le inside)).symm
  | record bare fields ih =>
    rw [depthOf_record,depthOf]
    split
    · rename_i past
      have past := exceededBy_some.mp past
      have least := @depthWithin_from fields (fun entry _ => depthOf_from entry.2) (level + 1)
      omega
    · rename_i short
      rw [exceededBy_some] at short
      have inside : level + 1 ≤ s := by omega
      exact depthWithin_capped (fun entry there => ih entry there inside) inside

def full (fields : Fields Value) : ℕ := depth none 0 fields

theorem not_exceededBy_zero (s : ℕ) : ¬ Bound.exceededBy (some s) 0 = true := by
  rw [exceededBy_some]
  omega

theorem depth_capped (s : ℕ) (fields : Fields Value) : depth (some s) 0 fields = min (full fields) (s + 1) := by
  rw [depth,if_neg (not_exceededBy_zero s),full,depth,if_neg (by rw [exceededBy_none]; exact Bool.false_ne_true)]
  exact depthWithin_capped (fun entry _ => depthOf_capped entry.2 (Nat.zero_le s)) (Nat.zero_le s)

-- A record that holds so many more, one in the other.
inductive Nested : ℕ → Fields Value → Prop
  | here (fields : Fields Value) : Nested 0 fields
  | into {n : ℕ} {fields : Fields Value} {key : String} {value : Value} (listed : (key,value) ∈ fields)
      (plain : value.isPlain = true) (deeper : Nested n (own value)) : Nested (n + 1) fields

theorem depthOf_plain (plain : value.isPlain = true) : depthOf none 0 value = full (own value) + 1 := by
  rcases isPlain_cases plain with ⟨bare,fields,rfl⟩ | rfl
  · rw [depthOf_record,depthWithin_from fun entry _ => depthOf_from entry.2]
    exact Nat.add_comm _ _
  · rfl

theorem depthOf_flat (flat : value.isPlain = false) : depthOf none 0 value = 0 := by
  cases value with
  | record | ancestor => cases flat
  | _ => rfl

theorem lt_full_iff : n < full fields ↔ ∃ entry ∈ fields, entry.2.isPlain = true ∧ n ≤ full (own entry.2) := by
  have one (value : Value) : n < depthOf none 0 value ↔ value.isPlain = true ∧ n ≤ full (own value) := by
    cases plain : value.isPlain with
    | true => simp [depthOf_plain plain]
    | false => simp [depthOf_flat plain]
  change n < depthWithin none 0 fields ↔ _
  induction fields with
  | nil => simp [depthWithin]
  | cons entry rest ih => rw [depthWithin,lt_max_iff,one,ih,List.exists_mem_cons_iff]

theorem nested_iff : Nested n fields ↔ n ≤ full fields := by
  constructor
  · intro nested
    induction nested with
    | here => exact Nat.zero_le _
    | into listed plain _ ih => exact lt_full_iff.mpr ⟨_,listed,plain,ih⟩
  · intro least
    induction n generalizing fields with
    | zero => exact .here fields
    | succ n ih =>
      obtain ⟨entry,listed,plain,least⟩ := lt_full_iff.mp least
      exact .into listed plain (ih least)

-- A text among the fields of a record, or of one it holds at any depth.
inductive Holds (s : String) : Fields Value → Prop
  | here {fields : Fields Value} {key : String} (listed : (key,text s) ∈ fields) : Holds s fields
  | into {fields : Fields Value} {key : String} {value : Value} (listed : (key,value) ∈ fields)
      (plain : value.isPlain = true) (deeper : Holds s (own value)) : Holds s fields

-- The text a value is, or one it holds.
def Reads (s : String) (value : Value) : Prop := value = text s ∨ value.isPlain = true ∧ Holds s (own value)

theorem holds_iff {s : String} : Holds s fields ↔ ∃ entry ∈ fields, Reads s entry.2 := by
  constructor
  · intro holds
    cases holds with
    | here listed => exact ⟨_,listed,.inl rfl⟩
    | into listed plain deeper => exact ⟨_,listed,.inr ⟨plain,deeper⟩⟩
  · rintro ⟨⟨key,value⟩,listed,rfl | ⟨plain,deeper⟩⟩
    · exact .here listed
    · exact .into listed plain deeper

theorem reads_record (s : String) (bare : Bool) (fields : Fields Value) : Reads s (.record bare fields) ↔ ∃ entry ∈ fields, Reads s entry.2 := by
  rw [Reads,← holds_iff]
  simp [isPlain,own]

theorem isLong_iff : isLong bound value = true ↔ ∃ s : String, Reads s value ∧ bound.exceededBy s.length = true := by
  induction value using members with
  | plain value flat =>
    cases value with
    | list | record | heir => cases flat
    | text s => simp [isLong,Reads,isPlain]
    | ancestor =>
      have none (s : String) : ¬ Holds s [] := fun holds => nomatch holds_iff.mp holds
      simp [isLong,Reads,own,none]
    | _ => simp [isLong,Reads,isPlain]
  | list | heir => simp [isLong,Reads,isPlain]
  | record bare fields ih =>
    rw [isLong,hasLongText_iff]
    simp only [reads_record]
    constructor
    · rintro ⟨entry,listed,long⟩
      obtain ⟨s,reads,longer⟩ := (ih entry listed).mp long
      exact ⟨s,⟨entry,listed,reads⟩,longer⟩
    · rintro ⟨s,⟨entry,listed,reads⟩,longer⟩
      exact ⟨entry,listed,(ih entry listed).mpr ⟨s,reads,longer⟩⟩

theorem holdsLong_iff :
    hasLongText bound fields = true ↔ ∃ s : String, Holds s fields ∧ bound.exceededBy s.length = true := by
  simp only [holds_iff,← reads_record _ false]
  rw [← isLong_iff,isLong]

theorem hasTextIn_of_long (long : isLong bound value = true) : hasTextIn value = true := by
  induction value using members with
  | plain value flat => cases value <;> first | rfl | cases long | cases flat
  | list | heir => cases long
  | record bare fields ih =>
    rw [isLong,hasLongText_iff] at long
    obtain ⟨entry,listed,long⟩ := long
    exact hasText_iff.mpr ⟨entry,listed,ih entry listed long⟩

theorem hasText_of_long (long : hasLongText bound fields = true) : hasText fields = true := by
  obtain ⟨entry,listed,long⟩ := hasLongText_iff.mp long
  exact hasText_iff.mpr ⟨entry,listed,hasTextIn_of_long long⟩

theorem boundOf_natural (means : Number.Means x s) : Bound.ofValue (number x) host = .ok (some (s : ℤ)) := by
  rw [boundOf_number,ofNumber_means means,Int.floor_natCast]

theorem measure_zero (stop : Value) : measure data (number 0) stop = do
    let bound ← Bound.ofValue (stop.given (number Number.infinity))
    if bound.exceededBy 0 then return number 0 else return ofNat (depth bound 0 (← entries data)) := by
  have zero : isLevel 0 = true := by decide +kernel
  have start : ((Number.truncated? 0).getD 0).toNat = 0 := by decide +kernel
  unfold measure
  simp only [given,isAbsent,Bool.false_eq_true,if_false]
  rw [if_pos zero,start]

theorem measure_capped (there : data.isMissing = false) (means : Number.Means x s) :
    measure data (number 0) (number x) host = .ok (ofNat (min (full (own data)) (s + 1))) := by
  rw [measure_zero]
  refine (Ask.bind_ok (boundOf_natural means)).trans ?_
  rw [if_neg (not_exceededBy_zero s),Ask.bind_ok (entries_there there),depth_capped]
  rfl

theorem measure_full (there : data.isMissing = false) : measure data absent absent host = .ok (ofNat (full (own data))) := by
  have unbounded : Bound.ofValue (number Number.infinity) host = .ok none := by
    rw [boundOf_number,show Bound.ofNumber Number.infinity = none by decide +kernel]
  change measure data (number 0) absent host = _
  rw [measure_zero]
  refine (Ask.bind_ok unbounded).trans ?_
  rw [exceededBy_none]
  exact Ask.bind_ok (entries_there there)

-- The check as one decision. The walk for any text at all comes to nothing where no text is long.
theorem violation_eq (there : data.isMissing = false) (means : Number.Means x s) (size length : Float) :
    violation ⟨number size,number x,number length⟩ data host = .ok
      (if s < full (own data) then some .tooDeep
        else if (Bound.ofNumber size).exceededBy (Payload.size (own data)) then some .tooLarge
        else if hasLongText (Bound.ofNumber length) (own data) then some .textTooLong
        else none) := by
  have deep : Bound.exceededBy (some s) (depth (some s) 0 (own data)) = true ↔ s < full (own data) := by
    rw [depth_capped,exceededBy_some]
    omega
  unfold violation
  rw [Ask.bind_ok (boundOf_natural means),if_neg (not_exceededBy_zero s),Ask.bind_ok (entries_there there)]
  dsimp only
  by_cases beyond : s < full (own data)
  · rw [if_pos (deep.mpr beyond),if_pos beyond]
    rfl
  · rw [if_neg (mt deep.mp beyond),if_neg beyond,Ask.bind_ok (boundOf_number size)]
    split
    · rfl
    · cases texts : hasText (own data) with
      | false =>
        have short : ¬ hasLongText (Bound.ofNumber length) (own data) = true := by
          intro long
          rw [hasText_of_long long] at texts
          cases texts
        rw [if_neg short]
        rfl
      | true =>
        exact Ask.bind_ok (boundOf_number length)

open Classical in
-- The walk that stops past a bound finds the smaller of the full depth and one more than the bound, so the check reports the
-- first limit that is broken: depth, then size, then the length of some text at any depth. It passes where none is.
theorem violation_first (there : data.isMissing = false) (host : Host) :
    measure data absent absent host = .ok (ofNat (full (own data))) ∧
    (∀ n, Nested n (own data) ↔ n ≤ full (own data)) ∧
    ∀ (s : ℕ) (x : Float), Number.Means x s →
      measure data (number 0) (number x) host = .ok (ofNat (min (full (own data)) (s + 1))) ∧
      ∀ size length : Float, let check := violation ⟨number size,number x,number length⟩ data host
        check = .ok (if s < full (own data) then some .tooDeep
          else if Exceeds (Payload.size (own data)) size then some .tooLarge
          else if ∃ text, Holds text (own data) ∧ Exceeds text.length length then some .textTooLong
          else none) ∧
        (check = .ok none ↔ full (own data) ≤ s ∧ ¬ Exceeds (Payload.size (own data)) size ∧
          ∀ text, Holds text (own data) → ¬ Exceeds text.length length) := by
  refine ⟨measure_full there,fun n => nested_iff,?_⟩
  intro s x means
  refine ⟨measure_capped there means,?_⟩
  intro size length check
  have long : hasLongText (Bound.ofNumber length) (own data) = true ↔
      ∃ text, Holds text (own data) ∧ Exceeds text.length length :=
    holdsLong_iff.trans (exists_congr fun _ => and_congr_right' exceededBy_iff)
  have told : check = _ := (violation_eq there means size length).trans
    (congrArg Except.ok (if_congr Iff.rfl rfl (if_congr exceededBy_iff rfl (if_congr long rfl rfl))))
  refine ⟨told,?_⟩
  rw [told]
  split_ifs with deep large longer
  · exact ⟨nofun,fun passes => absurd deep (not_lt.mpr passes.1)⟩
  · exact ⟨nofun,fun passes => absurd large passes.2.1⟩
  · obtain ⟨text,holds,longer⟩ := longer
    exact ⟨nofun,fun passes => absurd longer (passes.2.2 text holds)⟩
  · exact ⟨fun _ => ⟨not_lt.mp deep,large,fun text holds longer' => longer ⟨text,holds,longer'⟩⟩,fun _ => rfl⟩

def parcel : Value := object [("note",text "abcd"), ("inner",object [("last",object [])])]

theorem violation_first_parcel : parcel.isMissing = false ∧ Number.Means (Float.ofNat 1) (1 : ℕ) ∧
    measure parcel (number 0) (number (Float.ofNat 1)) .silent = .ok (ofNat 2) ∧
    violation ⟨number 50,number (Float.ofNat 1),number 3⟩ parcel .silent = .ok (some .tooDeep) := by
  have means : Number.Means (Float.ofNat 1) (1 : ℕ) := Number.means_ofNat (by decide)
  obtain ⟨-,-,limited⟩ := @violation_first parcel rfl .silent
  obtain ⟨measured,checked⟩ := limited 1 _ means
  obtain ⟨told,-⟩ := checked 50 3
  refine ⟨rfl,means,measured,?_⟩
  rw [told,if_pos (by decide)]

end Trifold.Payload
