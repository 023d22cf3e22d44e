import Trifold.Proofs.Payload.Bound
import Trifold.Proofs.Payload.Plain
import Trifold.Proofs.Payload.Stripped
import Trifold.Proofs.Position
import Trifold.Proofs.Signal.Event

namespace Trifold.Payload
open Value
open List (Forall₂)

-- A text at some depth of records has more characters than can be cleaned.
def Long (data : Value) : Prop := ∃ path s, within path data = some (text s) ∧ longestText < s.length

-- No record at any depth has the special name.
abbrev Rootless (data : Value) : Prop := Based (fun _ => False) data

def isKept : Value → Bool
  | .list _ | .number _ | .bool _ | .null | .absent => true
  | _ => false

def isOther : Value → Bool
  | .bigint _ | .symbol .. | .function _ | .heir .. | .pattern .. | .date | .foreign => true
  | _ => false

-- What cleaning makes of a value.
inductive Tidy : Value → Value → Prop
  | text {s t : String} (stripped : t = stripMarkup s) (free : ∀ c ∈ t.toList, c ≠ '<' ∧ c ≠ '>' ∧ c ≠ '&') :
      Tidy (.text s) (.text t)
  | record {data : Value} {out : Fields Value} (plain : data.isPlain = true)
      (names : (Fields.keys out).Perm (Fields.keys (own data)))
      (each : ∀ key value held, Fields.get? key (own data) = some value → Fields.get? key out = some held →
        Tidy value held) : Tidy data (object out)
  | kept {value : Value} (kept : isKept value = true) : Tidy value value
  | other {value : Value} (other : isOther value = true) : Tidy value .null

-- A value that is cleaned to this, and this to itself.
structure Settled (value out : Value) : Prop where
  cleaned : clean value = .ok (some out)
  tidy : Tidy value out
  again : clean out = .ok (some out)

def Answered (value : Value) : Prop :=
  (Long value ∧ clean value = .ok none) ∨ (¬ Long value ∧ ∃ out, Settled value out)

variable {data value held : Value} {fields cleaned draft : Fields Value} {key : String} {host : Host}

theorem long_plain (plain : data.isPlain = true) (once : (Fields.keys (own data)).Nodup) :
    Long data ↔ ∃ entry ∈ own data, Long entry.2 := by
  constructor
  · intro ⟨path,s,found,longer⟩
    cases path with
    | nil =>
      cases found
      cases plain
    | cons key path =>
      rw [within_plain plain] at found
      obtain ⟨value,there,below⟩ := Option.bind_eq_some_iff.mp found
      exact ⟨_,Fields.mem_of_get? there,path,s,below,longer⟩
  · intro ⟨⟨key,value⟩,there,path,s,below,longer⟩
    exact ⟨key :: path,s,(within_field plain once there).trans below,longer⟩

theorem not_long_flat (flat : value.fields? = none) (unwritten : value.text? = none) : ¬ Long value := by
  intro ⟨path,s,found,_⟩
  cases path with
  | nil =>
    cases found
    cases unwritten
  | cons key path =>
    rw [within,flat] at found
    cases found

theorem clean_plain (plain : data.isPlain = true) : clean data = cleanFields (object []) (own data) := by
  rcases isPlain_cases plain with ⟨bare,fields,rfl⟩ | rfl <;> rfl

abbrev Cleaned (fields cleaned : Fields Value) : Prop :=
  Forall₂ (fun entry it => entry.1 = it.1 ∧ Settled entry.2 it.2) fields cleaned

theorem cleanFields_cons (named : key ≠ baseName) (cleaned : clean value = .ok (some held)) (draft fields : Fields Value) :
    cleanFields (object draft) ((key,value) :: fields) = cleanFields (object (Fields.put key held draft)) fields := by
  rw [cleanFields,cleaned]
  dsimp only [bind,Except.bind]
  rw [assign_named _ named]

theorem cleanFields_some (named : ∀ entry ∈ fields, entry.1 ≠ baseName)
    (each : Forall₂ (fun entry it => entry.1 = it.1 ∧ clean entry.2 = .ok (some it.2)) fields cleaned)
    (draft : Fields Value) :
    cleanFields (object draft) fields = .ok (some (object (Fields.putAll draft cleaned))) := by
  induction each generalizing draft with
  | nil => rfl
  | @cons entry it _ _ first _ ih =>
    obtain ⟨here,later⟩ := List.forall_mem_cons.mp named
    obtain ⟨same,cleaned⟩ := first
    rw [cleanFields_cons here cleaned,same]
    exact ih later _

theorem cleanFields_none (named : ∀ entry ∈ fields, entry.1 ≠ baseName) (answers : ∀ entry ∈ fields, Answered entry.2)
    (long : ∃ entry ∈ fields, Long entry.2) (draft : Fields Value) : cleanFields (object draft) fields = .ok none := by
  induction fields generalizing draft with
  | nil =>
    obtain ⟨_,there,_⟩ := long
    cases there
  | cons first rest ih =>
    obtain ⟨here,later⟩ := List.forall_mem_cons.mp named
    obtain ⟨answer,others⟩ := List.forall_mem_cons.mp answers
    rcases answer with ⟨_,failed⟩ | ⟨short,held,settled⟩
    · rw [cleanFields,failed]
      rfl
    · rw [cleanFields_cons here settled.cleaned]
      refine ih later others ?_ _
      obtain ⟨entry,there,longer⟩ := long
      rcases List.mem_cons.mp there with rfl | below
      · exact absurd longer short
      · exact ⟨entry,below,longer⟩

theorem Cleaned.keys (each : Cleaned fields cleaned) : Fields.keys cleaned = Fields.keys fields :=
  (Agree.map_eq each fun _ _ related => related.1).symm

theorem Cleaned.get? (each : Cleaned fields cleaned) (given : Fields.get? key fields = some value)
    (found : Fields.get? key cleaned = some held) : Settled value held := by
  induction each with
  | nil => cases given
  | @cons entry it _ _ first rest ih =>
    obtain ⟨name,value'⟩ := entry
    obtain ⟨_,held'⟩ := it
    obtain ⟨rfl,settled⟩ := first
    rw [Fields.get?_cons] at given found
    by_cases here : name = key
    · rw [if_pos here] at given found
      cases given
      cases found
      exact settled
    · rw [if_neg here] at given found
      exact ih given found

theorem exists_cleaned (each : ∀ entry ∈ fields, ∃ held, Settled entry.2 held) : ∃ cleaned, Cleaned fields cleaned := by
  induction fields with
  | nil => exact ⟨[],.nil⟩
  | cons first rest ih =>
    obtain ⟨⟨held,settled⟩,later⟩ := List.forall_mem_cons.mp each
    obtain ⟨cleaned,others⟩ := ih later
    exact ⟨(first.1,held) :: cleaned,.cons ⟨rfl,settled⟩ others⟩

theorem keys_covered (fields : Fields Value) : Fields.keys (fields.map covered) = Fields.keys fields := by
  rw [Fields.keys,List.map_map]
  exact List.map_congr_left fun entry _ => covered_name entry

theorem get?_covered (key : String) (fields : Fields Value) : Fields.get? key (fields.map covered) =
    (Fields.get? key fields).map fun value => if isSensitive key then text redacted else value := by
  induction fields with
  | nil => rfl
  | cons entry rest ih =>
    obtain ⟨name,value⟩ := entry
    rw [List.map_cons,covered,Fields.get?_cons,Fields.get?_cons]
    by_cases here : name = key
    · rw [if_pos here,if_pos here,here]
      rfl
    · rw [if_neg here,if_neg here]
      exact ih

theorem redactedFields_named (named : ∀ entry ∈ fields, entry.1 ≠ baseName) (ordered : Fields.Ordered fields)
    (once : (Fields.keys fields).Nodup) : redactedFields fields = .ok (object (fields.map covered)) := by
  have named' : ∀ entry ∈ fields.map covered, entry.1 ≠ baseName := by
    refine List.forall_mem_map.mpr fun entry there => ?_
    rw [covered_name]
    exact named entry there
  have kept : Fields.putAll [] (fields.map covered) = fields.map covered := by
    refine Fields.putAll_ordered ?_ ?_
    · rw [List.nil_append,Fields.Ordered,keys_covered]
      exact ordered
    · rw [List.nil_append,keys_covered]
      exact once
  rw [redactedFields_covered,assignAll,assignAll_named false named',kept]

-- What is rebuilt is what was cleaned, in order, and in that order it is rebuilt again and redacted.
theorem settled_plain (plain : data.isPlain = true) (once : (Fields.keys (own data)).Nodup)
    (named : ∀ entry ∈ own data, entry.1 ≠ baseName) (each : Cleaned (own data) cleaned) :
    let out := Fields.ofEntries cleaned
    Settled data (object out) ∧ redactedFields out = .ok (object (out.map covered)) := by
  have once' : (Fields.keys cleaned).Nodup := each.keys ▸ once
  have listed := Fields.ofEntries_perm once'
  have settled : ∀ it ∈ Fields.ofEntries cleaned, it.1 ≠ baseName ∧ clean it.2 = .ok (some it.2) := by
    intro it there
    rw [listed.mem_iff] at there
    refine ⟨?_,Agree.forall_left each.flip (fun _ _ related => related.2.again) it there⟩
    have known : it.1 ∈ Fields.keys (own data) := each.keys ▸ List.mem_map_of_mem there
    obtain ⟨entry,given,same⟩ := List.mem_map.mp known
    exact same ▸ named entry given
  have named' : ∀ it ∈ Fields.ofEntries cleaned, it.1 ≠ baseName := fun it there => (settled it there).1
  refine ⟨⟨?_,?_,?_⟩,redactedFields_named named' (Fields.ordered_ofEntries cleaned) (Fields.nodup_ofEntries cleaned)⟩
  · rw [clean_plain plain]
    exact cleanFields_some named (each.imp fun _ _ related => ⟨related.1,related.2.cleaned⟩) []
  · refine .record plain (each.keys ▸ listed.map Prod.fst) ?_
    intro key value held given found
    rw [Fields.ofEntries,Fields.get?_putAll key once',Fields.get?_nil,Option.or_none] at found
    exact (each.get? given found).tidy
  · have rebuilt := cleanFields_some named' (List.forall₂_same.mpr fun it there => ⟨rfl,(settled it there).2⟩) []
    rwa [← Fields.ofEntries,Fields.ofEntries_again] at rebuilt

-- A payload without a text that is too long has been cleaned where each of its values has.
theorem rebuilt_plain (plain : data.isPlain = true) (once : (Fields.keys (own data)).Nodup)
    (named : ∀ entry ∈ own data, entry.1 ≠ baseName) (each : ∀ entry ∈ own data, Answered entry.2) (short : ¬ Long data) :
    ∃ out, Settled data (object out) ∧ redactedFields out = .ok (object (out.map covered)) := by
  have settled : ∀ entry ∈ own data, ∃ held, Settled entry.2 held := by
    intro entry there
    rcases each entry there with ⟨longer,_⟩ | ⟨_,held⟩
    · exact absurd ((long_plain plain once).mpr ⟨entry,there,longer⟩) short
    · exact held
  obtain ⟨cleaned,each⟩ := exists_cleaned settled
  exact ⟨_,settled_plain plain once named each⟩

theorem answered_plain (plain : data.isPlain = true) (once : (Fields.keys (own data)).Nodup)
    (named : ∀ entry ∈ own data, entry.1 ≠ baseName) (each : ∀ entry ∈ own data, Answered entry.2) : Answered data := by
  by_cases long : Long data
  · refine .inl ⟨long,(clean_plain plain).trans ?_⟩
    exact cleanFields_none named each ((long_plain plain once).mp long) []
  · obtain ⟨out,settled,_⟩ := rebuilt_plain plain once named each long
    exact .inr ⟨long,_,settled⟩

theorem answered (distinct : Distinct value) (rootless : Rootless value) : Answered value := by
  induction value using Value.members with
  | plain value flat =>
    cases value with
    | list | record | heir => cases flat
    | ancestor => exact answered_plain rfl List.nodup_nil nofun nofun
    | text s =>
      by_cases longer : longestText < s.length
      · exact .inl ⟨⟨[],s,rfl,longer⟩,by rw [clean,if_pos longer]⟩
      · have free (c : Char) (there : c ∈ (stripMarkup s).toList) := isMarkup_eq_false.mp (stripMarkup_free s c there)
        refine .inr ⟨?_,.text (stripMarkup s),?_,.text rfl free,?_⟩
        · intro long
          obtain ⟨path,s',found,longer'⟩ := long
          cases path <;> cases found
          exact longer longer'
        · rw [clean,if_neg longer]
        · have shorter := length_stripMarkup_le s
          rw [clean,if_neg (by omega),stripMarkup_again]
    | absent | null | bool | number => exact .inr ⟨not_long_flat rfl rfl,_,rfl,.kept rfl,rfl⟩
    | _ => exact .inr ⟨not_long_flat rfl rfl,_,rfl,.other rfl,rfl⟩
  | list items ih => exact .inr ⟨not_long_flat rfl rfl,_,rfl,.kept rfl,rfl⟩
  | record bare fields ih =>
    obtain ⟨once,inner⟩ := distinct
    obtain ⟨named,below⟩ := (based_record once).mp rootless
    refine answered_plain rfl once named ?_
    exact fun entry there => ih entry there (distinctFields_iff.mp inner entry there) (below entry there)
  | heir base locked fields _ _ => exact .inr ⟨not_long_flat rfl rfl,_,rfl,.other rfl,rfl⟩

theorem Tidy.of_plain (tidy : Tidy data held) (plain : data.isPlain = true) : ∃ out, held = object out ∧
    (Fields.keys out).Perm (Fields.keys (own data)) ∧
    ∀ key value held, Fields.get? key (own data) = some value → Fields.get? key out = some held → Tidy value held := by
  cases tidy with
  | text => cases plain
  | record _ names each => exact ⟨_,rfl,names,each⟩
  | kept kept => rcases isPlain_cases plain with ⟨bare,fields,rfl⟩ | rfl <;> cases kept
  | other other => rcases isPlain_cases plain with ⟨bare,fields,rfl⟩ | rfl <;> cases other

theorem sanitize_plain (plain : data.isPlain = true) :
    sanitize data host = (Ask.ofMisuse (Payload.cleaned (own data))) host := by
  rcases isPlain_cases plain with ⟨bare,fields,rfl⟩ | rfl <;> rfl

theorem sanitize_ok (plain : data.isPlain = true) (ended : clean data = .ok (some held)) :
    sanitize data host = .ok (.ok held) := by
  rw [clean_plain plain] at ended
  rw [sanitize_plain plain,Payload.cleaned,ended]
  rfl

theorem sanitize_long (plain : data.isPlain = true) (ended : clean data = .ok none) :
    sanitize data host = .ok (.error .tooLong) := by
  rw [clean_plain plain] at ended
  rw [sanitize_plain plain,Payload.cleaned,ended]
  rfl

theorem exceededBy_of_atMost {x : Float} {m n : Nat} (most : Number.AtMost x m) (longer : m < n) :
    (Bound.ofNumber x).exceededBy n = true := by
  refine exceededBy_iff.mpr (most.imp_right ?_)
  rintro ⟨a,means,le⟩
  exact ⟨a,means,le.trans_lt (by exact_mod_cast longer)⟩

theorem hasLongText_iff {bound : Bound} : hasLongText bound fields = true ↔ ∃ entry ∈ fields, isLong bound entry.2 = true := by
  induction fields with
  | nil => simp [hasLongText]
  | cons first rest ih => rw [hasLongText,Bool.or_eq_true,ih,List.exists_mem_cons_iff]

theorem hasText_iff : hasText fields = true ↔ ∃ entry ∈ fields, hasTextIn entry.2 = true := by
  induction fields with
  | nil => simp [hasText]
  | cons first rest ih => rw [hasText,Bool.or_eq_true,ih,List.exists_mem_cons_iff]

theorem met_of_within {bound : Bound} {path : List String} {s : String} (found : within path value = some (text s))
    (longer : bound.exceededBy s.length = true) : isLong bound value = true ∧ hasTextIn value = true := by
  induction path generalizing value with
  | nil =>
    cases found
    exact ⟨longer,rfl⟩
  | cons key path ih =>
    cases value with
    | record bare fields =>
      obtain ⟨held,there,below⟩ := Option.bind_eq_some_iff.mp found
      obtain ⟨long,holds⟩ := ih below
      have listed := Fields.mem_of_get? there
      exact ⟨hasLongText_iff.mpr ⟨_,listed,long⟩,hasText_iff.mpr ⟨_,listed,holds⟩⟩
    | _ => cases found

theorem violation_none (plain : data.isPlain = true) {size depth length : Float}
    (none : violation ⟨number size,number depth,number length⟩ data host = .ok none) :
    hasText (own data) = false ∨ hasLongText (Bound.ofNumber length) (own data) = false := by
  unfold violation at none
  rw [Ask.bind_ok (boundOf_number depth)] at none
  split at none
  · rename_i deep
    have level : Payload.depth (Bound.ofNumber depth) 0 [] = 0 := by rw [Payload.depth,if_pos deep]
    change (if (Bound.ofNumber depth).exceededBy (Payload.depth (Bound.ofNumber depth) 0 []) then _ else _ : Ask _) host = _
      at none
    rw [level,if_pos deep] at none
    cases none
  · rw [Ask.bind_ok (entries_plain plain)] at none
    dsimp only at none
    split at none
    · cases none
    · rw [Ask.bind_ok (boundOf_number size)] at none
      split at none
      · cases none
      · split at none
        · rename_i textless
          exact .inl (by simpa using textless)
        · rw [Ask.bind_ok (boundOf_number length)] at none
          split at none
          · cases none
          · rename_i short
            exact .inr (Bool.eq_false_of_not_eq_true short)

-- So a limit on the length of texts below what can be cleaned leaves no text that is too long for it.
theorem not_long_of_violation (plain : data.isPlain = true) {size depth length : Float}
    (none : violation ⟨number size,number depth,number length⟩ data host = .ok none)
    (small : length ≤ Float.ofNat longestText) : ¬ Long data := by
  intro ⟨path,s,found,longer⟩
  have most := Number.atMost_of_le small (Number.means_ofNat (by decide))
  obtain ⟨long,holds⟩ := met_of_within found (exceededBy_of_atMost most longer)
  have there : hasLongText (Bound.ofNumber length) (own data) = true ∧ hasText (own data) = true := by
    rcases isPlain_cases plain with ⟨bare,fields,rfl⟩ | rfl
    · exact ⟨long,holds⟩
    · cases long
  rcases violation_none plain none with textless | short
  · rw [there.2] at textless
    cases textless
  · rw [there.1] at short
    cases short

section Secured

variable {limits : Limits}

theorem secure_violation {error : PayloadError} (found : violation limits data host = .ok (some error)) :
    secure limits data host = .ok (.error (.payload error)) := by
  unfold secure
  rw [Ask.bind_ok found]
  rfl

theorem secure_long (found : violation limits data host = .ok none) (plain : data.isPlain = true)
    (failed : clean data = .ok none) : secure limits data host = .ok (.error .tooLong) := by
  unfold secure
  rw [Ask.bind_ok found]
  dsimp only
  rw [Ask.bind_ok (sanitize_long plain failed)]
  rfl

theorem secure_ok {out : Fields Value} {copy : Value} (found : violation limits data host = .ok none)
    (plain : data.isPlain = true) (cleaned : clean data = .ok (some (object out))) (redacted : redactedFields out = .ok copy) :
    secure limits data host = .ok (.ok copy) := by
  unfold secure
  rw [Ask.bind_ok found]
  dsimp only
  have covered : redact (object out) host = .ok copy := redact_ok redacted
  rw [Ask.bind_ok (sanitize_ok plain cleaned)]
  dsimp only
  rw [Ask.bind_ok covered]
  rfl

end Secured

theorem answered_fields (plain : data.isPlain = true) (distinct : Distinct data) (rootless : Rootless data) :
    (Fields.keys (own data)).Nodup ∧ (∀ entry ∈ own data, entry.1 ≠ baseName) ∧ ∀ entry ∈ own data, Answered entry.2 := by
  obtain ⟨once,each⟩ := distinct_own distinct
  obtain ⟨named,below⟩ := (based_plain plain once).mp rootless
  exact ⟨once,named,fun entry there => answered (each entry there) (below entry there)⟩

-- What violates nothing and has no text that is too long comes back with its names, redacted at the top and tidy below.
theorem secure_tidy {limits : Limits} (plain : data.isPlain = true) (distinct : Distinct data) (rootless : Rootless data)
    (found : violation limits data host = .ok none) (short : ¬ Long data) :
    ∃ out, secure limits data host = .ok (.ok (object out)) ∧ (Fields.keys out).Perm (Fields.keys (own data)) ∧
      ∀ key value held, Fields.get? key (own data) = some value → Fields.get? key out = some held →
        if isSensitive key then held = text redacted else Tidy value held := by
  obtain ⟨once,named,each⟩ := answered_fields plain distinct rootless
  obtain ⟨out,settled,redacted⟩ := rebuilt_plain plain once named each short
  obtain ⟨_,⟨⟩,names,tidy⟩ := settled.tidy.of_plain plain
  refine ⟨_,secure_ok found plain settled.cleaned redacted,keys_covered out ▸ names,?_⟩
  intro key value held given covered
  rw [get?_covered,Option.map_eq_some_iff] at covered
  obtain ⟨held',there,same⟩ := covered
  rw [← same]
  split
  · rfl
  · exact tidy key value held' given there

theorem sanitize_again (plain : data.isPlain = true) (distinct : Distinct data) (rootless : Rootless data)
    (ended : sanitize data host = .ok (.ok held)) : sanitize held host = .ok (.ok held) := by
  rcases answered distinct rootless with ⟨_,failed⟩ | ⟨_,out,settled⟩
  · rw [sanitize_long plain failed] at ended
    cases ended
  · rw [sanitize_ok plain settled.cleaned] at ended
    cases ended
    obtain ⟨_,rfl,_⟩ := settled.tidy.of_plain plain
    exact sanitize_ok rfl settled.again

-- What is secured was checked first, then cleaned, then redacted.
theorem secure_exact (plain : data.isPlain = true) (distinct : Distinct data) (rootless : Rootless data)
    (size depth length : Float) (host : Host) :
    let limits : Limits := ⟨number size,number depth,number length⟩
    (∃ verdict, violation limits data host = .ok verdict ∧ match verdict with
      | some error => secure limits data host = .ok (.error (.payload error))
      | none =>
          (Long data → secure limits data host = .ok (.error .tooLong)) ∧
          (length ≤ Float.ofNat longestText → ¬ Long data) ∧
          (¬ Long data → ∃ out, secure limits data host = .ok (.ok (object out)) ∧
            (Fields.keys out).Perm (Fields.keys (own data)) ∧
            ∀ key value held, Fields.get? key (own data) = some value → Fields.get? key out = some held →
              if isSensitive key then held = text redacted else Tidy value held)) ∧
    ∀ out, sanitize data host = .ok (.ok out) → sanitize out host = .ok (.ok out) := by
  refine ⟨?_,fun out => sanitize_again plain distinct rootless⟩
  obtain ⟨verdict,found⟩ := @violation_ok host data plain size depth length
  refine ⟨verdict,found,?_⟩
  cases verdict with
  | some error => exact secure_violation found
  | none =>
    refine ⟨?_,not_long_of_violation plain found,secure_tidy plain distinct rootless found⟩
    intro long
    rcases answered distinct rootless with ⟨_,failed⟩ | ⟨short,_⟩
    · exact secure_long found plain failed
    · exact absurd long short

-- Markup that joins into an entity, a value that is no plain data, and a sensitive name.
def letter : Value :=
  object [("token",text "t"), ("note",text "a&&lt;lt;b"), ("inner",object [("mark",text "<b>"), ("made",date)])]

theorem letter_distinct : Distinct letter := by
  simp [letter,object,Distinct,DistinctFields,Fields.keys]

theorem letter_rootless : Rootless letter := by
  refine (based_record letter_distinct.1).mpr ⟨by simp [baseName],?_⟩
  refine List.forall_mem_cons.mpr ⟨based_flat rfl,List.forall_mem_cons.mpr ⟨based_flat rfl,List.forall_mem_singleton.mpr ?_⟩⟩
  refine (based_record (by decide)).mpr ⟨by simp [baseName],?_⟩
  exact List.forall_mem_cons.mpr ⟨based_flat rfl,List.forall_mem_singleton.mpr (based_flat rfl)⟩

theorem secure_exact_letter : letter.isPlain = true ∧ Distinct letter ∧ Rootless letter ∧
    violation defaultLimits letter Host.silent = .ok none ∧
    ∃ out, secure defaultLimits letter Host.silent = .ok (.ok (object out)) ∧
      (Fields.keys out).Perm ["token", "note", "inner"] ∧
      ∀ held, Fields.get? "token" out = some held → held = text redacted := by
  have none : violation defaultLimits letter Host.silent = .ok none := rfl
  obtain ⟨⟨verdict,found,told⟩,_⟩ := secure_exact rfl letter_distinct letter_rootless 10000 10 1000 Host.silent
  cases none.symm.trans found
  obtain ⟨_,short,ends⟩ := told
  obtain ⟨out,secured,names,each⟩ := ends (short (by decide))
  refine ⟨rfl,letter_distinct,letter_rootless,none,out,secured,names,?_⟩
  intro held there
  exact each "token" (text "t") held rfl there

end Trifold.Payload
