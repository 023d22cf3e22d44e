import Trifold.Proofs.Agree
import Trifold.Proofs.Payload.Clean

namespace Trifold.Payload
open Value
open List (Forall₂)

-- The same names in the same order, with the same values under all names that are not sensitive.
def Covered (fields fields' : Fields Value) : Prop :=
  Forall₂ (fun entry entry' => entry.1 = entry'.1 ∧ (isSensitive entry.1 = false → entry.2 = entry'.2)) fields fields'

variable {fields fields' out : Fields Value} {entries : List (String × Value)} {data data' value : Value}
  {host : Host}

theorem Covered.eq (same : Covered fields fields') : fields.map covered = fields'.map covered := by
  refine Agree.map_eq same ?_
  rintro ⟨name,value⟩ ⟨_,value'⟩ ⟨rfl,kept⟩
  unfold covered
  dsimp only
  cases secret : isSensitive name with
  | true => rfl
  | false => exact congrArg _ (kept secret)

theorem redactedFields_same (same : Covered fields fields') : redactedFields fields = redactedFields fields' := by
  rw [redactedFields_covered,redactedFields_covered,same.eq]

theorem redact_same (there : data.isMissing = false) (there' : data'.isMissing = false)
    (same : Covered (own data) (own data')) : redact data host = redact data' host := by
  rw [redact,redact,Ask.bind_ok (entries_there there),Ask.bind_ok (entries_there there'),redactedFields_same same]

theorem put_covered (name : String) (value : Value) (fields : Fields Value) :
    (Fields.put name value fields).map covered = Fields.put name (covered (name,value)).2 (fields.map covered) :=
  Fields.map_put (fun name value => if isSensitive name then text redacted else value) name value fields

theorem has_covered (name : String) (fields : Fields Value) : Fields.has name (fields.map covered) = Fields.has name fields :=
  Fields.has_map (fun name value => if isSensitive name then text redacted else value) name fields

theorem assign_covered (flat : isBase value = false) (locked bare : Bool) (name : String) (fields : Fields Value) :
    ∃ bare' out, assign locked name value (.record bare fields) = .ok (.record bare' out) ∧
      assign locked name (covered (name,value)).2 (.record bare (fields.map covered)) =
        .ok (.record bare' (out.map covered)) := by
  have listed : setsBase name (.record bare (fields.map covered)) = setsBase name (.record bare fields) := by
    rw [setsBase,setsBase,isRooted,isRooted,has_covered]
  unfold assign
  rw [listed]
  split
  · rename_i set
    rw [setsBase,Bool.and_eq_true,beq_iff_eq] at set
    rw [set.1,covered_base]
    cases value with
    | null => exact ⟨true,fields,rfl,rfl⟩
    | list | record | heir | ancestor | pattern | date | foreign | function => cases flat
    | _ => exact ⟨bare,fields,rfl,rfl⟩
  · refine ⟨bare,Fields.put name value fields,rfl,?_⟩
    rw [put_covered]

theorem assignAll_covered (flat : ∀ entry ∈ entries, isBase entry.2 = false) :
    ∃ bare out, assignAll false entries = .ok (.record bare out) ∧
      assignAll false (entries.map covered) = .ok (.record bare (out.map covered)) := by
  have from_ (bare : Bool) (fields : Fields Value) :
      ∃ bare' out, entries.foldlM (fun target entry => assign false entry.1 entry.2 target) (.record bare fields) =
          .ok (.record bare' out) ∧
        (entries.map covered).foldlM (fun target entry => assign false entry.1 entry.2 target)
          (.record bare (fields.map covered)) = .ok (.record bare' (out.map covered)) := by
    induction entries generalizing bare fields with
    | nil => exact ⟨bare,fields,rfl,rfl⟩
    | cons entry rest ih =>
      obtain ⟨here,later⟩ := List.forall_mem_cons.mp flat
      obtain ⟨bare',next,written,written'⟩ := assign_covered here false bare entry.1 fields
      obtain ⟨bare'',out,ended,ended'⟩ := ih later bare' next
      rw [List.map_cons,List.foldlM_cons,List.foldlM_cons,covered_name,written,written']
      exact ⟨bare'',out,ended,ended'⟩
  exact from_ false []

-- What is collected of flat values and then redacted depends on no more of them than what is left when they are covered.
theorem redacted_assigned {entries' : List (String × Value)} (flat : ∀ entry ∈ entries, isBase entry.2 = false)
    (flat' : ∀ entry ∈ entries', isBase entry.2 = false) (same : entries.map covered = entries'.map covered) :
    ∃ data, (do redactedFields (own (← assignAll false entries))) = .ok data ∧
      (do redactedFields (own (← assignAll false entries'))) = .ok data := by
  obtain ⟨bare,out,ended,left⟩ := assignAll_covered flat
  obtain ⟨bare',out',ended',right⟩ := assignAll_covered flat'
  obtain ⟨_,_,written,sources⟩ := assignAll_unbased (fun entry there _ => flat entry there) false false []
  cases ended.symm.trans written
  rw [← same,left] at right
  injection right with right
  injection right with _ right
  have known : ∀ entry ∈ out, entry.1 = baseName → isBase entry.2 = false := fun entry there _ =>
    flat entry ((sources entry there).resolve_left List.not_mem_nil)
  obtain ⟨_,_,redacted,_⟩ := assignAll_unbased (covered_unbased known) false false []
  rw [ended,ended']
  refine ⟨_,redacted,?_⟩
  change redactedFields out' = _
  rw [redactedFields_covered,← right]
  exact redacted

end Trifold.Payload
