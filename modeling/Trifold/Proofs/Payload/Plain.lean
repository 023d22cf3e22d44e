import Trifold.Payload.Hygiene
import Trifold.Proofs.Ask
import Trifold.Proofs.Value.Built
import Trifold.Proofs.Value.Json

namespace Trifold.Payload
open Value

-- What stands at the end of a path through records.
def within : List String → Value → Option Value
  | [], value => some value
  | key :: path, value => (value.fields?.bind (Fields.get? key)).bind (within path)

def isRecord : Value → Bool
  | record .. | heir .. => true
  | _ => false

-- Every record in a copy is plain and stands where a record of the payload stands, and under a name that one does not have
-- it reads as a record without fields.
def Plainly (data copy : Value) : Prop := ∀ path rebuilt, within path copy = some rebuilt → isRecord rebuilt = true →
  rebuilt.isPlain = true ∧ ∃ inner, within path data = some inner ∧ inner.isPlain = true ∧
    ∀ key, hasOwn key inner = false → rebuilt.get key = absent ∨ rebuilt.get key = inherited key

-- What stands under the special name, at whatever depth, is so.
def Based (P : Value → Prop) (data : Value) : Prop := ∀ path, ∀ base ∈ within (path ++ [baseName]) data, P base

-- What becomes the base of a record where it is assigned as one.
def isBase (value : Value) : Bool := value.isObject || value.isFunction

abbrev Unbased (data : Value) : Prop := Based (isBase · = false) data

variable {data copy value held : Value} {fields out : Fields Value} {bare bare' locked : Bool} {key : String} {host : Host}
  {P : Value → Prop}

theorem isPlain_cases (plain : data.isPlain = true) : (∃ bare fields, data = .record bare fields) ∨ data = .ancestor := by
  cases data with
  | record bare fields => exact .inl ⟨bare,fields,rfl⟩
  | ancestor => exact .inr rfl
  | _ => cases plain

theorem within_plain (plain : data.isPlain = true) (key : String) (path : List String) :
    within (key :: path) data = (Fields.get? key (own data)).bind (within path) := by
  rcases isPlain_cases plain with ⟨bare,fields,rfl⟩ | rfl <;> rfl

theorem within_field (plain : data.isPlain = true) (once : (Fields.keys (own data)).Nodup)
    (listed : (key,value) ∈ own data) {path : List String} : within (key :: path) data = within path value := by
  rw [within_plain plain,Fields.get?_of_mem once listed]
  rfl

theorem based_flat (flat : value.fields? = none) : Based P value := by
  intro path base there
  cases path <;> simp [within,flat] at there

theorem based_plain (plain : data.isPlain = true) (once : (Fields.keys (own data)).Nodup) :
    Based P data ↔ (∀ entry ∈ own data, entry.1 = baseName → P entry.2) ∧ ∀ entry ∈ own data, Based P entry.2 := by
  constructor
  · intro based
    constructor
    · intro ⟨key,value⟩ listed same
      subst same
      exact based [] value (within_field plain once listed)
    · intro ⟨key,value⟩ listed path base there
      exact based (key :: path) base ((within_field plain once listed).trans there)
  · intro ⟨here,below⟩ path base there
    cases path with
    | nil =>
      rw [List.nil_append,within_plain plain] at there
      obtain ⟨held,found,same⟩ := Option.bind_eq_some_iff.mp there
      cases same
      exact here _ (Fields.mem_of_get? found) rfl
    | cons key path =>
      rw [List.cons_append,within_plain plain] at there
      obtain ⟨held,found,deeper⟩ := Option.bind_eq_some_iff.mp there
      exact below _ (Fields.mem_of_get? found) path base deeper

theorem based_record (once : (Fields.keys fields).Nodup) : Based P (.record bare fields) ↔
    (∀ entry ∈ fields, entry.1 = baseName → P entry.2) ∧ ∀ entry ∈ fields, Based P entry.2 :=
  based_plain rfl once

theorem plainly_flat (flat : isRecord copy = false) : Plainly data copy := by
  intro path rebuilt found record
  cases path with
  | nil =>
    cases found
    rw [flat] at record
    cases record
  | cons key path =>
    cases copy with
    | record => cases flat
    | _ => cases found

theorem plainly_record (each : ∀ entry ∈ out, ∃ value, Fields.get? entry.1 fields = some value ∧ Plainly value entry.2) :
    Plainly (.record bare fields) (.record bare' out) := by
  intro path rebuilt found record
  cases path with
  | nil =>
    cases found
    refine ⟨rfl,_,rfl,rfl,?_⟩
    intro key foreign
    have none : Fields.get? key out = none := by
      by_contra there
      obtain ⟨held,there⟩ := Option.ne_none_iff_exists'.mp there
      obtain ⟨value,given,_⟩ := each _ (Fields.mem_of_get? there)
      rw [hasOwn,own,Fields.has,given] at foreign
      cases foreign
    rw [Value.get,none]
    cases bare'
    · exact .inr rfl
    · exact .inl rfl
  | cons key path =>
    obtain ⟨held,there,below⟩ := Option.bind_eq_some_iff.mp found
    obtain ⟨value,given,plainly⟩ := each _ (Fields.mem_of_get? there)
    obtain ⟨plain,inner,reached,facts⟩ := plainly path rebuilt below record
    refine ⟨plain,inner,?_,facts⟩
    change (Fields.get? key fields).bind (within path) = _
    rw [given]
    exact reached

theorem plainly_self (json : Json value) (distinct : Distinct value) : Plainly value value := by
  induction json with
  | @record fields each ih =>
    obtain ⟨once,inner⟩ := distinct
    refine plainly_record ?_
    intro entry there
    exact ⟨entry.2,Fields.get?_of_mem once there,ih entry there (distinctFields_iff.mp inner entry there)⟩
  | _ => exact plainly_flat rfl

theorem assign_unbased (unbased : key = baseName → isBase value = false) (locked bare : Bool) (fields : Fields Value) :
    ∃ bare' out, assign locked key value (.record bare fields) = .ok (.record bare' out) ∧
      ∀ entry ∈ out, entry ∈ fields ∨ entry = (key,value) := by
  unfold assign
  split
  · rename_i set
    rw [setsBase,Bool.and_eq_true,beq_iff_eq] at set
    have none := unbased set.1
    cases value with
    | null => exact ⟨true,fields,rfl,fun _ => .inl⟩
    | list | record | heir | ancestor | pattern | date | foreign | function => cases none
    | _ => exact ⟨bare,fields,rfl,fun _ => .inl⟩
  · exact ⟨bare,_,rfl,fun _ => Fields.mem_put⟩

theorem assignAll_unbased {entries : List (String × Value)}
    (unbased : ∀ entry ∈ entries, entry.1 = baseName → isBase entry.2 = false) (locked bare : Bool) (fields : Fields Value) :
    ∃ bare' out, entries.foldlM (fun target entry => assign locked entry.1 entry.2 target) (.record bare fields) =
      .ok (.record bare' out) ∧ ∀ entry ∈ out, entry ∈ fields ∨ entry ∈ entries := by
  induction entries generalizing bare fields with
  | nil => exact ⟨bare,fields,rfl,fun _ => .inl⟩
  | cons first rest ih =>
    obtain ⟨here,later⟩ := List.forall_mem_cons.mp unbased
    obtain ⟨bare',next,written,held⟩ := assign_unbased here locked bare fields
    obtain ⟨bare'',out,ended,sources⟩ := ih later bare' next
    refine ⟨bare'',out,?_,?_⟩
    · rw [List.foldlM_cons,written]
      exact ended
    · intro entry there
      rcases sources entry there with before | listed
      · refine (held entry before).imp_right ?_
        exact fun same => same ▸ List.mem_cons_self
      · exact .inr (List.mem_cons_of_mem _ listed)

theorem clean_unbased (unbased : isBase value = false) (cleaned : clean value = .ok (some held)) : isBase held = false := by
  cases value with
  | list | record | heir | ancestor | pattern | date | foreign | function => cases unbased
  | text s =>
    rw [clean] at cleaned
    split at cleaned
    · cases cleaned
    · cases cleaned
      rfl
  | _ =>
    cases cleaned
    rfl

theorem cleanFields_unbased (answers : ∀ entry ∈ fields, ∃ answer, clean entry.2 = .ok answer)
    (unbased : ∀ entry ∈ fields, entry.1 = baseName → isBase entry.2 = false) (bare : Bool) (draft : Fields Value) :
    cleanFields (.record bare draft) fields = .ok none ∨
      ∃ bare' out, cleanFields (.record bare draft) fields = .ok (some (.record bare' out)) ∧
        ∀ entry ∈ out, entry ∈ draft ∨ ∃ value, (entry.1,value) ∈ fields ∧ clean value = .ok (some entry.2) := by
  induction fields generalizing bare draft with
  | nil => exact .inr ⟨bare,draft,rfl,fun _ => .inl⟩
  | cons first rest ih =>
    obtain ⟨key,value⟩ := first
    obtain ⟨⟨answer,cleaned⟩,others⟩ := List.forall_mem_cons.mp answers
    obtain ⟨here,later⟩ := List.forall_mem_cons.mp unbased
    rw [cleanFields,cleaned]
    cases answer with
    | none => exact .inl rfl
    | some held =>
      obtain ⟨bare',next,written,kept⟩ := assign_unbased (fun same => clean_unbased (here same) cleaned) _ bare draft
      have fromFirst : ∀ entry ∈ next, entry ∈ draft ∨
          ∃ value', (entry.1,value') ∈ (key,value) :: rest ∧ clean value' = .ok (some entry.2) := by
        intro entry there
        refine (kept entry there).imp_right ?_
        intro same
        subst same
        exact ⟨value,List.mem_cons_self,cleaned⟩
      dsimp only [bind,Except.bind]
      rw [written]
      rcases ih others later bare' next with failed | ⟨bare'',out,ended,sources⟩
      · exact .inl failed
      · refine .inr ⟨bare'',out,ended,?_⟩
        intro entry there
        rcases sources entry there with before | ⟨value',listed,cleaned'⟩
        · exact fromFirst entry before
        · exact .inr ⟨value',List.mem_cons_of_mem _ listed,cleaned'⟩

-- What is rebuilt of the fields of a payload, with what can be said of each of them.
structure Rebuilt (fields : Fields Value) (copy : Value) : Prop where
  record : ∃ bare out, copy = .record bare out
  unbased : ∀ entry ∈ own copy, entry.1 = baseName → isBase entry.2 = false
  each : ∀ entry ∈ own copy, ∃ value, Fields.get? entry.1 fields = some value ∧ Plainly value entry.2

theorem Rebuilt.plain (rebuilt : Rebuilt fields copy) : copy.isPlain = true ∧ Plainly (object fields) copy := by
  obtain ⟨⟨bare,out,rfl⟩,_,each⟩ := rebuilt
  exact ⟨rfl,plainly_record each⟩

theorem rebuilt_of_sources (once : (Fields.keys fields).Nodup)
    (each : ∀ entry ∈ fields, ∃ answer, clean entry.2 = .ok answer ∧ ∀ held ∈ answer, Plainly entry.2 held)
    (unbased : ∀ entry ∈ fields, entry.1 = baseName → isBase entry.2 = false) :
    ∃ answer, cleanFields (object []) fields = .ok answer ∧ ∀ copy ∈ answer, Rebuilt fields copy := by
  have answers : ∀ entry ∈ fields, ∃ answer, clean entry.2 = .ok answer := by
    intro entry there
    obtain ⟨answer,cleaned,_⟩ := each entry there
    exact ⟨answer,cleaned⟩
  rcases cleanFields_unbased answers unbased false [] with failed | ⟨bare,out,ended,sources⟩
  · exact ⟨none,failed,nofun⟩
  · refine ⟨_,ended,?_⟩
    intro copy same
    cases same
    have sources : ∀ entry ∈ out, ∃ value, (entry.1,value) ∈ fields ∧ clean value = .ok (some entry.2) :=
      fun entry there => (sources entry there).resolve_left (List.not_mem_nil)
    have plainly : ∀ entry ∈ out, ∃ value, Fields.get? entry.1 fields = some value ∧ Plainly value entry.2 := by
      intro entry there
      obtain ⟨value,listed,cleaned⟩ := sources entry there
      obtain ⟨answer,cleaned',plainly⟩ := each _ listed
      cases cleaned.symm.trans cleaned'
      exact ⟨value,Fields.get?_of_mem once listed,plainly _ rfl⟩
    refine ⟨⟨bare,out,rfl⟩,?_,plainly⟩
    intro entry there same
    obtain ⟨value,listed,cleaned⟩ := sources entry there
    exact clean_unbased (unbased _ listed same) cleaned

theorem clean_plainly (json : Json value) (distinct : Distinct value) (unbased : Unbased value) :
    ∃ answer, clean value = .ok answer ∧ ∀ held ∈ answer, Plainly value held := by
  induction json with
  | @record fields each ih =>
    obtain ⟨once,inner⟩ := distinct
    obtain ⟨here,below⟩ := (based_record once).mp unbased
    have cleaned : ∀ entry ∈ fields, ∃ answer, clean entry.2 = .ok answer ∧ ∀ held ∈ answer, Plainly entry.2 held :=
      fun entry there => ih entry there (distinctFields_iff.mp inner entry there) (below entry there)
    obtain ⟨answer,ended,rebuilt⟩ := rebuilt_of_sources once cleaned here
    exact ⟨answer,ended,fun copy there => (rebuilt copy there).plain.2⟩
  | text s =>
    rw [clean]
    split
    · exact ⟨none,rfl,nofun⟩
    · refine ⟨_,rfl,?_⟩
      intro held same
      cases same
      exact plainly_flat rfl
  | _ =>
    refine ⟨_,rfl,?_⟩
    intro held same
    cases same
    exact plainly_flat rfl

-- One field as redacting leaves it.
def covered (entry : String × Value) : String × Value := (entry.1,if isSensitive entry.1 then text redacted else entry.2)

theorem covered_name (entry : String × Value) : (covered entry).1 = entry.1 := rfl

theorem covered_base (value : Value) : covered (baseName,value) = (baseName,value) := by
  have shown : isSensitive baseName = false := by decide
  rw [covered,shown]
  rfl

theorem redactedFields_covered (fields : Fields Value) : redactedFields fields = assignAll false (fields.map covered) := rfl

theorem covered_unbased (unbased : ∀ entry ∈ fields, entry.1 = baseName → isBase entry.2 = false) :
    ∀ entry ∈ fields.map covered, entry.1 = baseName → isBase entry.2 = false := by
  refine List.forall_mem_map.mpr fun entry there same => ?_
  rw [covered_name] at same
  unfold covered
  dsimp only
  split
  · rfl
  · exact unbased entry there same

theorem redactedFields_plainly (unbased : ∀ entry ∈ out, entry.1 = baseName → isBase entry.2 = false)
    (each : ∀ entry ∈ out, ∃ value, Fields.get? entry.1 fields = some value ∧ Plainly value entry.2) :
    ∃ copy, redactedFields out = .ok copy ∧ copy.isPlain = true ∧ Plainly (object fields) copy := by
  obtain ⟨bare,copy,ended,sources⟩ := assignAll_unbased (covered_unbased unbased) false false []
  refine ⟨_,ended,rfl,plainly_record ?_⟩
  intro entry there
  obtain ⟨entry,listed,rfl⟩ := List.mem_map.mp ((sources entry there).resolve_left List.not_mem_nil)
  obtain ⟨value,given,plainly⟩ := each _ listed
  rw [covered_name]
  refine ⟨value,given,?_⟩
  unfold covered
  dsimp only
  split
  · exact plainly_flat rfl
  · exact plainly

theorem refuses_unlocked (json : Json value) (key : String) : refuses key value false = false := by
  cases json with
  | list | record => exact Bool.and_false _
  | _ => rfl

theorem assignAll_heir {entries : List (String × Value)} (json : Json value)
    (named : ∀ entry ∈ entries, entry.1 ≠ baseName) (draft : Fields Value) :
    ∃ out, entries.foldlM (fun target entry => assign false entry.1 entry.2 target) (heir value false draft) =
      .ok (heir value false out) := by
  induction entries generalizing draft with
  | nil => exact ⟨draft,rfl⟩
  | cons first rest ih =>
    obtain ⟨here,later⟩ := List.forall_mem_cons.mp named
    obtain ⟨out,ended⟩ := ih later (Fields.put first.1 first.2 draft)
    refine ⟨out,?_⟩
    have plain : setsBase first.1 (heir value false draft) = false := by
      rw [setsBase,beq_false_of_ne here,Bool.false_and]
    have free : (!Fields.has first.1 draft && refuses first.1 value false) = false := by
      rw [refuses_unlocked json,Bool.and_false]
    rw [List.foldlM_cons,assign,plain,free]
    exact ended

theorem redactedFields_based (once : (Fields.keys fields).Nodup) (json : Json value) (base : isBase value = true)
    (listed : (baseName,value) ∈ fields) : ∃ out, redactedFields fields = .ok (heir value false out) := by
  obtain ⟨before,after,rfl⟩ := List.append_of_mem listed
  rw [Fields.keys,List.map_append,List.map_cons,List.nodup_middle,List.nodup_cons,List.mem_append,not_or] at once
  obtain ⟨⟨fresh,gone⟩,_⟩ := once
  have named {entries : Fields Value} (apart : baseName ∉ entries.map (·.1)) :
      ∀ entry ∈ entries.map covered, entry.1 ≠ baseName := by
    refine List.forall_mem_map.mpr fun entry there same => ?_
    rw [covered_name] at same
    exact apart (List.mem_map.mpr ⟨entry,there,same⟩)
  have rooted : setsBase baseName (object (Fields.putAll [] (before.map covered))) = true := by
    have none := Fields.get?_putAll_fresh (named fresh) []
    rw [setsBase,object,isRooted,Fields.has,none]
    rfl
  have set : assign false baseName value (object (Fields.putAll [] (before.map covered))) =
      .ok (heir value false (Fields.putAll [] (before.map covered))) := by
    unfold assign
    rw [if_pos rooted]
    cases json with
    | list | record => rfl
    | _ => cases base
  obtain ⟨out,ended⟩ := assignAll_heir json (named gone) (Fields.putAll [] (before.map covered))
  refine ⟨out,?_⟩
  rw [redactedFields_covered,assignAll,List.map_append,List.foldlM_append,assignAll_named false (named fresh) [],
    List.map_cons,covered_base]
  change (assign false baseName value _ >>= _) = _
  rw [set]
  exact ended

theorem sanitize_rebuilt (json : Json (object fields)) (distinct : Distinct (object fields))
    (unbased : Unbased (object fields)) :
    ∃ answer, sanitize (object fields) host = .ok answer ∧ ∀ copy, answer = .ok copy → Rebuilt fields copy := by
  obtain ⟨once,inner⟩ := distinct
  obtain ⟨_,each⟩ := json.fields
  obtain ⟨here,below⟩ := (based_record once).mp unbased
  have cleaned (entry : String × Value) (there : entry ∈ fields) :=
    clean_plainly (each entry there) (distinctFields_iff.mp inner entry there) (below entry there)
  obtain ⟨answer,ended,rebuilt⟩ := rebuilt_of_sources once cleaned here
  have told : sanitize (object fields) host = (Ask.ofMisuse (Payload.cleaned fields)) host := rfl
  rw [told,Payload.cleaned,ended]
  cases answer with
  | none => exact ⟨_,rfl,nofun⟩
  | some copy =>
    refine ⟨_,rfl,?_⟩
    intro other same
    cases same
    exact rebuilt copy rfl

theorem redact_ok (redacted : redactedFields fields = .ok copy) : redact (.record bare fields) host = .ok copy := by
  have told : redact (.record bare fields) host = (Ask.ofMisuse (redactedFields fields)) host := rfl
  rw [told,redacted]
  rfl

-- What is redacted is plain exactly if nothing that makes a base stands under the special name at the top.
theorem redact_plainly (json : Json (object fields)) (distinct : Distinct (object fields)) :
    ∃ copy, redact (object fields) host = .ok copy ∧
      (copy.isPlain = true ↔ ∀ base ∈ within [baseName] (object fields), isBase base = false) ∧
      (copy.isPlain = true → Plainly (object fields) copy) := by
  obtain ⟨once,inner⟩ := distinct
  obtain ⟨_,each⟩ := json.fields
  by_cases based : ∃ base ∈ within [baseName] (object fields), isBase base = true
  · have mixed := based
    obtain ⟨base,there,makes⟩ := mixed
    obtain ⟨held,found,same⟩ := Option.bind_eq_some_iff.mp there
    cases same
    have listed := Fields.mem_of_get? found
    obtain ⟨out,ended⟩ := redactedFields_based once (each _ listed) makes listed
    refine ⟨_,redact_ok ended,iff_of_false nofun ?_,nofun⟩
    intro none
    rw [none base there] at makes
    cases makes
  · have none : ∀ base ∈ within [baseName] (object fields), isBase base = false :=
      fun base there => Bool.eq_false_of_not_eq_true fun makes => based ⟨base,there,makes⟩
    have flat : ∀ entry ∈ fields, entry.1 = baseName → isBase entry.2 = false := by
      intro ⟨key,value⟩ listed same
      subst same
      have plain : (object fields).isPlain = true := rfl
      exact none value (within_field plain once listed)
    obtain ⟨copy,ended,plain,plainly⟩ := redactedFields_plainly flat fun entry there =>
      ⟨entry.2,Fields.get?_of_mem once there,plainly_self (each entry there) (distinctFields_iff.mp inner entry there)⟩
    exact ⟨copy,redact_ok ended,iff_of_true plain none,fun _ => plainly⟩

theorem secure_plainly (json : Json (object fields)) (distinct : Distinct (object fields))
    (unbased : Unbased (object fields)) {limits : Limits} (ended : secure limits (object fields) host = .ok (.ok copy)) :
    copy.isPlain = true ∧ Plainly (object fields) copy := by
  obtain ⟨verdict,_,ended⟩ := Ask.ok_of_bind ended
  cases verdict with
  | some error => cases ended
  | none =>
    obtain ⟨answer,cleaned,ended⟩ := Ask.ok_of_bind ended
    obtain ⟨answer',cleaned',rebuilt⟩ := @sanitize_rebuilt fields host json distinct unbased
    cases cleaned.symm.trans cleaned'
    cases answer with
    | error error => cases ended
    | ok rough =>
      obtain ⟨⟨bare,out,rfl⟩,flat,sources⟩ := rebuilt rough rfl
      obtain ⟨copy',redacted,plain⟩ := redactedFields_plainly flat sources
      obtain ⟨final,told,ended⟩ := Ask.ok_of_bind ended
      cases (redact_ok redacted).symm.trans told
      cases ended
      exact plain

-- What is cleaned is plain if nothing that makes a base stands under the special name at any depth.
theorem results_plain {fields : Fields Value} (json : Json (object fields)) (distinct : Distinct (object fields)) (host : Host) :
    (∃ copy, redact (object fields) host = .ok copy ∧
      (copy.isPlain = true ↔ ∀ base ∈ within [baseName] (object fields), isBase base = false) ∧
      (copy.isPlain = true → Plainly (object fields) copy)) ∧
    (Unbased (object fields) →
      (∃ answer, sanitize (object fields) host = .ok answer ∧
        ∀ copy, answer = .ok copy → copy.isPlain = true ∧ Plainly (object fields) copy) ∧
      ∀ limits copy, secure limits (object fields) host = .ok (.ok copy) →
        copy.isPlain = true ∧ Plainly (object fields) copy) := by
  refine ⟨redact_plainly json distinct,fun unbased => ⟨?_,?_⟩⟩
  · obtain ⟨answer,ended,rebuilt⟩ := @sanitize_rebuilt fields host json distinct unbased
    exact ⟨answer,ended,fun copy same => (rebuilt copy same).plain⟩
  · exact fun limits copy ended => secure_plainly json distinct unbased ended

-- Under the special name a text and nothing, which make no base.
def card : Value := object [(baseName,text "b"), ("token",text "t"), ("note",object [(baseName,null), ("mark",text "<i>")])]

theorem card_json : Json card := by
  refine .record (List.forall_mem_cons.mpr ⟨.text _,List.forall_mem_cons.mpr ⟨.text _,List.forall_mem_singleton.mpr ?_⟩⟩)
  exact .record (List.forall_mem_cons.mpr ⟨.null,List.forall_mem_singleton.mpr (.text _)⟩)

theorem card_distinct : Distinct card := by
  simp [card,object,Distinct,DistinctFields,Fields.keys,baseName]

theorem card_unbased : Unbased card := by
  refine (based_record card_distinct.1).mpr ⟨by simp [isBase,isObject,isFunction,baseName],?_⟩
  refine List.forall_mem_cons.mpr ⟨based_flat rfl,List.forall_mem_cons.mpr ⟨based_flat rfl,List.forall_mem_singleton.mpr ?_⟩⟩
  refine (based_record (by decide)).mpr ⟨by simp [isBase,isObject,isFunction,baseName],?_⟩
  exact List.forall_mem_cons.mpr ⟨based_flat rfl,List.forall_mem_singleton.mpr (based_flat rfl)⟩

theorem results_plain_card : Json card ∧ Distinct card ∧ Unbased card ∧
    (∃ copy, redact card Host.silent = .ok copy ∧ copy.isPlain = true ∧ Plainly card copy) ∧
    ∃ copy, secure defaultLimits card Host.silent = .ok (.ok copy) ∧ copy.isPlain = true ∧ Plainly card copy := by
  obtain ⟨⟨copy,redacts,exactly,plainly⟩,rest⟩ := results_plain card_json card_distinct Host.silent
  obtain ⟨_,secures⟩ := rest card_unbased
  have ended : secure defaultLimits card Host.silent =
      .ok (.ok (object [("token",text redacted), ("note",.record true [("mark",text "i")])])) := rfl
  have plain := exactly.mpr (card_unbased [])
  have whole := secures defaultLimits _ ended
  exact ⟨card_json,card_distinct,card_unbased,⟨copy,redacts,plain,plainly plain⟩,_,ended,whole⟩

-- A record under the special name is what the copy reads from.
theorem redact_based : let data := object [(baseName,object [("isAdmin",bool true)]), ("name",text "b")]
    Json data ∧ Distinct data ∧ hasOwn "isAdmin" data = false ∧
      ∃ copy, redact data Host.silent = .ok copy ∧ copy.isPlain = false ∧ copy.get "isAdmin" = bool true := by
  refine ⟨?_,?_,rfl,_,rfl,rfl,rfl⟩
  · refine .record (List.forall_mem_cons.mpr ⟨?_,List.forall_mem_singleton.mpr (.text _)⟩)
    exact .record (List.forall_mem_singleton.mpr (.bool true))
  · simp [object,Distinct,DistinctFields,Fields.keys,baseName]

end Trifold.Payload
