import Mathlib.Data.List.Induction
import Mathlib.Data.List.Nodup
import Trifold.Fields

namespace Trifold.Fields

variable {α β : Type}

theorem mem_of_get? {key : String} {value : α} {fields : Fields α} (found : get? key fields = some value) :
    (key,value) ∈ fields := by
  induction fields with
  | nil => cases found
  | cons entry rest ih =>
    obtain ⟨name,held⟩ := entry
    rw [get?_cons] at found
    by_cases here : name = key
    · rw [if_pos here] at found
      cases found
      rw [here]
      exact List.mem_cons_self
    · rw [if_neg here] at found
      exact List.mem_cons_of_mem _ (ih found)

theorem get?_eq_none {key : String} {fields : Fields α} : get? key fields = none ↔ key ∉ keys fields := by
  induction fields with
  | nil => simp [get?,keys]
  | cons entry rest ih =>
    obtain ⟨name,held⟩ := entry
    rw [get?_cons,keys,List.map_cons,List.mem_cons,not_or]
    by_cases here : name = key
    · simp [here]
    · rw [if_neg here,ih]
      exact ⟨fun fresh => ⟨fun same => here same.symm,fresh⟩,fun fresh => fresh.2⟩

theorem get?_of_mem {key : String} {value : α} {fields : Fields α} (once : (keys fields).Nodup)
    (listed : (key,value) ∈ fields) : get? key fields = some value := by
  induction fields with
  | nil => cases listed
  | cons entry rest ih =>
    obtain ⟨name,held⟩ := entry
    obtain ⟨fresh,others⟩ := List.nodup_cons.mp once
    rw [get?_cons]
    rcases List.mem_cons.mp listed with here | later
    · cases here
      rw [if_pos rfl]
    · have there : key ∈ keys rest := List.mem_map_of_mem later
      have apart : name ≠ key := fun same => fresh (same ▸ there)
      rw [if_neg apart]
      exact ih others later

-- Where names are distinct their order makes no difference to what is read.
theorem get?_perm {fields others : Fields α} (order : fields.Perm others) (once : (keys fields).Nodup) (key : String) :
    get? key fields = get? key others := by
  have once' : (keys others).Nodup := (order.map Prod.fst).nodup_iff.mp once
  cases found : get? key fields with
  | none =>
    symm
    rw [get?_eq_none] at found ⊢
    exact fun there => found ((order.map Prod.fst).mem_iff.mpr there)
  | some value => exact (get?_of_mem once' (order.mem_iff.mp (mem_of_get? found))).symm

theorem get?_append (key : String) (fields others : Fields α) :
    get? key (fields ++ others) = (get? key fields).or (get? key others) := by
  induction fields with
  | nil => rfl
  | cons entry rest ih =>
    obtain ⟨name,held⟩ := entry
    rw [List.cons_append,get?_cons,get?_cons,ih]
    split <;> rfl

theorem keys_replace (key : String) (value : α) (fields : Fields α) : keys (replace key value fields) = keys fields := by
  induction fields with
  | nil => rfl
  | cons entry rest ih =>
    obtain ⟨name,held⟩ := entry
    rw [replace]
    split
    · rfl
    · exact congrArg (name :: ·) ih

theorem insert_perm (key : String) (value : α) (fields : Fields α) :
    (insert key value fields).Perm ((key,value) :: fields) := by
  induction fields with
  | nil => exact .refl _
  | cons entry rest ih =>
    obtain ⟨name,held⟩ := entry
    rw [insert]
    split
    · exact (ih.cons _).trans (.swap _ _ _)
    · exact .refl _

theorem insert_parts (key : String) (value : α) (fields : Fields α) :
    ∃ before after, fields = before ++ after ∧ insert key value fields = before ++ (key,value) :: after := by
  induction fields with
  | nil => exact ⟨[],[],rfl,rfl⟩
  | cons entry rest ih =>
    obtain ⟨name,held⟩ := entry
    rw [insert]
    split
    · obtain ⟨before,after,parted,inserted⟩ := ih
      exact ⟨(name,held) :: before,after,by rw [parted,List.cons_append],by rw [inserted,List.cons_append]⟩
    · exact ⟨[],(name,held) :: rest,rfl,rfl⟩

theorem nodup_put {key : String} {value : α} {fields : Fields α} (once : (keys fields).Nodup) :
    (keys (put key value fields)).Nodup := by
  rw [put,has]
  split
  · rw [keys_replace]
    exact once
  · rename_i fresh
    rw [Option.isSome_iff_ne_none,not_not,get?_eq_none] at fresh
    refine (((insert_perm key value fields).map _).nodup_iff).mpr ?_
    exact List.nodup_cons.mpr ⟨fresh,once⟩

theorem nodup_putAll {fields : Fields α} (once : (keys fields).Nodup) (entries : List (String × α)) :
    (keys (putAll fields entries)).Nodup := by
  induction entries generalizing fields with
  | nil => exact once
  | cons entry rest ih => exact ih (nodup_put once)

theorem mem_replace {key : String} {value : α} {fields : Fields α} {entry : String × α}
    (listed : entry ∈ replace key value fields) : entry ∈ fields ∨ entry = (key,value) := by
  induction fields with
  | nil => cases listed
  | cons first rest ih =>
    obtain ⟨name,held⟩ := first
    rw [replace] at listed
    split at listed
    · rename_i here
      rcases List.mem_cons.mp listed with rfl | later
      · exact .inr (by rw [here])
      · exact .inl (List.mem_cons_of_mem _ later)
    · rcases List.mem_cons.mp listed with rfl | later
      · exact .inl List.mem_cons_self
      · exact (ih later).imp_left (List.mem_cons_of_mem _)

theorem mem_put {key : String} {value : α} {fields : Fields α} {entry : String × α}
    (listed : entry ∈ put key value fields) : entry ∈ fields ∨ entry = (key,value) := by
  rw [put] at listed
  split at listed
  · exact mem_replace listed
  · exact (List.mem_cons.mp ((insert_perm key value fields).mem_iff.mp listed)).symm

theorem mem_putAll {fields : Fields α} {entries : List (String × α)} {entry : String × α}
    (listed : entry ∈ putAll fields entries) : entry ∈ fields ∨ entry ∈ entries := by
  induction entries generalizing fields with
  | nil => exact .inl listed
  | cons first rest ih =>
    rcases ih listed with before | later
    · rcases mem_put before with old | new
      · exact .inl old
      · exact .inr (new ▸ List.mem_cons_self)
    · exact .inr (List.mem_cons_of_mem _ later)

theorem get?_filter {key : String} (keep : String → Bool) (kept : keep key = true) (fields : Fields α) :
    get? key (fields.filter fun entry => keep entry.1) = get? key fields := by
  induction fields with
  | nil => rfl
  | cons entry rest ih =>
    rw [List.filter_cons]
    by_cases here : entry.1 = key
    · rw [here,if_pos kept,get?_cons,get?_cons,if_pos here,if_pos here]
    · split
      · rw [get?_cons,get?_cons,if_neg here,if_neg here,ih]
      · rw [get?_cons,if_neg here,ih]

theorem get?_remove (key other : String) (fields : Fields α) :
    get? other (remove key fields) = if key = other then none else get? other fields := by
  induction fields with
  | nil => simp [remove,get?]
  | cons entry rest ih =>
    obtain ⟨name,held⟩ := entry
    unfold remove at ih ⊢
    by_cases here : name = key <;> by_cases same : key = other <;> simp_all [get?_cons]

theorem nodup_remove {key : String} {fields : Fields α} (once : (keys fields).Nodup) :
    (keys (remove key fields)).Nodup := once.sublist (List.filter_sublist.map _)

theorem get?_putAll (key : String) {entries : Fields α} (once : (keys entries).Nodup) (fields : Fields α) :
    get? key (putAll fields entries) = (get? key entries).or (get? key fields) := by
  induction entries generalizing fields with
  | nil => rfl
  | cons entry rest ih =>
    obtain ⟨name,value⟩ := entry
    obtain ⟨fresh,others⟩ := List.nodup_cons.mp once
    change get? key (putAll (put name value fields) rest) = _
    rw [ih others,get?_put,get?_cons]
    by_cases here : name = key
    · have gone : get? key rest = none := get?_eq_none.mpr (here ▸ fresh)
      rw [if_pos here,if_pos here,gone]
      rfl
    · rw [if_neg here,if_neg here]

-- A name that is not written keeps what stood there.
theorem get?_putAll_fresh {key : String} {entries : List (String × α)} (fresh : ∀ entry ∈ entries, entry.1 ≠ key)
    (fields : Fields α) : get? key (putAll fields entries) = get? key fields := by
  induction entries generalizing fields with
  | nil => rfl
  | cons entry rest ih =>
    obtain ⟨here,later⟩ := List.forall_mem_cons.mp fresh
    change get? key (putAll (put entry.1 entry.2 fields) rest) = _
    rw [ih later,get?_put,if_neg here]

-- What is written last under a name stands there.
theorem get?_putAll_last {key : String} {value : α} {entries : List (String × α)} {position : Nat}
    (here : entries[position]? = some (key,value))
    (last : ∀ later entry, position < later → entries[later]? = some entry → entry.1 ≠ key) (fields : Fields α) :
    get? key (putAll fields entries) = some value := by
  obtain ⟨inside,same⟩ := List.getElem?_eq_some_iff.mp here
  have split : entries = entries.take position ++ (key,value) :: entries.drop (position + 1) := by
    rw [← same,← List.drop_eq_getElem_cons inside,List.take_append_drop]
  have fresh : ∀ entry ∈ entries.drop (position + 1), entry.1 ≠ key := by
    intro entry there
    obtain ⟨i,listed⟩ := List.mem_iff_getElem?.mp there
    rw [List.getElem?_drop] at listed
    exact last _ entry (by omega) listed
  rw [split,putAll,List.foldl_append,List.foldl_cons]
  exact (get?_putAll_fresh fresh _).trans (by rw [get?_put,if_pos rfl])

theorem keys_append_cons (fields : Fields α) (entry : String × α) (rest : Fields α) :
    keys (fields ++ entry :: rest) = keys fields ++ entry.1 :: keys rest := by
  rw [keys,List.map_append,List.map_cons,← keys,← keys]

theorem fresh_of_nodup {fields rest : Fields α} {entry : String × α} (once : (keys (fields ++ entry :: rest)).Nodup) :
    entry.1 ∉ keys fields := by
  rw [keys_append_cons,List.nodup_append] at once
  exact fun there => once.2.2 _ there _ List.mem_cons_self rfl

theorem putAll_perm {fields entries : Fields α} (once : (keys (fields ++ entries)).Nodup) :
    (putAll fields entries).Perm (fields ++ entries) := by
  induction entries generalizing fields with
  | nil => rw [List.append_nil]; exact .refl fields
  | cons entry rest ih =>
    have added : (put entry.1 entry.2 fields).Perm (entry :: fields) := by
      rw [put,has,get?_eq_none.mpr (fresh_of_nodup once)]
      exact insert_perm entry.1 entry.2 fields
    have moved : (put entry.1 entry.2 fields ++ rest).Perm (fields ++ entry :: rest) :=
      (added.append_right rest).trans List.perm_middle.symm
    exact (ih ((moved.map Prod.fst).nodup_iff.mpr once)).trans moved

theorem nodup_ofEntries (entries : List (String × α)) : (keys (ofEntries entries)).Nodup := by
  have none : (keys ([] : Fields α)).Nodup := List.nodup_nil
  exact nodup_putAll none entries

theorem ofEntries_perm {entries : List (String × α)} (once : (keys entries).Nodup) : (ofEntries entries).Perm entries :=
  putAll_perm once

-- Each name keeps its place in front of those behind it.
def Ordered (fields : Fields α) : Prop := (keys fields).Pairwise fun name later => precedes name later = true

theorem insert_last {key : String} {value : α} {fields : Fields α} (before : ∀ name ∈ keys fields, precedes name key = true) :
    insert key value fields = fields ++ [(key,value)] := by
  induction fields with
  | nil => rfl
  | cons entry rest ih =>
    obtain ⟨here,later⟩ := List.forall_mem_cons.mp before
    rw [insert,if_pos here,ih later,List.cons_append]

theorem put_last {key : String} {value : α} {fields : Fields α} (before : ∀ name ∈ keys fields, precedes name key = true)
    (fresh : key ∉ keys fields) : put key value fields = fields ++ [(key,value)] := by
  rw [put,has,get?_eq_none.mpr fresh]
  exact insert_last before

theorem putAll_ordered {fields entries : Fields α} (ordered : Ordered (fields ++ entries))
    (once : (keys (fields ++ entries)).Nodup) : putAll fields entries = fields ++ entries := by
  induction entries generalizing fields with
  | nil => exact (List.append_nil fields).symm
  | cons entry rest ih =>
    have split : fields ++ entry :: rest = fields ++ [entry] ++ rest := by rw [List.append_assoc,List.singleton_append]
    have before : ∀ name ∈ keys fields, precedes name entry.1 = true := by
      rw [Ordered,keys_append_cons,List.pairwise_append] at ordered
      exact fun name there => ordered.2.2 name there entry.1 List.mem_cons_self
    change putAll (put entry.1 entry.2 fields) rest = _
    rw [put_last before (fresh_of_nodup once),ih (split ▸ ordered) (split ▸ once),split]

-- Names that read as no position stay in the order in which they are written.
theorem putAll_names {entries : List (String × α)} (names : ∀ entry ∈ entries, position? entry.1 = none)
    (once : (keys entries).Nodup) : putAll [] entries = entries := by
  refine putAll_ordered (List.pairwise_iff_forall_sublist.mpr ?_) once
  intro name later within
  obtain ⟨entry,there,rfl⟩ := List.mem_map.mp (within.subset (List.mem_cons_of_mem name List.mem_cons_self))
  rw [precedes,names entry there]

-- Which names are listed, and in what order, hangs on the written names alone.
theorem keys_put {key : String} {value : α} {value' : β} {fields : Fields α} {others : Fields β}
    (names : keys fields = keys others) : keys (put key value fields) = keys (put key value' others) := by
  have inserted : keys (insert key value fields) = keys (insert key value' others) := by
    induction fields generalizing others with
    | nil =>
      rw [keys,List.map_nil,eq_comm,keys,List.map_eq_nil_iff] at names
      subst names
      rfl
    | cons entry rest ih =>
      cases others with
      | nil => cases names
      | cons other more =>
        obtain ⟨here,later⟩ := List.cons.inj names
        obtain ⟨name,held⟩ := entry
        obtain ⟨_,held'⟩ := other
        cases here
        rw [insert,insert]
        split
        · exact congrArg (name :: ·) (ih later)
        · exact congrArg (key :: name :: ·) later
  have listed : has key fields = has key others := by
    rw [has,has,Bool.eq_iff_iff,Option.isSome_iff_ne_none,Option.isSome_iff_ne_none,ne_eq,ne_eq,get?_eq_none,get?_eq_none,names]
  rw [put,put,listed]
  split
  · rw [keys_replace,keys_replace,names]
  · exact inserted

theorem putAll_append (fields : Fields α) (entries more : List (String × α)) :
    putAll fields (entries ++ more) = putAll (putAll fields entries) more := List.foldl_append

-- What is listed last under a name is what is found there.
theorem get?_ofEntries (key : String) (entries : List (String × α)) :
    get? key (ofEntries entries) = (entries.filter (·.1 = key)).getLast?.map (·.2) := by
  induction entries using List.reverseRecOn with
  | nil => rfl
  | append_singleton entries entry ih =>
    have written : ofEntries (entries ++ [entry]) = put entry.1 entry.2 (ofEntries entries) := putAll_append [] entries _
    rw [written,get?_put,ih,List.filter_append]
    by_cases here : entry.1 = key <;> simp [here]

theorem keys_putAll_named {fields others : Fields α} {entries more : List (String × α)} (names : keys fields = keys others)
    (written : keys entries = keys more) : keys (putAll fields entries) = keys (putAll others more) := by
  induction entries generalizing fields others more with
  | nil =>
    cases more with
    | nil => exact names
    | cons => cases written
  | cons entry rest ih =>
    cases more with
    | nil => cases written
    | cons other more =>
      obtain ⟨name,value⟩ := entry
      obtain ⟨_,value'⟩ := other
      obtain ⟨here,later⟩ := List.cons.inj written
      cases here
      change keys (putAll (put name value fields) rest) = keys (putAll (put name value' others) more)
      exact ih (keys_put names) later

theorem keys_putAll {fields others : Fields α} (names : keys fields = keys others) (entries : List (String × α)) :
    keys (putAll fields entries) = keys (putAll others entries) := keys_putAll_named names rfl

theorem mem_keys_put {key name : String} {value : α} {fields : Fields α} :
    name ∈ keys (put key value fields) ↔ name = key ∨ name ∈ keys fields := by
  rw [← not_iff_not,not_or,← get?_eq_none,← get?_eq_none,get?_put]
  by_cases here : key = name
  · simp [here]
  · simp [here,Ne.symm here]

theorem mem_keys_putAll {name : String} {fields : Fields α} {entries : List (String × α)} :
    name ∈ keys (putAll fields entries) ↔ name ∈ keys entries ∨ name ∈ keys fields := by
  induction entries generalizing fields with
  | nil => simp [putAll,keys]
  | cons entry rest ih =>
    have later := @ih (put entry.1 entry.2 fields)
    rw [mem_keys_put,or_left_comm,← or_assoc,← List.mem_cons] at later
    exact later

theorem mem_keys_ofEntries {name : String} {entries : List (String × α)} :
    name ∈ keys (ofEntries entries) ↔ name ∈ keys entries := by
  have none : name ∉ keys ([] : Fields α) := List.not_mem_nil
  rw [ofEntries,mem_keys_putAll,or_iff_left none]

-- Going over the values, each with its name at hand, goes with a write.
theorem map_replace (g : String → α → β) (key : String) (value : α) (fields : Fields α) :
    (replace key value fields).map (fun entry => (entry.1,g entry.1 entry.2)) =
      replace key (g key value) (fields.map fun entry => (entry.1,g entry.1 entry.2)) := by
  induction fields with
  | nil => rfl
  | cons entry rest ih =>
    obtain ⟨name,held⟩ := entry
    rw [List.map_cons,replace,replace]
    by_cases here : name = key
    · rw [if_pos here,if_pos here,here]
      rfl
    · rw [if_neg here,if_neg here,List.map_cons,ih]

theorem map_insert (g : String → α → β) (key : String) (value : α) (fields : Fields α) :
    (insert key value fields).map (fun entry => (entry.1,g entry.1 entry.2)) =
      insert key (g key value) (fields.map fun entry => (entry.1,g entry.1 entry.2)) := by
  induction fields with
  | nil => rfl
  | cons entry rest ih =>
    obtain ⟨name,held⟩ := entry
    rw [List.map_cons,insert,insert]
    split
    · rw [List.map_cons,ih]
    · rfl

theorem has_map (g : String → α → β) (key : String) (fields : Fields α) :
    has key (fields.map fun entry => (entry.1,g entry.1 entry.2)) = has key fields := by
  induction fields with
  | nil => rfl
  | cons entry rest ih =>
    obtain ⟨name,held⟩ := entry
    unfold has at ih ⊢
    rw [List.map_cons,get?_cons,get?_cons]
    split
    · rfl
    · exact ih

theorem map_put (g : String → α → β) (key : String) (value : α) (fields : Fields α) :
    (put key value fields).map (fun entry => (entry.1,g entry.1 entry.2)) =
      put key (g key value) (fields.map fun entry => (entry.1,g entry.1 entry.2)) := by
  rw [put,put,has_map]
  split
  · exact map_replace g key value fields
  · exact map_insert g key value fields

end Trifold.Fields
