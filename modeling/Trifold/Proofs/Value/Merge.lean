import Trifold.Proofs.Payload.Plain
import Trifold.Proofs.Position
import Trifold.Proofs.Signal.Event
import Trifold.Value.Merge

namespace Trifold.Value
open Payload (within within_plain isPlain_cases)

-- A state leaves alone what stands at the end of a path: it holds nothing there, and on the way only records.
def Spares (path : List String) (state : Value) : Prop :=
  within path state = none ∧ ∀ above, above <+: path → above ≠ path → ∀ held ∈ within above state, held.isPlain = true

section

variable {left right value held : Value} {key : String} {path : List String} {fields : Fields Value} {host : Host}

theorem within_flat (flat : value.isPlain = false) (key : String) (path : List String) : within (key :: path) value = none := by
  cases value with
  | record | ancestor => cases flat
  | _ => rfl

theorem not_spares_flat (flat : value.isPlain = false) : ¬ Spares path value := by
  intro ⟨nothing,records⟩
  cases path with
  | nil => cases nothing
  | cons key path =>
    have plain := records [] List.nil_prefix (List.cons_ne_nil key path).symm value rfl
    rw [plain] at flat
    cases flat

theorem spares_cons (plain : value.isPlain = true) :
    Spares (key :: path) value ↔ ∀ held ∈ Fields.get? key (own value), Spares path held := by
  unfold Spares
  rw [within_plain plain]
  constructor
  · intro ⟨nothing,records⟩ held found
    rw [Option.mem_def.mp found] at nothing
    refine ⟨nothing,?_⟩
    intro above before apart lower there
    refine records (key :: above) (List.cons_prefix_cons.mpr ⟨rfl,before⟩) (fun same => apart (List.cons.inj same).2) lower ?_
    rw [within_plain plain,Option.mem_def.mp found]
    exact there
  · intro below
    constructor
    · cases found : Fields.get? key (own value) with
      | none => rfl
      | some held => exact (below held found).1
    · intro above before apart lower there
      cases above with
      | nil =>
        cases there
        exact plain
      | cons name above =>
        obtain ⟨rfl,shorter⟩ := List.cons_prefix_cons.mp before
        rw [within_plain plain] at there
        obtain ⟨held,found,there⟩ := Option.bind_eq_some_iff.mp there
        exact (below held found).2 above shorter (fun same => apart (congrArg _ same)) lower there

theorem mergedOver_flat (flat : value.isPlain = false) (current : Option Value) : mergedOver current value = value := by
  cases value with
  | record | ancestor => cases flat
  | _ => rw [mergedOver.eq_def]

theorem mergedOver_plain (plain : left.isPlain = true) (plain' : right.isPlain = true) :
    mergedOver (some left) right = object (merge (own left) (own right)) := by
  rcases isPlain_cases plain with ⟨bare,fields,rfl⟩ | rfl <;> rcases isPlain_cases plain' with ⟨bare',fields',rfl⟩ | rfl <;>
  · rw [mergedOver.eq_def]
    rfl

theorem mergedOver_alone {current : Option Value} (alone : ∀ under ∈ current, under.isPlain = false) :
    mergedOver current value = value := by
  have bare : current.bind fields? = none := by
    cases current with
    | none => rfl
    | some under =>
      have flat := alone under rfl
      cases under with
      | record | ancestor => cases flat
      | _ => rfl
  cases value with
  | record =>
    rw [mergedOver.eq_def]
    simp only [bare]
  | ancestor =>
    rw [mergedOver.eq_def]
    simp only [bare]
    rfl
  | _ => rw [mergedOver.eq_def]

theorem get?_merge {right : Fields Value} (once : (Fields.keys right).Nodup) (left : Fields Value) :
    Fields.get? key (merge left right) =
      ((Fields.get? key right).map (mergedOver (Fields.get? key left))).or (Fields.get? key left) := by
  induction right generalizing left with
  | nil => rw [merge]; rfl
  | cons entry rest ih =>
    obtain ⟨name,value⟩ := entry
    obtain ⟨fresh,others⟩ := List.nodup_cons.mp once
    rw [merge,ih others,Fields.get?_put,Fields.get?_cons]
    by_cases here : name = key
    · subst here
      rw [Fields.get?_eq_none.mpr fresh,if_pos rfl,if_pos rfl]
      rfl
    · rw [if_neg here,if_neg here]

theorem within_merge (plain : left.isPlain = true) (plain' : right.isPlain = true) (distinct : Distinct right)
    (flat : value.isPlain = false) :
    within path (object (merge (own left) (own right))) = some value ↔
      within path right = some value ∨ within path left = some value ∧ Spares path right := by
  induction path generalizing left right with
  | nil =>
    have apart {state : Value} (plain : state.isPlain = true) : within [] state ≠ some value := by
      intro same
      cases same
      rw [plain] at flat
      cases flat
    exact iff_of_false (apart rfl) (not_or.mpr ⟨apart plain',fun both => apart plain both.1⟩)
  | cons key path ih =>
    obtain ⟨once,each⟩ := distinct_own distinct
    have merged : (object (merge (own left) (own right))).isPlain = true := rfl
    rw [within_plain merged,within_plain plain,within_plain plain',spares_cons plain']
    change (Fields.get? key (merge (own left) (own right))).bind (within path) = _ ↔ _
    rw [get?_merge once]
    cases found : Fields.get? key (own right) with
    | none => simp
    | some held =>
      simp only [Option.map_some,Option.some_or,Option.bind_some,Option.mem_def,Option.some.injEq,forall_eq']
      by_cases record : held.isPlain = true
      · by_cases meets : ∃ under ∈ Fields.get? key (own left), under.isPlain = true
        · obtain ⟨under,there,under'⟩ := meets
          rw [Option.mem_def.mp there,mergedOver_plain under' record]
          exact ih under' record (each _ (Fields.mem_of_get? found))
        · have alone : ∀ under ∈ Fields.get? key (own left), under.isPlain = false := fun under there =>
            Bool.eq_false_of_not_eq_true fun plain => meets ⟨under,there,plain⟩
          rw [mergedOver_alone alone]
          refine (or_iff_left ?_).symm
          intro ⟨there,spared⟩
          obtain ⟨under,listed,there⟩ := Option.bind_eq_some_iff.mp there
          cases path with
          | nil => cases spared.1
          | cons name path =>
            rw [within_flat (alone under listed)] at there
            cases there
      · have flat' := Bool.eq_false_of_not_eq_true record
        rw [mergedOver_flat flat']
        exact (or_iff_left fun both => not_spares_flat flat' both.2).symm

theorem keys_merge (left right : Fields Value) : Fields.keys (merge left right) = Fields.keys (Fields.putAll left right) := by
  induction right generalizing left with
  | nil => rw [merge]; rfl
  | cons entry rest ih =>
    obtain ⟨name,value⟩ := entry
    rw [merge,ih]
    exact Fields.keys_putAll (Fields.keys_put rfl) rest

end

section

variable {states : List Value} {value : Value} {path : List String}

theorem mergeAll_append (states : List (Fields Value)) (last : Fields Value) :
    mergeAll (states ++ [last]) = merge (mergeAll states) last := List.foldl_append

theorem within_mergeAll (plain : ∀ state ∈ states, state.isPlain = true) (distinct : ∀ state ∈ states, Distinct state)
    (flat : value.isPlain = false) :
    within path (object (mergeAll (states.map own))) = some value ↔ ∃ before state after,
      states = before ++ state :: after ∧ within path state = some value ∧ ∀ later ∈ after, Spares path later := by
  induction states using List.reverseRecOn with
  | nil =>
    refine iff_of_false ?_ (by simp)
    cases path with
    | nil =>
      intro same
      cases same
      cases flat
    | cons key path => nofun
  | append_singleton states last ih =>
    obtain ⟨plains,plain⟩ := List.forall_mem_append.mp plain
    obtain ⟨distincts,distinct⟩ := List.forall_mem_append.mp distinct
    rw [List.forall_mem_singleton] at plain distinct
    have merged : (object (mergeAll (states.map own))).isPlain = true := rfl
    rw [List.map_append,List.map_singleton,mergeAll_append]
    refine (within_merge merged plain distinct flat).trans ?_
    rw [ih plains distincts]
    constructor
    · rintro (there | ⟨⟨before,state,after,rfl,there,spared⟩,kept⟩)
      · exact ⟨states,last,[],rfl,there,nofun⟩
      · refine ⟨before,state,after ++ [last],by rw [List.append_assoc,List.cons_append],there,?_⟩
        exact List.forall_mem_append.mpr ⟨spared,List.forall_mem_singleton.mpr kept⟩
    · rintro ⟨before,state,after,parted,there,spared⟩
      rcases List.eq_nil_or_concat after with rfl | ⟨front,final,rfl⟩
      · obtain ⟨_,same⟩ := List.append_inj' parted rfl
        cases same
        exact .inl there
      · rw [List.concat_eq_append,← List.cons_append,← List.append_assoc] at parted
        obtain ⟨rfl,same⟩ := List.append_inj' parted rfl
        cases same
        rw [List.concat_eq_append,List.forall_mem_append,List.forall_mem_singleton] at spared
        exact .inr ⟨⟨before,state,front,rfl,there,spared.1⟩,spared.2⟩

theorem keys_mergeAll (states : List (Fields Value)) :
    Fields.keys (mergeAll states) = Fields.keys (Fields.ofEntries states.flatten) := by
  have from_ (left : Fields Value) :
      Fields.keys (states.foldl merge left) = Fields.keys (Fields.putAll left states.flatten) := by
    induction states generalizing left with
    | nil => rfl
    | cons state rest ih =>
      rw [List.foldl_cons,ih,List.flatten_cons,Fields.putAll_append]
      exact Fields.keys_putAll (keys_merge left state) rest.flatten
  exact from_ []

-- The names of all states, each as often as it is listed.
def listedNames (states : List Value) : List String := states.flatMap fun state => Fields.keys (own state)

-- Last write wins at every path, and nothing else is lost. Every name stays a field of an ordinary record, the special
-- one included; positions come first, the others in the order in which the states first list them.
theorem mergeStates_lastWrite {states : List Value} (plain : ∀ state ∈ states, state.isPlain = true)
    (distinct : ∀ state ∈ states, Distinct state) (host : Host) :
    ∃ merged, mergeStates (list states) host = .ok merged ∧
      (∀ path value, value.isPlain = false → (within path (object merged) = some value ↔ ∃ before state after,
        states = before ++ state :: after ∧ within path state = some value ∧ ∀ later ∈ after, Spares path later)) ∧
      (∀ name, name ∈ Fields.keys merged ↔ name ∈ listedNames states) ∧
      (Fields.keys merged).Nodup ∧ Fields.Ordered merged ∧
      ((Fields.keys merged).Pairwise fun name later => Fields.position? name = none → Fields.position? later = none →
        (listedNames states).idxOf name < (listedNames states).idxOf later) ∧
      ∀ name, name ∉ Fields.keys merged → (object merged).get name = inherited name := by
  have taken : states.mapM entries host = .ok (states.map own) := by
    refine Ask.mapM_ok.mpr (List.forall₂_map_right_iff.mpr (List.forall₂_same.mpr ?_))
    exact fun state there => Payload.entries_plain (plain state there)
  have names : listedNames states = Fields.keys (states.map own).flatten := by
    rw [Fields.keys,List.map_flatten,List.map_map,listedNames,List.flatMap]
    rfl
  have written := keys_mergeAll (states.map own)
  refine ⟨mergeAll (states.map own),?_,fun path value flat => within_mergeAll plain distinct flat,?_,?_,?_,?_,?_⟩
  · have listed : listItems "states.reduce" (list states) host = .ok states := rfl
    rw [mergeStates,Ask.bind_ok listed,Ask.bind_ok taken]
    rfl
  · intro name
    rw [names,written]
    exact Fields.mem_keys_ofEntries
  · rw [written]
    exact Fields.nodup_ofEntries _
  · rw [Fields.Ordered,written]
    exact Fields.ordered_ofEntries _
  · rw [names,written]
    exact Fields.ofEntries_appearance _
  · intro name fresh
    rw [object,get,Fields.get?_eq_none.mpr fresh]
    rfl

-- A window that is a record, then text, then a record again, and an account under the special name.
def desk : List Value := [
  .object [("window",.object [("title",.text "Inbox"), ("open",.bool true)]), ("7",.absent)],
  .object [("window",.text "closed"), ("__proto__",.object [("user",.text "ada")])],
  .object [("__proto__",.object []), ("window",.object [("title",.text "Sent")])]]

theorem mergeStates_lastWrite_desk : (∀ state ∈ desk, state.isPlain = true) ∧ (∀ state ∈ desk, Distinct state) ∧
    ∃ merged, mergeStates (list desk) .silent = .ok merged ∧ "__proto__" ∈ Fields.keys merged ∧
      within ["window","title"] (object merged) = some (.text "Sent") ∧
      within ["__proto__","user"] (object merged) = some (.text "ada") := by
  have plain : ∀ state ∈ desk, state.isPlain = true := by decide
  have distinct : ∀ state ∈ desk, Distinct state := by simp [desk,distinct_object,Distinct,Fields.keys]
  obtain ⟨merged,same,held,names,-⟩ := mergeStates_lastWrite plain distinct .silent
  refine ⟨plain,distinct,merged,same,(names _).mpr (by decide),?_,?_⟩
  · exact (held _ _ rfl).mpr ⟨desk.take 2,_,[],rfl,rfl,List.forall_mem_nil _⟩
  · refine (held _ _ rfl).mpr ⟨desk.take 1,_,desk.drop 2,rfl,rfl,List.forall_mem_singleton.mpr ?_⟩
    -- The last state has a record of the account, with no user.
    refine (spares_cons rfl).mpr fun account there => ?_
    cases there
    refine (spares_cons rfl).mpr fun user there => ?_
    cases there

end

end Trifold.Value
