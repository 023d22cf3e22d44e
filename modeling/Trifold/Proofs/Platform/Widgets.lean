import Mathlib.Data.List.Induction
import Mathlib.Data.List.Nodup
import Trifold.Platform.State
import Trifold.Proofs.Ask
import Trifold.Proofs.Fields
import Trifold.Proofs.Value.Built

namespace Trifold

namespace Value

-- What is assigned to: a record with these fields of its own, whatever it stands on.
inductive Stores (fields : Fields Value) : Value → Prop
  | record (bare : Bool) : Stores fields (.record bare fields)
  | heir (base : Value) (locked : Bool) : Stores fields (.heir base locked fields)

variable {locked : Bool} {key : String} {value target next : Value} {fields : Fields Value}

theorem Stores.own (stores : Stores fields target) : own target = fields := by cases stores <;> rfl

theorem Stores.assign (stores : Stores fields target) (named : key ≠ baseName)
    (ended : assign locked key value target = .ok next) : Stores (Fields.put key value fields) next := by
  have plain : setsBase key target = false := by rw [setsBase,beq_false_of_ne named,Bool.false_and]
  unfold Value.assign at ended
  rw [if_neg (Bool.eq_false_iff.mp plain)] at ended
  cases stores with
  | record bare =>
    cases ended
    exact .record bare
  | heir base baseLocked =>
    dsimp only at ended
    split at ended
    · cases ended
    · cases ended
      exact .heir base baseLocked

theorem Stores.assignAll {entries : List (String × Value)} (stores : Stores fields target)
    (named : ∀ entry ∈ entries, entry.1 ≠ baseName)
    (ended : entries.foldlM (fun target entry => Value.assign locked entry.1 entry.2 target) target = .ok next) :
    Stores (Fields.putAll fields entries) next := by
  induction entries generalizing fields target with
  | nil =>
    cases ended
    exact stores
  | cons entry rest ih =>
    obtain ⟨here,later⟩ := List.forall_mem_cons.mp named
    rw [List.foldlM_cons] at ended
    cases first : Value.assign locked entry.1 entry.2 target with
    | error cause =>
      rw [first] at ended
      cases ended
    | ok middle =>
      rw [first] at ended
      exact ih (stores.assign here first) later ended

theorem stores_based (fresh : Fields.has baseName fields = false)
    (ended : assign locked baseName value (object fields) = .ok next) : Stores fields next := by
  have rooted : setsBase baseName (object fields) = true := by simp [setsBase,object,isRooted,fresh]
  unfold assign at ended
  rw [if_pos rooted] at ended
  cases ended
  unfold rebased
  split
  · exact .record true
  · split
    · exact .heir _ _
    · exact .record false

theorem stores_assignAll {entries : List (String × Value)} (once : (Fields.keys entries).Nodup)
    (fresh : baseName ∉ Fields.keys fields)
    (ended : entries.foldlM (fun target entry => assign locked entry.1 entry.2 target) (object fields) = .ok next) :
    Stores (Fields.putAll fields (entries.filter fun entry => entry.1 != baseName)) next := by
  induction entries generalizing fields with
  | nil =>
    cases ended
    exact .record false
  | cons entry rest ih =>
    obtain ⟨gone,once⟩ := List.nodup_cons.mp once
    rw [List.foldlM_cons] at ended
    by_cases here : entry.1 = baseName
    · have named : ∀ other ∈ rest, other.1 ≠ baseName :=
        fun other there same => gone (List.mem_map.mpr ⟨other,there,same.trans here.symm⟩)
      have kept : rest.filter (fun entry => entry.1 != baseName) = rest :=
        List.filter_eq_self.mpr fun other there => bne_iff_ne.mpr (named other there)
      rw [List.filter_cons_of_neg (by simp [here]),kept]
      cases first : assign locked entry.1 entry.2 (object fields) with
      | error cause =>
        rw [first] at ended
        cases ended
      | ok middle =>
        rw [first] at ended
        rw [here] at first
        have free : Fields.has baseName fields = false := by simp [Fields.has,Fields.get?_eq_none.mpr fresh]
        exact (stores_based free first).assignAll named ended
    · rw [assign_named locked here] at ended
      have front : (entry :: rest).filter (fun entry => entry.1 != baseName) =
          entry :: rest.filter fun entry => entry.1 != baseName := by simp [here]
      rw [front]
      refine ih once ?_ ended
      rw [Fields.mem_keys_put,not_or]
      exact ⟨Ne.symm here,fresh⟩

end Value

namespace State
open Value

-- A call that gives a new state.
inductive Change where
  | putRoot (root : Value)
  | putConfig (key : String) (held : Value)
  | putMetadata (key : String) (held : Value)
  | bumpVersion
  | putWidget (id : String) (widget : Value)
  | deleteWidget (id : String)

namespace Change

def id? : Change → Option String
  | putWidget id _ | deleteWidget id => some id
  | _ => none

def widget? : Change → Option Value
  | putWidget _ widget => some widget
  | _ => none

def apply (state : State) : Change → Ask State
  | putRoot root => return state.putRoot root
  | putConfig key held => state.putConfig (text key) held
  | putMetadata key held => state.putMetadata (text key) held
  | bumpVersion => return state.bumpVersion
  | putWidget id widget => state.putWidget (text id) widget
  | deleteWidget id => do return (← state.deleteWidget (text id)).state

end Change

def after (changes : List Change) (state : State) : Ask State := changes.foldlM Change.apply state

-- The widget of the last call that named an id, if that was a put.
def latest (id : String) (changes : List Change) : Option Value :=
  ((changes.filter fun change => change.id? == some id).getLast?).bind Change.widget?

-- The functions of the registry, by the calls that were made.
structure Registry (host : Host) (changes : List Change) (state : State) : Prop where
  has : ∀ id, state.hasWidget (text id) host = .ok (latest id changes).isSome
  get : ∀ id, state.getWidget (text id) host = .ok ((latest id changes).getD absent)
  listed : ∀ id, id ∈ state.widgetIds ↔ (latest id changes).isSome = true
  once : state.widgetIds.Nodup
  count : ∀ ids : List String, ids.Nodup → (∀ id, id ∈ ids ↔ (latest id changes).isSome = true) →
    state.widgetCount = ids.length

-- A deletion that leaves the base name alone: it finds nothing to drop, or nothing under the base name but what it drops.
def Spares (changes : List Change) (id : String) : Prop :=
  latest id changes = none ∨ latest baseName changes = none ∨ id = baseName

-- No deletion takes with it what stands under the base name.
def Harmless (changes : List Change) : Prop := ∀ before id, before ++ [.deleteWidget id] <+: changes → Spares before id

def Holds (changes : List Change) (widgets : Value) : Prop :=
  ∃ fields, widgets = object fields ∧ (Fields.keys fields).Nodup ∧ ∀ id, Fields.get? id fields = latest id changes

variable {host : Host} {changes : List Change} {state : State}

theorem latest_append (id : String) (changes : List Change) (change : Change) :
    latest id (changes ++ [change]) = if change.id? = some id then change.widget? else latest id changes := by
  unfold latest
  by_cases named : change.id? = some id
  · simp [named]
  · simp [named]

theorem latest_put (id other : String) (widget : Value) (changes : List Change) :
    latest other (changes ++ [.putWidget id widget]) = if id = other then some widget else latest other changes := by
  simp [latest_append,Change.id?,Change.widget?]

theorem latest_delete (id other : String) (changes : List Change) :
    latest other (changes ++ [.deleteWidget id]) = if id = other then none else latest other changes := by
  simp [latest_append,Change.id?,Change.widget?]

theorem latest_other {change : Change} (silent : change.id? = none) (id : String) :
    latest id (changes ++ [change]) = latest id changes := by
  rw [latest_append,silent]
  exact if_neg nofun

theorem Holds.registry (holds : Holds changes state.widgets) (host : Host) : Registry host changes state := by
  obtain ⟨fields,same,once,found⟩ := holds
  have has (id : String) : state.hasWidget (text id) host = .ok (latest id changes).isSome := by
    rw [← found,hasWidget,same]
    rfl
  have listed (id : String) : id ∈ state.widgetIds ↔ (latest id changes).isSome = true := by
    rw [← found,Option.isSome_iff_ne_none,ne_eq,Fields.get?_eq_none,not_not,widgetIds,same]
    rfl
  refine ⟨has,?_,listed,?_,?_⟩
  · intro id
    unfold getWidget
    rw [Ask.bind_ok (has id)]
    cases held : latest id changes with
    | none => rfl
    | some widget =>
      have read : (object fields).get id = widget := by
        rw [object,Value.get,found,held]
        rfl
      have named : (text id).fetchBy state.widgets host = .ok widget := by
        rw [same]
        exact congrArg Except.ok read
      exact named
  · rw [widgetIds,same]
    exact once
  · intro ids distinct exactly
    have once : state.widgetIds.Nodup := by
      rw [widgetIds,same]
      exact once
    refine List.Perm.length_eq ((List.perm_ext_iff_of_nodup once distinct).mpr ?_)
    intro id
    rw [listed,exactly]

theorem putWidget_holds (holds : Holds changes state.widgets) (id : String) (widget : Value) :
    ∃ next, state.putWidget (text id) widget host = .ok next ∧ Holds (changes ++ [.putWidget id widget]) next.widgets := by
  obtain ⟨fields,same,once,found⟩ := holds
  refine ⟨{ state with widgets := object (Fields.put id widget fields) },?_,_,rfl,Fields.nodup_put once,?_⟩
  · rw [putWidget,same]
    rfl
  · intro other
    rw [Fields.get?_put,found,latest_put]

-- What a deletion keeps, where it finds something to drop.
def others (id : String) (state : State) : Except Misuse Value := assignAll false (Fields.remove id (own state.widgets))

theorem deleteWidget_there {id : String} (holds : Holds changes state.widgets) (there : latest id changes ≠ none) :
    state.deleteWidget (text id) host =
      ((others id state).mapError Fault.misuse).map fun kept => ⟨{ state with widgets := kept },false⟩ := by
  have has : state.hasWidget (text id) host = .ok true := by
    rw [(holds.registry host).has,Option.isSome_iff_ne_none.mpr there]
  unfold deleteWidget
  rw [Ask.bind_ok has]
  show (((others id state).mapError Fault.misuse).bind _) = _
  cases others id state <;> rfl

theorem deleteWidget_gone {id : String} (holds : Holds changes state.widgets) (gone : latest id changes = none) :
    state.deleteWidget (text id) host = .ok ⟨state,true⟩ := by
  have has : state.hasWidget (text id) host = .ok false := by
    rw [(holds.registry host).has,gone]
    rfl
  unfold deleteWidget
  rw [Ask.bind_ok has]
  rfl

theorem deleteWidget_holds {id : String} (host : Host) (holds : Holds changes state.widgets) (spares : Spares changes id) :
    ∃ step, state.deleteWidget (text id) host = .ok step ∧ Holds (changes ++ [.deleteWidget id]) step.state.widgets := by
  have registered := holds
  obtain ⟨fields,same,once,found⟩ := holds
  have dropped (other : String) : Fields.get? other (Fields.remove id fields) =
      latest other (changes ++ [.deleteWidget id]) := by
    rw [Fields.get?_remove,found,latest_delete]
  have once' := @Fields.nodup_remove _ id _ once
  by_cases gone : latest id changes = none
  · refine ⟨_,deleteWidget_gone registered gone,fields,same,once,?_⟩
    intro other
    rw [← dropped,Fields.get?_remove]
    split
    · rename_i here
      rw [← here,found,gone]
    · rfl
  · have based : latest baseName (changes ++ [.deleteWidget id]) = none := by
      rw [latest_delete]
      rcases spares with gone' | none | same
      · exact absurd gone' gone
      · rw [none,ite_self]
      · exact if_pos same
    have named : ∀ entry ∈ Fields.remove id fields, entry.1 ≠ baseName := by
      intro entry there same
      have fresh := Fields.get?_eq_none.mp ((dropped baseName).trans based)
      exact fresh (same ▸ List.mem_map_of_mem there)
    have kept : others id state = .ok (object (Fields.ofEntries (Fields.remove id fields))) := by
      rw [others,same]
      exact assignAll_named false named []
    refine ⟨⟨{ state with widgets := object (Fields.ofEntries (Fields.remove id fields)) },false⟩,?_,_,rfl,
      Fields.nodup_ofEntries _,?_⟩
    · rw [deleteWidget_there registered gone,kept]
      rfl
    · intro other
      rw [← dropped,Fields.ofEntries,Fields.get?_putAll other once']
      exact Option.or_none

theorem deleteWidget_based {id : String} {step : Step} (holds : Holds changes state.widgets) (spares : ¬ Spares changes id)
    (ended : state.deleteWidget (text id) host = .ok step) : step.state.hasWidget (text baseName) host = .ok false := by
  obtain ⟨there,-,-⟩ := not_or.mp spares |>.imp_right not_or.mp
  rw [deleteWidget_there holds there] at ended
  obtain ⟨fields,same,once,-⟩ := holds
  cases kept : others id state with
  | error cause =>
    rw [kept] at ended
    cases ended
  | ok widgets =>
    rw [kept] at ended
    cases ended
    rw [others,same] at kept
    have none : baseName ∉ Fields.keys ([] : Fields Value) := List.not_mem_nil
    have stores := stores_assignAll (Fields.nodup_remove once) none kept
    have gone : Fields.get? baseName (own widgets) = Option.none := by
      rw [stores.own,Fields.get?_putAll_fresh]
      · rfl
      · intro entry listed
        exact bne_iff_ne.mp (List.mem_filter.mp listed).2
    exact congrArg Except.ok (congrArg Option.isSome gone)

theorem apply_holds {change : Change} (host : Host) (holds : Holds changes state.widgets)
    (spares : ∀ id, change = .deleteWidget id → Spares changes id) :
    ∃ next, change.apply state host = .ok next ∧ Holds (changes ++ [change]) next.widgets := by
  have silent (quiet : change.id? = none) : Holds (changes ++ [change]) state.widgets := by
    obtain ⟨fields,same,once,found⟩ := holds
    exact ⟨fields,same,once,fun id => (found id).trans (latest_other quiet id).symm⟩
  cases change with
  | putRoot root => exact ⟨_,rfl,silent rfl⟩
  | putConfig key held => exact ⟨_,rfl,silent rfl⟩
  | putMetadata key held => exact ⟨_,rfl,silent rfl⟩
  | bumpVersion => exact ⟨_,rfl,silent rfl⟩
  | putWidget id widget => exact putWidget_holds holds id widget
  | deleteWidget id =>
    obtain ⟨step,ended,kept⟩ := deleteWidget_holds host holds (spares id rfl)
    exact ⟨step.state,Ask.bind_ok ended,kept⟩

theorem harmless_append {change : Change} :
    Harmless (changes ++ [change]) ↔ Harmless changes ∧ ∀ id, change = .deleteWidget id → Spares changes id := by
  unfold Harmless
  constructor
  · intro harmless
    refine ⟨fun before id within => harmless before id (within.trans (List.prefix_append _ _)),?_⟩
    rintro id rfl
    exact harmless changes id List.prefix_rfl
  · rintro ⟨earlier,last⟩ before id within
    rcases List.prefix_concat_iff.mp within with whole | within
    · obtain ⟨rfl,same⟩ := List.append_inj' whole rfl
      exact last id (List.singleton_inj.mp same).symm
    · exact earlier before id within

theorem after_append (changes : List Change) (change : Change) (first : State) :
    after (changes ++ [change]) first = after changes first >>= (change.apply ·) := by
  simp [after]

variable {platform : Platform} {given : Value} {first : State}

theorem start_holds (made : start platform given host = .ok first) : Holds [] first.widgets := by
  obtain ⟨root,-,made⟩ := Ask.ok_of_bind made
  cases made
  exact ⟨[],rfl,List.nodup_nil,fun _ => rfl⟩

theorem after_holds (host : Host) (begun : Holds [] first.widgets) (harmless : Harmless changes) :
    ∃ state, after changes first host = .ok state ∧ Holds changes state.widgets := by
  induction changes using List.reverseRecOn with
  | nil => exact ⟨first,rfl,begun⟩
  | append_singleton changes change ih =>
    obtain ⟨earlier,last⟩ := harmless_append.mp harmless
    obtain ⟨state,ended,holds⟩ := ih earlier
    obtain ⟨next,applied,kept⟩ := apply_holds host holds last
    refine ⟨next,?_,kept⟩
    rw [after_append]
    exact (Ask.bind_ok ended).trans applied

-- The registry follows the calls all along exactly where no deletion takes what stands under the base name.
theorem harmless_iff (made : start platform given host = .ok first) :
    Harmless changes ↔ ∀ before, before <+: changes → ∃ state, after before first host = .ok state ∧ Registry host before state := by
  constructor
  · intro harmless before within
    have earlier : Harmless before := fun before id inside => harmless before id (inside.trans within)
    obtain ⟨state,ended,holds⟩ := after_holds host (start_holds made) earlier
    exact ⟨state,ended,holds.registry host⟩
  · intro follows
    induction changes using List.reverseRecOn with
    | nil =>
      intro before id within
      simp at within
    | append_singleton changes change ih =>
      have earlier := ih fun before within => follows before (within.trans (List.prefix_append _ _))
      refine harmless_append.mpr ⟨earlier,?_⟩
      rintro id rfl
      by_contra spares
      obtain ⟨state,ended,holds⟩ := after_holds host (start_holds made) earlier
      obtain ⟨next,applied,registry⟩ := follows _ List.prefix_rfl
      rw [after_append,Ask.bind_ok ended] at applied
      obtain ⟨step,deleted,same⟩ := Ask.ok_of_bind applied
      cases same
      have lost := deleteWidget_based holds spares deleted
      obtain ⟨-,there,apart⟩ := not_or.mp spares |>.imp_right not_or.mp
      rw [registry.has,latest_delete,if_neg apart] at lost
      exact there (Option.not_isSome_iff_eq_none.mp (Bool.eq_false_iff.mp (Except.ok.inj lost)))

-- After any calls that spare the base name the registry is the map the calls make, and a deletion that spares it changes
-- nothing under another id.
theorem widgets_latest (made : start platform given host = .ok first) (harmless : Harmless changes) :
    ∃ state, after changes first host = .ok state ∧ Registry host changes state ∧
      ∀ id, Spares changes id → ∃ step, state.deleteWidget (text id) host = .ok step ∧ ∀ other, other ≠ id →
        step.state.hasWidget (text other) host = state.hasWidget (text other) host ∧
          step.state.getWidget (text other) host = state.getWidget (text other) host := by
  obtain ⟨state,ended,holds⟩ := after_holds host (start_holds made) harmless
  have registry : Registry host changes state := holds.registry host
  refine ⟨state,ended,registry,?_⟩
  intro id spares
  obtain ⟨step,deleted,kept⟩ := deleteWidget_holds host holds spares
  refine ⟨step,deleted,?_⟩
  intro other apart
  have later : Registry host (changes ++ [.deleteWidget id]) step.state := kept.registry host
  have same : latest other (changes ++ [.deleteWidget id]) = latest other changes :=
    (latest_delete id other changes).trans (if_neg apart.symm)
  exact ⟨by rw [later.has,registry.has,same],by rw [later.get,registry.get,same]⟩

def shelf : List Change :=
  [.putWidget "note" (text "old"), .putWidget baseName (text "lamp"), .putConfig "theme" (text "dark"),
    .putWidget "note" (text "new"), .deleteWidget baseName, .putWidget "7" absent, .bumpVersion, .deleteWidget "note"]

theorem widgets_latest_shelf : Harmless shelf ∧ ∃ first state, start .web (object []) .silent = .ok first ∧
    after shelf first .silent = .ok state ∧ state.hasWidget (text "7") .silent = .ok true ∧
      state.hasWidget (text "note") .silent = .ok false ∧ state.widgetCount = 1 := by
  have made : start .web (object []) .silent = .ok (make .web absent [] []) := rfl
  have harmless : Harmless shelf := by
    rintro before id ⟨rest,whole⟩
    rcases before with _ | ⟨_,_ | ⟨_,_ | ⟨_,_ | ⟨_,_ | ⟨_,_ | ⟨_,_ | ⟨_,_ | ⟨_,_⟩⟩⟩⟩⟩⟩⟩⟩ <;> simp [shelf] at whole
    · exact .inr (.inr whole.2.2.2.2.1)
    · obtain ⟨rfl,rfl,rfl,rfl,rfl,rfl,rfl,-⟩ := whole
      exact .inr (.inl rfl)
  obtain ⟨state,ended,registry,-⟩ := widgets_latest made harmless
  have whole : ∃ state, after shelf (make .web absent [] []) .silent = .ok state ∧ state.widgetCount = 1 := ⟨_,rfl,rfl⟩
  obtain ⟨_,ended',counted⟩ := whole
  cases ended'.symm.trans ended
  exact ⟨harmless,_,_,made,ended,registry.has _,registry.has _,counted⟩

-- A deletion takes with it what stands under the base name.
theorem lamp_lost : ∃ first state, start .web (object []) .silent = .ok first ∧
    after [.putWidget baseName (text "lamp"), .putWidget "note" (text "new"), .deleteWidget "note"] first .silent = .ok state ∧
      latest baseName [.putWidget baseName (text "lamp"), .putWidget "note" (text "new"), .deleteWidget "note"] =
        some (text "lamp") ∧ state.hasWidget (text baseName) .silent = .ok false := ⟨_,_,rfl,rfl,rfl,rfl⟩

end State

end Trifold
