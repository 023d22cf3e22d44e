import Mathlib.Data.List.Induction
import Trifold.Platform.Renderer
import Trifold.Proofs.Value.Spread

namespace Trifold.Renderer
open Value

structure Call where
  value : Value
  options : Value

def Call.Distinct (call : Call) : Prop := call.value.Distinct ∧ call.options.Distinct

-- An update and the state it is applied to.
structure Moment where
  before : State
  call : Call

namespace Moment

def updated (renderer : Renderer) (moment : Moment) : Run (Except RenderError Step) :=
  renderer.update moment.call.value moment.before moment.call.options

def step? (renderer : Renderer) (moment : Moment) : Option Step :=
  match (moment.updated renderer).outcome with
  | .ok (.ok step) => some step
  | _ => none

def after (renderer : Renderer) (moment : Moment) : State :=
  match moment.step? renderer with
  | some step => step.state
  | none => moment.before

-- The configuration before, with the options of the call written over it.
def config (moment : Moment) : Fields Value := spread moment.before.config (own moment.call.options)

def configDiffers (moment : Moment) : Bool := !same (object moment.config) (object moment.before.config)

def valueDiffers (moment : Moment) : Bool := !same moment.call.value (lastShown moment.before)

def Unchanged (moment : Moment) : Prop := moment.configDiffers = false ∧ moment.valueDiffers = false

def converted (renderer : Renderer) (moment : Moment) : Run Value :=
  renderer.conversion moment.call.value (some { moment.before with config := moment.config })

def rootDiffers (renderer : Renderer) (moment : Moment) : Bool :=
  match (moment.converted renderer).outcome with
  | .ok root => !same root moment.before.root
  | .error _ => false

def skipped (renderer : Renderer) (moment : Moment) : Bool := (moment.step? renderer).any (·.same)

-- An update that went through, was not skipped and found something different.
def counts (renderer : Renderer) (moment : Moment) : Bool :=
  (moment.step? renderer).any (!·.same) && (moment.configDiffers || moment.rootDiffers renderer)

end Moment

-- A run so far: every update with the state it met, and the state now.
structure History where
  past : List Moment
  now : State

namespace History

def advance (renderer : Renderer) (history : History) (call : Call) : History :=
  let moment : Moment := ⟨history.now,call⟩
  ⟨history.past ++ [moment],moment.after renderer⟩

def of (renderer : Renderer) (start : State) (calls : List Call) : History :=
  calls.foldl (advance renderer) ⟨[],start⟩

-- The calls that went through, the first render among them.
def accepted (renderer : Renderer) (first : Call) (history : History) : List Call :=
  first :: (history.past.filter fun moment => (moment.step? renderer).isSome).map (·.call)

end History

def spreadAll (calls : List Call) : Fields Value :=
  calls.foldl (fun under call => spread under (own call.options)) []

-- What a run keeps. `first` is the render it began with, and `start` the state that render gave.
structure Gated (renderer : Renderer) (first : Call) (start : State) (history : History) : Prop where
  skipped : ∀ moment ∈ history.past, moment.skipped renderer = true ↔ moment.Unchanged
  returned : ∀ moment ∈ history.past, moment.Unchanged →
    moment.updated renderer = ⟨[],.ok (.ok ⟨moment.before,true⟩)⟩
  version : history.now.version = (history.past.filter (·.counts renderer)).length
  root : ∀ moment ∈ history.past, (moment.after renderer).root ≠ moment.before.root →
    moment.rootDiffers renderer = true
  config : same (object history.now.config) (object (spreadAll (history.accepted renderer first))) = true
  frame : history.now.platform = start.platform ∧ history.now.widgets = start.widgets ∧
    ∀ key, key ≠ lastKey → Fields.get? key history.now.metadata = Fields.get? key start.metadata
  shown : ∀ last ∈ (history.accepted renderer first).getLast?, same (lastShown history.now) last.value = true
  repeated : ∀ last ∈ (history.accepted renderer first).getLast?,
    (Moment.mk history.now last).updated renderer = ⟨[],.ok (.ok ⟨history.now,true⟩)⟩

theorem tryConvert_outcome (platform : Platform) (converted : Run Value) :
    (tryConvert platform converted).outcome = .ok (match converted.outcome with
      | .ok root => .ok root
      | .error _ => .error .renderFailed) := by
  obtain ⟨warnings,outcome⟩ := converted
  cases outcome <;> rfl

def Moment.replaced (moment : Moment) (root : Value) : State where
  platform := moment.before.platform
  root := if !same root moment.before.root then root else moment.before.root
  config := moment.config
  version :=
    if !same root moment.before.root || moment.configDiffers then moment.before.version + 1 else moment.before.version
  metadata := Fields.put lastKey moment.call.value moment.before.metadata
  widgets := moment.before.widgets

-- What every update passes on to the next: what will be compared lists each name once, and the last call that went
-- through finds nothing changed.
structure Sound (start now : State) (accepted : List Call) (counted : Nat) : Prop where
  configDistinct : Distinct (object now.config)
  shownDistinct : Distinct (lastShown now)
  spreadDistinct : Distinct (object (spreadAll accepted))
  version : now.version = counted
  config : same (object now.config) (object (spreadAll accepted)) = true
  frame : now.platform = start.platform ∧ now.widgets = start.widgets ∧
    ∀ key, key ≠ lastKey → Fields.get? key now.metadata = Fields.get? key start.metadata
  shown : ∀ last ∈ accepted.getLast?, same (lastShown now) last.value = true
  settled : ∀ last ∈ accepted.getLast?, (Moment.mk now last).Unchanged

theorem accepted_advance (renderer : Renderer) (first : Call) (history : History) (call : Call) :
    (history.advance renderer call).accepted renderer first =
      if ((Moment.mk history.now call).step? renderer).isSome then history.accepted renderer first ++ [call]
      else history.accepted renderer first := by
  rw [History.accepted,History.advance,List.filter_append,List.map_append]
  split <;> rename_i went
  · simp [went,History.accepted]
  · simp [went,History.accepted]

theorem spreadAll_append (calls : List Call) (call : Call) :
    spreadAll (calls ++ [call]) = spread (spreadAll calls) (own call.options) := by
  rw [spreadAll,List.foldl_append]
  rfl

theorem lastShown_replaced (moment : Moment) (root : Value) : lastShown (moment.replaced root) = moment.call.value := by
  simp [lastShown,Moment.replaced,object,Value.get,Fields.get?_put]

theorem unchanged_iff {moment : Moment} :
    moment.Unchanged ↔ same (object moment.config) (object moment.before.config) = true ∧
      same moment.call.value (lastShown moment.before) = true := by
  simp [Moment.Unchanged,Moment.configDiffers,Moment.valueDiffers]

section
variable {start now : State} {accepted : List Call} {counted : Nat} {call : Call}

-- A skipped update leaves a state that is only equal to what its call asked for.
theorem sound_skipped (sound : Sound start now accepted counted) (distinct : call.Distinct)
    (unchanged : (Moment.mk now call).Unchanged) : Sound start now (accepted ++ [call]) counted := by
  obtain ⟨configDistinct,shownDistinct,spreadDistinct,version,config,frame,shown,settled⟩ := sound
  have top := distinct_object_own distinct.2
  obtain ⟨kept,equal⟩ := unchanged_iff.mp unchanged
  refine ⟨configDistinct,shownDistinct,?_,version,?_,frame,?_,?_⟩
  · rw [spreadAll_append]
    exact distinct_spread spreadDistinct top
  · rw [spreadAll_append]
    have back := same_symm (distinct_spread configDistinct top) configDistinct kept
    exact same_trans back (same_spread configDistinct spreadDistinct top config)
  · rw [List.getLast?_append]
    intro last here
    cases here
    exact same_symm distinct.1 shownDistinct equal
  · rw [List.getLast?_append]
    intro last here
    cases here
    exact unchanged

theorem sound_replaced (sound : Sound start now accepted counted) (distinct : call.Distinct) (root : Value) :
    Sound start ((Moment.mk now call).replaced root) (accepted ++ [call])
      (counted + if !same root now.root || (Moment.mk now call).configDiffers then 1 else 0) := by
  obtain ⟨configDistinct,shownDistinct,spreadDistinct,version,config,frame,shown,settled⟩ := sound
  have top := distinct_object_own distinct.2
  refine ⟨distinct_spread configDistinct top,?_,?_,?_,?_,⟨frame.1,frame.2.1,?_⟩,?_,?_⟩
  · rw [lastShown_replaced]
    exact distinct.1
  · rw [spreadAll_append]
    exact distinct_spread spreadDistinct top
  · change (if _ then now.version + 1 else now.version) = _
    rw [← version]
    split <;> rfl
  · rw [spreadAll_append]
    exact same_spread configDistinct spreadDistinct top config
  · intro key apart
    rw [Moment.replaced,Fields.get?_put,if_neg (Ne.symm apart)]
    exact frame.2.2 key apart
  · rw [List.getLast?_append,lastShown_replaced]
    intro last here
    cases here
    exact same_refl distinct.1
  · rw [List.getLast?_append]
    intro last here
    cases here
    refine unchanged_iff.mpr ⟨same_spread_again configDistinct top,?_⟩
    rw [lastShown_replaced]
    exact same_refl distinct.1

end

section
variable {platform : Platform} {conversion : Conversion} {release : Option (State → State)}

theorem updated_unchanged {moment : Moment} (unchanged : moment.Unchanged) :
    moment.updated (ofConversion platform conversion release) = ⟨[],.ok (.ok ⟨moment.before,true⟩)⟩ := by
  obtain ⟨config,value⟩ := unchanged
  change nextRender platform conversion moment.call.value moment.before moment.call.options = _
  rw [Moment.configDiffers,Moment.config] at config
  rw [Moment.valueDiffers] at value
  simp only [nextRender,config,value]
  rfl

theorem updated_changed {moment : Moment} (changed : ¬ moment.Unchanged) :
    (moment.updated (ofConversion platform conversion release)).outcome =
      .ok (match (moment.converted (ofConversion platform conversion release)).outcome with
        | .ok root => .ok ⟨moment.replaced root,false⟩
        | .error _ => .error .renderFailed) := by
  change (nextRender platform conversion moment.call.value moment.before moment.call.options).outcome = _
  have gate : (!moment.configDiffers && !moment.valueDiffers) = false := by
    rw [Moment.Unchanged,← Bool.not_eq_true',← Bool.not_eq_true' moment.valueDiffers,← Bool.and_eq_true,
      Bool.not_eq_true] at changed
    exact changed
  change (if (!moment.configDiffers && !moment.valueDiffers) = true then _ else _ : Run _).outcome = _
  rw [if_neg (by simp [gate])]
  change (Run.bind _ _).outcome = _
  rw [Run.bind_ok _ _ _ (tryConvert_outcome _ _)]
  change Except.ok (Except.map _ (match (moment.converted (ofConversion platform conversion release)).outcome with
    | .ok root => _
    | .error _ => _)) = _
  cases (moment.converted (ofConversion platform conversion release)).outcome with
  | ok root => rfl
  | error fault => rfl

theorem step_cases (platform : Platform) (conversion : Conversion) (release : Option (State → State))
    (moment : Moment) :
    (moment.Unchanged ∧ moment.step? (ofConversion platform conversion release) = some ⟨moment.before,true⟩) ∨
      (¬ moment.Unchanged ∧ ∃ root, (moment.converted (ofConversion platform conversion release)).outcome = .ok root ∧
        moment.step? (ofConversion platform conversion release) = some ⟨moment.replaced root,false⟩) ∨
      (¬ moment.Unchanged ∧ moment.step? (ofConversion platform conversion release) = none) := by
  by_cases unchanged : moment.Unchanged
  · refine .inl ⟨unchanged,?_⟩
    rw [Moment.step?,updated_unchanged unchanged]
  · refine .inr ?_
    rw [Moment.step?,updated_changed unchanged]
    cases (moment.converted (ofConversion platform conversion release)).outcome with
    | ok root => exact .inl ⟨unchanged,root,rfl,rfl⟩
    | error fault => exact .inr ⟨unchanged,rfl⟩

theorem counted_append (renderer : Renderer) (past : List Moment) (moment : Moment) :
    ((past ++ [moment]).filter (·.counts renderer)).length =
      (past.filter (·.counts renderer)).length + if moment.counts renderer then 1 else 0 := by
  rw [List.filter_append,List.length_append,List.filter_singleton]
  cases moment.counts renderer <;> rfl

def History.Sound (renderer : Renderer) (first : Call) (start : State) (history : History) : Prop :=
  Renderer.Sound start history.now (history.accepted renderer first) (history.past.filter (·.counts renderer)).length

theorem sound_first {first : Call} {start : State} (distinct : first.Distinct)
    (began : ((ofConversion platform conversion release).render first.value first.options).outcome = .ok (.ok start)) :
    History.Sound (ofConversion platform conversion release) first start ⟨[],start⟩ := by
  have begun : ∃ root, start = State.make platform root (own first.options) [(lastKey,first.value)] := by
    change (firstRender platform conversion first.value first.options).outcome = _ at began
    obtain ⟨tried,tries,made⟩ := Run.ok_of_bind began
    cases tried with
    | error fault => cases made
    | ok root =>
      cases made
      exact ⟨root,rfl⟩
  obtain ⟨root,rfl⟩ := begun
  have top := distinct_object_own distinct.2
  refine ⟨top,distinct.1,distinct_spread (by simp [distinct_object,Fields.keys]) top,rfl,same_spread_empty top,
    ⟨rfl,rfl,fun key _ => rfl⟩,?_,?_⟩
  · intro last here
    cases here
    exact same_refl distinct.1
  · intro last here
    cases here
    exact unchanged_iff.mpr ⟨same_spread_own top,same_refl distinct.1⟩

theorem sound_advance {first call : Call} {start : State} {history : History}
    (sound : history.Sound (ofConversion platform conversion release) first start) (distinct : call.Distinct) :
    (history.advance (ofConversion platform conversion release) call).Sound
      (ofConversion platform conversion release) first start := by
  have cases := step_cases platform conversion release ⟨history.now,call⟩
  generalize ofConversion platform conversion release = renderer at *
  rw [History.Sound,accepted_advance,History.advance,counted_append,Moment.after,Moment.counts]
  rcases cases with ⟨unchanged,went⟩ | ⟨_,root,came,went⟩ | ⟨_,went⟩
  · rw [went]
    exact sound_skipped sound distinct unchanged
  · have next := sound_replaced sound distinct root
    rw [went,Moment.rootDiffers,came]
    rw [Bool.or_comm] at next
    exact next
  · rw [went]
    exact sound

theorem sound_of {first : Call} {start : State} (calls : List Call) (distinct : first.Distinct)
    (each : ∀ call ∈ calls, call.Distinct)
    (began : ((ofConversion platform conversion release).render first.value first.options).outcome = .ok (.ok start)) :
    (History.of (ofConversion platform conversion release) start calls).Sound
      (ofConversion platform conversion release) first start := by
  induction calls using List.reverseRecOn with
  | nil => exact sound_first distinct began
  | append_singleton calls call ih =>
    obtain ⟨before,here⟩ := List.forall_mem_append.mp each
    rw [History.of,List.foldl_append]
    exact sound_advance (ih before) (here call List.mem_cons_self)

theorem skipped_iff (moment : Moment) :
    moment.skipped (ofConversion platform conversion release) = true ↔ moment.Unchanged := by
  rw [Moment.skipped]
  rcases step_cases platform conversion release moment with ⟨unchanged,went⟩ | ⟨changed,root,_,went⟩ | ⟨changed,went⟩
  all_goals rw [went]; simp_all

theorem rootDiffers_of_after {moment : Moment}
    (moved : (moment.after (ofConversion platform conversion release)).root ≠ moment.before.root) :
    moment.rootDiffers (ofConversion platform conversion release) = true := by
  rw [Moment.after] at moved
  rw [Moment.rootDiffers]
  rcases step_cases platform conversion release moment with ⟨_,went⟩ | ⟨_,root,came,went⟩ | ⟨_,went⟩
  · rw [went] at moved
    exact absurd rfl moved
  · rw [went] at moved
    rw [came]
    by_contra equal
    exact moved (if_neg equal)
  · rw [went] at moved
    exact absurd rfl moved

-- The gate over any run, for any way to convert.
theorem update_gated {first : Call} {start : State} (calls : List Call) (distinct : first.Distinct)
    (each : ∀ call ∈ calls, call.Distinct)
    (began : ((ofConversion platform conversion release).render first.value first.options).outcome = .ok (.ok start)) :
    Gated (ofConversion platform conversion release) first start
      (History.of (ofConversion platform conversion release) start calls) := by
  have sound := sound_of calls distinct each began
  refine ⟨?_,?_,sound.version,?_,sound.config,sound.frame,sound.shown,?_⟩
  · intro moment _
    exact skipped_iff moment
  · intro moment _ unchanged
    exact updated_unchanged unchanged
  · intro moment _ moved
    exact rootDiffers_of_after moved
  · intro last here
    exact updated_unchanged (sound.settled last here)

end

def shownText : Conversion := fun value _ =>
  match value with
  | .text s => pure (object [("shown",.text s)])
  | _ => Run.fail .unheard

def firstCall : Call := ⟨.text "a",object [("theme",.text "dark")]⟩

-- The same again with an option that holds nothing, a value that is refused, and another value.
def laterCalls : List Call := [⟨.text "a",object [("size",.absent)]⟩,⟨.null,object []⟩,⟨.text "b",object []⟩]

def firstState : State :=
  State.make .web (object [("shown",.text "a")]) [("theme",.text "dark")] [(lastKey,.text "a")]

theorem update_gated_counted :
    Gated (ofConversion .web shownText none) firstCall firstState
        (History.of (ofConversion .web shownText none) firstState laterCalls) ∧
      (History.of (ofConversion .web shownText none) firstState laterCalls).now.version = 1 := by
  refine ⟨update_gated laterCalls ⟨trivial,?_⟩ ?_ rfl,by decide⟩
  · exact distinct_object.mpr ⟨by decide,by simp [Value.Distinct]⟩
  · intro call there
    simp only [laterCalls,List.mem_cons,List.not_mem_nil,or_false] at there
    rcases there with rfl | rfl | rfl <;> exact ⟨trivial,distinct_object.mpr ⟨by decide,by simp [Value.Distinct]⟩⟩

end Trifold.Renderer
