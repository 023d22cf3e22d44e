import Mathlib.Data.List.Range
import Trifold.Delivery.Dispatch
import Trifold.Proofs.Delivery.Shape
import Trifold.Proofs.Signal.Event

namespace Trifold

def BroadcastError.reasons : BroadcastError → List DispatchError
  | .invalidPlatform => [.invalidPlatform]
  | .event error => [.event error]
  | .missed targets => targets.map fun missed => .delivery missed.failure.reason

namespace Dispatch
open Delivery

-- An event as it is declared: two names, a record of data, and options with a name and limits where they have any.
structure Declared (incoming : Incoming) : Prop where
  platform : ∃ name, incoming.platform = .text name
  type : ∃ name, incoming.type = .text name
  data : incoming.data.isPlain = true
  options : (incoming.options.given (.object [])).isPlain = true
  domain : ∃ domain,
    ((incoming.options.given (.object [])).get "namespace").orElse (.text Signal.defaultDomain) = .text domain
  limits : Payload.AreLimits ((incoming.options.given (.object [])).get "limits")

-- What comes of a signal that goes to targets.
structure Sent (host : Host) (signal : Signal) (targets : List Value) (sent : Dispatched BroadcastError) : Prop where
  called : Called signal targets sent.calls
  signalled : ∀ call ∈ sent.calls,
    call.arguments.getLast? = some signal.toValue ∨ call.arguments = [] ∧ call.callee.parameters = 0
  same : ∀ answer, sent.outcome = .ok answer → answer = signal
  succeeds : (∃ answer, sent.outcome = .ok answer) ↔ ∀ target ∈ targets, ∀ failure, ¬ Fails host signal target failure
  fails : ∀ error, sent.outcome = .error error → ∃ failures, error = .missed failures ∧
    failures.Pairwise (fun missed later => missed.position < later.position) ∧
    ∀ missed, missed ∈ failures ↔
      ∃ target, targets[missed.position]? = some target ∧ Fails host signal target missed.failure

variable {incoming : Incoming} {host : Host} {targets : List Value} {attempts : List Attempt}

theorem signal_ends (declared : Declared incoming) (stamp : Stamp) : Ask.Ends host (signal stamp incoming) := by
  obtain ⟨⟨platform,given⟩,⟨type,typed⟩,plain,options,⟨domain,named⟩,limited⟩ := declared
  unfold signal
  rw [given,typed]
  cases known : Platform.ofName? platform with
  | none =>
    have unknown : Platform.isNamed (.text platform) = false := congrArg Option.isSome known
    rw [unknown]
    exact .pure _
  | some platform' =>
    have called := List.find?_some known
    obtain rfl : platform'.name = platform := beq_iff_eq.mp called
    have there : Platform.isNamed (.text platform'.name) = true := congrArg Option.isSome known
    rw [there]
    exact Ask.Ends.map (Event.toSignal_ends stamp platform' type plain options named limited)

theorem mem_missed {it : Missed} : it ∈ missed attempts ↔
    ∃ attempt, attempts[it.position]? = some attempt ∧ attempt.outcome = .error it.failure := by
  rw [missed,List.mem_filterMap]
  constructor
  · rintro ⟨⟨attempt,position⟩,there,failed⟩
    dsimp only at failed
    split at failed
    · cases failed
    · cases failed
      exact ⟨attempt,List.mem_zipIdx_iff_getElem?.mp there,by assumption⟩
  · rintro ⟨attempt,there,failed⟩
    refine ⟨(attempt,it.position),List.mem_zipIdx_iff_getElem?.mpr there,?_⟩
    dsimp only
    rw [failed]

theorem missed_ordered (attempts : List Attempt) :
    (missed attempts).Pairwise fun it later => it.position < later.position := by
  have counted : attempts.zipIdx.Pairwise fun entry later => entry.2 < later.2 := by
    rw [← List.pairwise_map,List.zipIdx_map_snd]
    exact List.pairwise_lt_range'
  refine counted.filterMap _ ?_
  rintro ⟨_,position⟩ ⟨_,position'⟩ before it there it' there'
  dsimp only at there there'
  split at there <;> cases there
  split at there' <;> cases there'
  exact before

theorem mem_missed_targets {signal : Signal} {it : Missed} :
    it ∈ missed (targets.map fun target => deliver host target signal.toValue) ↔
      ∃ target, targets[it.position]? = some target ∧ Fails host signal target it.failure := by
  rw [mem_missed]
  constructor
  · rintro ⟨_,there,failed⟩
    rw [List.getElem?_map,Option.map_eq_some_iff] at there
    obtain ⟨target,listed,rfl⟩ := there
    exact ⟨target,listed,deliver_failed.mp failed⟩
  · rintro ⟨target,listed,fails⟩
    exact ⟨_,by rw [List.getElem?_map,listed,Option.map_some],deliver_failed.mpr fails⟩

theorem missed_nil {signal : Signal} : missed (targets.map fun target => deliver host target signal.toValue) = [] ↔
    ∀ target ∈ targets, ∀ failure, ¬ Fails host signal target failure := by
  rw [List.eq_nil_iff_forall_not_mem]
  constructor
  · intro empty target there failure fails
    obtain ⟨position,listed⟩ := List.mem_iff_getElem?.mp there
    exact empty ⟨position,failure⟩ (mem_missed_targets.mpr ⟨target,listed,fails⟩)
  · intro delivered it there
    obtain ⟨target,listed,fails⟩ := mem_missed_targets.mp there
    exact delivered target (List.mem_of_getElem? listed) it.failure fails

theorem sent_targets (host : Host) (targets : List Value) (signal : Signal) :
    Sent host signal targets (sentToMany host targets signal) := by
  have called := called_calls host signal targets
  have empty := @missed_nil host targets signal
  have failed := @mem_missed_targets host targets signal
  have ordered := missed_ordered (targets.map fun target => deliver host target signal.toValue)
  unfold sentToMany
  dsimp only
  generalize missed (targets.map fun target => deliver host target signal.toValue) = failures at empty failed ordered
  cases failures with
  | nil =>
    refine ⟨called,called.signalled,?_,?_,nofun⟩
    · intro answer same
      cases same
      rfl
    · exact iff_of_true ⟨signal,rfl⟩ (empty.mp rfl)
  | cons first rest =>
    refine ⟨called,called.signalled,nofun,?_,?_⟩
    · refine iff_of_false nofun fun delivered => ?_
      cases empty.mpr delivered
    · intro error same
      cases same
      exact ⟨_,rfl,ordered,fun _ => failed⟩

theorem sent_single (host : Host) (target : Value) (signal : Signal) :
    (sentToMany host [target] signal).outcome.mapError BroadcastError.reasons =
      (sentToOne host target signal).outcome.mapError fun error => [error] := by
  unfold sentToMany sentToOne missed
  dsimp only [List.map_singleton,List.zipIdx_cons,List.zipIdx_nil,List.filterMap_cons]
  cases (deliver host target signal.toValue).outcome <;> rfl

-- A signal that is not made reaches nobody. One that is made reaches all targets, and one target as a dispatch does.
theorem toMany_exact (declared : Declared incoming) (stamp : Stamp) (targets : List Value) (host : Host) :
    (∃ made, signal stamp incoming host = .ok made ∧ match made with
      | .error error => toMany host stamp incoming targets = .ok (refused error.toBroadcast)
      | .ok signal => ∃ sent, toMany host stamp incoming targets = .ok sent ∧ Sent host signal targets sent) ∧
    ∀ target, ∃ one many, toOne host stamp incoming target = .ok one ∧ toMany host stamp incoming [target] = .ok many ∧
      many.outcome.mapError BroadcastError.reasons = one.outcome.mapError fun error => [error] := by
  obtain ⟨made,ended,-⟩ := @signal_ends incoming host declared stamp
  unfold toMany toOne
  rw [ended]
  cases made with
  | error error =>
    refine ⟨⟨_,rfl,rfl⟩,fun target => ⟨_,_,rfl,rfl,?_⟩⟩
    cases error <;> rfl
  | ok signal =>
    exact ⟨⟨_,rfl,_,rfl,sent_targets host targets signal⟩,fun target => ⟨_,_,rfl,rfl,sent_single host target signal⟩⟩

def click : Incoming := ⟨.text "terminal",.text "click",.object [],.absent⟩

def listener : Function := .host "listener" 1 "signal => 1"

def refresh : Function := .host "refresh" 0 "() => 1"

def desk : List Value := [.function (.host "pair" 2 "(a, b) => 1"), .function listener, .function refresh]

def down : Host :=
  { Host.silent with call := fun f _ => if f = listener then .threw (.raised "down") else .returned .absent }

theorem toMany_exact_click : Declared click ∧ ∃ signal sent,
    Dispatch.signal ⟨"1","now"⟩ click down = .ok (.ok signal) ∧ toMany down ⟨"1","now"⟩ click desk = .ok sent ∧
      Called signal desk sent.calls ∧
      sent.outcome = .error (.missed [⟨0,⟨.invalidTarget,none⟩⟩, ⟨1,⟨.deliveryFailed,some "down"⟩⟩]) := by
  have declared : Declared click := ⟨⟨_,rfl⟩,⟨_,rfl⟩,rfl,rfl,⟨_,rfl⟩,.inl rfl⟩
  have made : ∃ signal, Dispatch.signal ⟨"1","now"⟩ click down = .ok (.ok signal) := ⟨_,rfl⟩
  have answered : ∃ sent, toMany down ⟨"1","now"⟩ click desk = .ok sent ∧
      sent.outcome = .error (.missed [⟨0,⟨.invalidTarget,none⟩⟩, ⟨1,⟨.deliveryFailed,some "down"⟩⟩]) := ⟨_,rfl,rfl⟩
  obtain ⟨⟨_,ended,told⟩,-⟩ := toMany_exact declared ⟨"1","now"⟩ desk down
  obtain ⟨signal,made⟩ := made
  cases made.symm.trans ended
  obtain ⟨sent,same,facts⟩ := told
  obtain ⟨_,answer,missed⟩ := answered
  cases answer.symm.trans same
  exact ⟨declared,signal,sent,made,same,facts.called,missed⟩

-- A function that wants no signal is called without one.
theorem toMany_unsignalled : ∃ signal sent, Dispatch.signal ⟨"1","now"⟩ click down = .ok (.ok signal) ∧
    toMany down ⟨"1","now"⟩ click [.function refresh] = .ok sent ∧
      ¬ ∀ call ∈ sent.calls, signal.toValue ∈ call.arguments := by
  refine ⟨_,_,rfl,rfl,?_⟩
  intro signalled
  cases signalled _ List.mem_cons_self

end Dispatch

end Trifold
