import Trifold.Delivery.Target
import Trifold.Signal.Basic

namespace Trifold.Delivery
open Value

-- The call a target stands for. Only a function that declares no parameter is called without the signal.
inductive Stands (signal : Signal) : Value → Call → Prop
  | silent (f : Function) (bare : f.parameters = 0) : Stands signal (.function f) ⟨f,.absent,[]⟩
  | callback (f : Function) (single : f.parameters = 1) : Stands signal (.function f) ⟨f,.absent,[signal.toValue]⟩
  | emitter {target : Value} {f : Function} (shape : target.isObject = true) (emits : target.get "emit" = .function f) :
      Stands signal target ⟨f,target,[.text signal.type, signal.toValue]⟩
  | remote {target : Value} {name : String} {leading : List Value} {f : Function} (plain : target.isPlain = true)
      (mute : (target.get "emit").isFunction = false) (module : (target.get "module").isObject = true)
      (named : target.get "fn" = .text name) (given : leading? (target.get "args") = some leading)
      (found : (target.get "module").get name = .function f) :
      Stands signal target ⟨f,target.get "module",leading ++ [signal.toValue]⟩

-- The calls that targets stand for, each once and in the order of the targets.
inductive Called (signal : Signal) : List Value → List Call → Prop
  | nil : Called signal [] []
  | reached {target : Value} {call : Call} {rest : List Value} {calls : List Call} (here : Stands signal target call)
      (later : Called signal rest calls) : Called signal (target :: rest) (call :: calls)
  | passed {target : Value} {rest : List Value} {calls : List Call} (nothing : ∀ call, ¬ Stands signal target call)
      (later : Called signal rest calls) : Called signal (target :: rest) calls

-- How a target fails: it stands for no call, or the call it stands for throws.
inductive Fails (host : Host) (signal : Signal) (target : Value) : Failure → Prop
  | unsupported (nothing : ∀ call, ¬ Stands signal target call) : Fails host signal target ⟨.invalidTarget,none⟩
  | threw {call : Call} {fault : Fault} (stands : Stands signal target call) (threw : call.reply host = .threw fault) :
      Fails host signal target ⟨.deliveryFailed,some fault.message⟩

variable {signal : Signal} {target : Value} {targets : List Value} {call : Call} {failure : Failure} {host : Host}

theorem emitter?_eq_some {f : Function} : emitter? target = some f ↔ target.get "emit" = .function f := by
  unfold emitter?
  cases target.get "emit" <;> simp

theorem emitter?_eq_none : emitter? target = none ↔ (target.get "emit").isFunction = false := by
  unfold emitter?
  cases target.get "emit" <;> simp [isFunction]

theorem isObject_of_plain {value : Value} (plain : value.isPlain = true) : value.isObject = true := by
  cases value <;> first | rfl | cases plain

theorem call?_object {signal : Value} (shape : target.isObject = true) : call? target signal =
    match emitter? target with
    | some f => some ⟨f,target,[signal.get "type", signal]⟩
    | none => if target.isPlain then remoteCall? target signal else none := by
  cases target <;> first | rfl | cases shape

theorem call?_flat {signal : Value} (shape : target.isObject = false) (flat : target.isFunction = false) :
    call? target signal = none := by
  cases target with
  | function => cases flat
  | _ => first | rfl | cases shape

theorem remoteCall?_stands (plain : target.isPlain = true) (mute : (target.get "emit").isFunction = false)
    (resolved : remoteCall? target signal.toValue = some call) : Stands signal target call := by
  unfold remoteCall? at resolved
  obtain ⟨_,module,resolved⟩ := Option.bind_eq_some_iff.mp resolved
  obtain ⟨name,named,resolved⟩ := Option.bind_eq_some_iff.mp resolved
  obtain ⟨leading,given,resolved⟩ := Option.bind_eq_some_iff.mp resolved
  obtain ⟨f,found,same⟩ := Option.bind_eq_some_iff.mp resolved
  cases same
  have held : (target.get "module").isObject = true := by
    cases shape : (target.get "module").isObject with
    | true => rfl
    | false =>
      rw [shape] at module
      cases module
  have text : target.get "fn" = .text name := by
    cases written : target.get "fn" <;> rw [written] at named <;> cases named
    rfl
  have member : (target.get "module").get name = .function f := by
    cases there : (target.get "module").get name <;> rw [there] at found <;> cases found
    rfl
  exact .remote plain mute held text given member

theorem call?_eq_some : call? target signal.toValue = some call ↔ Stands signal target call := by
  constructor
  · intro resolved
    by_cases shape : target.isObject = true
    · rw [call?_object shape] at resolved
      cases emits : emitter? target with
      | some f =>
        rw [emits] at resolved
        cases resolved
        exact .emitter shape (emitter?_eq_some.mp emits)
      | none =>
        rw [emits] at resolved
        dsimp only at resolved
        split at resolved
        · rename_i plain
          exact remoteCall?_stands plain (emitter?_eq_none.mp emits) resolved
        · cases resolved
    · by_cases callable : target.isFunction = true
      · cases target <;> cases callable
        rename_i f
        change functionCall? f _ = _ at resolved
        unfold functionCall? at resolved
        split at resolved
        · cases resolved
          exact .silent f (beq_iff_eq.mp (by assumption))
        · split at resolved
          · cases resolved
            exact .callback f (beq_iff_eq.mp (by assumption))
          · cases resolved
      · rw [call?_flat (eq_false_of_ne_true shape) (eq_false_of_ne_true callable)] at resolved
        cases resolved
  · intro stands
    cases stands with
    | silent f bare =>
      change functionCall? f _ = _
      rw [functionCall?,bare]
      rfl
    | callback f single =>
      change functionCall? f _ = _
      rw [functionCall?,single]
      rfl
    | emitter shape emits =>
      rw [call?_object shape,emitter?_eq_some.mpr emits]
      rfl
    | remote plain mute module named given found =>
      rw [call?_object (isObject_of_plain plain),emitter?_eq_none.mpr mute]
      dsimp only
      rw [if_pos plain,remoteCall?,module,named,given]
      change Option.bind ((target.get "module").get _).function? _ = _
      rw [found]
      rfl

theorem call?_eq_none : call? target signal.toValue = none ↔ ∀ call, ¬ Stands signal target call := by
  rw [Option.eq_none_iff_forall_ne_some]
  exact forall_congr' fun call => not_congr call?_eq_some

-- A delivery makes the call that the target stands for, whatever comes of it.
theorem deliver_call (host : Host) (target signal : Value) : (deliver host target signal).call = call? target signal := by
  unfold deliver
  cases call? target signal with
  | none => rfl
  | some call =>
    dsimp only
    cases call.reply host <;> rfl

theorem called_calls (host : Host) (signal : Signal) (targets : List Value) :
    Called signal targets (calls (targets.map fun target => deliver host target signal.toValue)) := by
  induction targets with
  | nil => exact .nil
  | cons target rest ih =>
    rw [calls,List.map_cons,List.filterMap_cons,deliver_call]
    cases resolved : call? target signal.toValue with
    | none => exact .passed (call?_eq_none.mp resolved) ih
    | some call => exact .reached (call?_eq_some.mp resolved) ih

theorem deliver_failed : (deliver host target signal.toValue).outcome = .error failure ↔ Fails host signal target failure := by
  constructor
  · intro failed
    unfold deliver at failed
    cases resolved : call? target signal.toValue with
    | none =>
      rw [resolved] at failed
      cases failed
      exact .unsupported (call?_eq_none.mp resolved)
    | some call =>
      rw [resolved] at failed
      dsimp only at failed
      cases replied : call.reply host with
      | threw fault =>
        rw [replied] at failed
        cases failed
        exact .threw (call?_eq_some.mp resolved) replied
      | _ =>
        rw [replied] at failed
        cases failed
  · intro fails
    unfold deliver
    cases fails with
    | unsupported nothing => rw [call?_eq_none.mpr nothing]
    | threw stands threw =>
      rw [call?_eq_some.mpr stands]
      dsimp only
      rw [threw]

theorem Stands.signalled (stands : Stands signal target call) :
    call.arguments.getLast? = some signal.toValue ∨ call.arguments = [] ∧ call.callee.parameters = 0 := by
  cases stands with
  | silent _ bare => exact .inr ⟨rfl,bare⟩
  | callback | emitter => exact .inl rfl
  | remote => exact .inl List.getLast?_concat

theorem Called.signalled {calls : List Call} (called : Called signal targets calls) : ∀ call ∈ calls,
    call.arguments.getLast? = some signal.toValue ∨ call.arguments = [] ∧ call.callee.parameters = 0 := by
  induction called with
  | nil => exact List.forall_mem_nil _
  | reached here _ ih => exact List.forall_mem_cons.mpr ⟨here.signalled,ih⟩
  | passed _ _ ih => exact ih

end Trifold.Delivery
