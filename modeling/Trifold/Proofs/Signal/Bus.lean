import Trifold.Signal.Bus

namespace Trifold.Bus

variable {κ : Type}

-- Listeners that make no calls while they are told, and take without throwing what the bus tells of itself.
structure Calm (react : React κ) : Prop where
  still : ∀ notice listener bus, (react notice listener bus).bus = bus
  quiet : ∀ topic listener bus, (react (.topic topic) listener bus).fault = none

variable {react : React κ} {notice : Notice} {bus : Bus κ}

theorem callAll_still (calm : Calm react) (notice : Notice) (bus : Bus κ) (present : List κ) :
    (callAll react notice bus present).bus = bus := by
  induction present with
  | nil => rfl
  | cons listener rest ih =>
    have still := calm.still notice listener bus
    unfold callAll
    generalize react notice listener bus = reaction at still
    obtain ⟨after,fault⟩ := reaction
    subst still
    cases fault with
    | none => exact ih
    | some fault => rfl

theorem announce_still (calm : Calm react) (topic : Topic) (notice : Notice) (bus : Bus κ) :
    (announce react topic notice bus).bus = bus := by
  unfold announce
  split
  · rfl
  · exact callAll_still calm notice bus _

theorem callAll_heard (quiet : ∀ listener bus, (react notice listener bus).fault = none) (bus : Bus κ) (present : List κ) :
    (callAll react notice bus present).called = present ∧ (callAll react notice bus present).outcome = .ok true := by
  induction present generalizing bus with
  | nil => exact ⟨rfl,rfl⟩
  | cons listener rest ih =>
    have quiet := quiet listener bus
    unfold callAll
    generalize react notice listener bus = reaction at quiet
    obtain ⟨after,fault⟩ := reaction
    subst quiet
    obtain ⟨called,outcome⟩ := ih after
    exact ⟨congrArg (listener :: ·) called,outcome⟩

theorem announce_heard (quiet : ∀ listener bus, (react notice listener bus).fault = none) (topic : Topic) (bus : Bus κ) :
    (announce react topic notice bus).called = listeners topic bus ∧
      (announce react topic notice bus).outcome = .ok (!(listeners topic bus).isEmpty) := by
  unfold announce
  cases present : listeners topic bus with
  | nil => exact ⟨rfl,rfl⟩
  | cons listener rest => exact callAll_heard quiet bus _

theorem andThen_ok {first : Emission κ} {next : Bus κ → Emission κ} {heard : Bool} (ended : first.outcome = .ok heard) :
    first.andThen next = ⟨(next first.bus).bus,first.called ++ (next first.bus).called,
      (next first.bus).outcome.map (heard || ·)⟩ := by
  rw [Emission.andThen,ended]

theorem on_added (calm : Calm react) (topic : Topic) (listener : κ) (bus : Bus κ) :
    (on react topic listener bus).bus = add topic listener bus ∧ ∃ heard, (on react topic listener bus).outcome = .ok heard := by
  have told := announce_heard (fun listener bus => calm.quiet topic listener bus) made bus
  rw [on,andThen_ok told.2,announce_still calm]
  exact ⟨rfl,_,rfl⟩

theorem emit_still (calm : Calm react) (name : String) (payload : Value) (bus : Bus κ) :
    (emit react name payload bus).bus = bus := by
  unfold emit
  split
  · rfl
  · split
    · rfl
    · rw [Emission.andThen]
      split
      · exact announce_still calm _ _ _
      · dsimp only
        rw [announce_still calm,announce_still calm]

-- Those who asked for the name are told first, then those who asked for everything, as they are by then.
theorem emit_heard {name : String} {payload : Value} (carried : carries name payload = true)
    (heeded : name = errorType → listeners (.named name) bus ≠ [])
    (quiet : ∀ listener bus, (react (.signal payload) listener bus).fault = none) :
    let after := (announce react (.named name) (.signal payload) bus).bus
    (emit react name payload bus).called = listeners (.named name) bus ++ listeners .every after ∧
      (emit react name payload bus).outcome =
        .ok (!(listeners (.named name) bus).isEmpty || !(listeners .every after).isEmpty) := by
  have exact_ := announce_heard quiet (.named name) bus
  have every := announce_heard quiet .every (announce react (.named name) (.signal payload) bus).bus
  have begun : ¬ (name == errorType && (listeners (.named name) bus).isEmpty) = true := by
    rw [Bool.and_eq_true,beq_iff_eq,List.isEmpty_iff]
    exact fun unheard => heeded unheard.1 unheard.2
  unfold emit
  rw [carried,Bool.not_true,if_neg Bool.false_ne_true,if_neg begun,andThen_ok exact_.2,exact_.1,every.1,every.2]
  exact ⟨rfl,rfl⟩

variable [DecidableEq κ]

theorem off_dropped (calm : Calm react) (topic : Topic) (listener : κ) (bus : Bus κ) :
    (off react topic listener bus).bus = drop topic listener bus ∧
      ∃ heard, (off react topic listener bus).outcome = .ok heard := by
  unfold off
  split
  · have told := announce_heard (fun listener bus => calm.quiet topic listener bus) dropped (drop topic listener bus)
    exact ⟨announce_still calm _ _ _,_,told.2⟩
  · rename_i none
    have kept : drop topic listener bus = bus := by
      rw [drop,List.erase_of_not_mem (by rwa [List.mem_reverse]),List.reverse_reverse]
    exact ⟨kept.symm,_,rfl⟩

theorem offAll_ok (calm : Calm react) (leaving : List (Subscription κ)) (bus : Bus κ) :
    ∃ heard, (offAll react bus leaving).outcome = .ok heard := by
  induction leaving generalizing bus with
  | nil => exact ⟨_,rfl⟩
  | cons it rest ih =>
    obtain ⟨_,heard,ended⟩ := off_dropped calm it.topic it.listener bus
    obtain ⟨later,others⟩ := ih (off react it.topic it.listener bus).bus
    refine ⟨heard || later,?_⟩
    rw [offAll,andThen_ok ended,others]
    rfl

theorem clear_empty (calm : Calm react) (bus : Bus κ) : (clear react bus).bus = empty := by
  unfold clear
  dsimp only
  split
  · rfl
  · obtain ⟨heard,ended⟩ := offAll_ok calm _ bus
    rw [andThen_ok ended]

end Trifold.Bus
