import Trifold.Host

namespace Trifold

structure Run (α : Type) where
  warnings : List String
  outcome : Except Fault α

namespace Run

variable {α β : Type}

protected def pure (a : α) : Run α := ⟨[],.ok a⟩

protected def bind (first : Run α) (next : α → Run β) : Run β :=
  match first.outcome with
  | .error fault => ⟨first.warnings,.error fault⟩
  | .ok a => ⟨first.warnings ++ (next a).warnings,(next a).outcome⟩

instance : Monad Run where
  pure := Run.pure
  bind := Run.bind

def warn (message : String) : Run Unit := ⟨[message],.ok ()⟩

def ofExcept (outcome : Except Fault α) : Run α := ⟨[],outcome⟩

def ofMisuse (outcome : Except Misuse α) : Run α := ⟨[],outcome.mapError Fault.misuse⟩

def ask (host : Host) (question : Ask α) : Run α := ⟨[],question host⟩

def fail (fault : Fault) : Run α := ⟨[],.error fault⟩

def attempt (run : Run α) : Run (Except Fault α) := ⟨run.warnings,.ok run.outcome⟩

theorem bind_ok (first : Run α) (next : α → Run β) (a : α) (ended : first.outcome = .ok a) :
    Run.bind first next = ⟨first.warnings ++ (next a).warnings,(next a).outcome⟩ := by
  simp [Run.bind,ended]

theorem bind_error (first : Run α) (next : α → Run β) (fault : Fault) (ended : first.outcome = .error fault) :
    Run.bind first next = ⟨first.warnings,.error fault⟩ := by
  simp [Run.bind,ended]

theorem ok_of_bind {first : Run α} {next : α → Run β} {b : β} (ended : (first >>= next).outcome = .ok b) :
    ∃ a, first.outcome = .ok a ∧ (next a).outcome = .ok b := by
  change (Run.bind first next).outcome = .ok b at ended
  cases given : first.outcome with
  | error fault =>
    rw [bind_error first next fault given] at ended
    cases ended
  | ok a =>
    rw [bind_ok first next a given] at ended
    exact ⟨a,rfl,ended⟩

theorem ok_of_ask {host : Host} {question : Ask α} {a : α} (ended : (ask host question).outcome = .ok a) :
    question host = .ok a := ended

@[simp] theorem ofMisuse_ok (a : α) : ofMisuse (.ok a) = pure a := rfl

@[simp] theorem pure_bind (a : α) (next : α → Run β) : (pure a >>= next : Run β) = next a := by
  show Run.bind (Run.pure a) next = next a
  simp [Run.bind,Run.pure]

end Run

def warningArea (area : String) : String := "[unified-ui][" ++ area ++ "]"

end Trifold
