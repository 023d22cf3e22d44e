import Trifold.Fault
import Trifold.Value.Basic

namespace Trifold

inductive Reply where
  | returned (value : Value)
  | threw (fault : Fault)
  | promised (later : Option Fault)

-- Whether a pattern has a match in a text is for the host to say, too. It is looked for from the start of the text, so
-- the answer depends on nothing but what is written. `depth` is how many answers may stand within one another.
structure Host where
  call : Function → List Value → Reply
  finds (source flags s : String) : Bool
  depth : Nat

def Host.silent : Host := ⟨fun _ _ => .returned .absent,fun _ _ _ => false,0⟩

abbrev Ask (α : Type) := ReaderT Host (Except Fault) α

namespace Ask

variable {α : Type}

def misuse (cause : Misuse) : Ask α := throw (.misuse cause)

def ofMisuse (outcome : Except Misuse α) : Ask α := fun _ => outcome.mapError .misuse

-- The answer as a value, for callers that do not wait.
def call (f : Function) (arguments : List Value) : Ask Value := fun host =>
  match host.call f arguments with
  | .returned value => .ok value
  | .threw fault => .error fault
  | .promised _ => .ok .foreign

def finds (source flags s : String) : Ask Bool := fun host => .ok (host.finds source flags s)

def depth : Ask Nat := fun host => .ok host.depth

theorem ok_of_bind {β : Type} {first : Ask α} {next : α → Ask β} {host : Host} {b : β}
    (ended : (first >>= next) host = .ok b) : ∃ a, first host = .ok a ∧ next a host = .ok b := by
  cases given : first host with
  | error fault => simp [bind,ReaderT.bind,Except.bind,given] at ended
  | ok a =>
    simp only [bind,ReaderT.bind,Except.bind,given] at ended
    exact ⟨a,rfl,ended⟩

theorem forall_of_mapM {β : Type} {P : β → Prop} {step : α → Ask β} {host : Host} {items : List α} {given : List β}
    (each : ∀ item ∈ items, ∀ b, step item host = .ok b → P b) (ended : items.mapM step host = .ok given) :
    ∀ b ∈ given, P b := by
  induction items generalizing given with
  | nil =>
    cases ended
    intro b there
    cases there
  | cons item rest ih =>
    rw [List.mapM_cons] at ended
    obtain ⟨first,begun,ended⟩ := ok_of_bind ended
    obtain ⟨others,gone,ended⟩ := ok_of_bind ended
    cases ended
    intro b there
    rcases List.mem_cons.mp there with rfl | later
    · exact each item List.mem_cons_self b begun
    · exact ih (fun other inRest => each other (List.mem_cons_of_mem item inRest)) gone b later

end Ask

namespace Value

-- Nothing has no members, not even absent ones.
def fetch (key : String) : Value → Ask Value
  | null => .misuse (.readOfNull key)
  | absent => .misuse (.readOfAbsent key)
  | value => return value.get key

end Value

end Trifold
