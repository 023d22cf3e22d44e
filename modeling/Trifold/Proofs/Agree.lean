import Mathlib.Data.List.Forall2
import Trifold.Proofs.Ask

namespace Trifold.Agree
open List (Forall₂)

variable {α β γ δ : Type} {R : α → β → Prop} {S : γ → δ → Prop}

theorem getD {x : Option α} {y : Option β} {a : α} {b : β} (related : Option.Rel R x y) (other : R a b) :
    R (x.getD a) (y.getD b) := by
  cases related with
  | none => exact other
  | some here => exact here

theorem elim {x : Option α} {y : Option β} {f : α → γ} {g : β → δ} {c : γ} {d : δ} (related : Option.Rel R x y)
    (other : S c d) (next : ∀ a b, R a b → S (f a) (g b)) : S (x.elim c f) (y.elim d g) := by
  cases related with
  | none => exact other
  | some here => exact next _ _ here

theorem isSome_eq {x : Option α} {y : Option β} (related : Option.Rel R x y) : x.isSome = y.isSome := by
  cases related <;> rfl

theorem bind {x : Option α} {y : Option β} {f : α → Option γ} {g : β → Option δ} (related : Option.Rel R x y)
    (next : ∀ a b, R a b → Option.Rel S (f a) (g b)) : Option.Rel S (x >>= f) (y >>= g) := by
  cases related with
  | none => exact .none
  | some here => exact next _ _ here

theorem bind_same {x : Option α} {f : α → Option γ} {g : α → Option δ} (next : ∀ a, Option.Rel S (f a) (g a)) :
    Option.Rel S (x >>= f) (x >>= g) := by
  cases x with
  | none => exact .none
  | some a => exact next a

theorem bind_eq {x : Option α} {y : Option β} {f : α → Option γ} {g : β → Option γ} (related : Option.Rel R x y)
    (next : ∀ a b, R a b → f a = g b) : x.bind f = y.bind g := by
  cases related with
  | none => rfl
  | some here => exact next _ _ here

theorem map {x : Option α} {y : Option β} {f : α → γ} {g : β → δ} (related : Option.Rel R x y)
    (next : ∀ a b, R a b → S (f a) (g b)) : Option.Rel S (x.map f) (y.map g) := by
  cases related with
  | none => exact .none
  | some here => exact .some (next _ _ here)

theorem toList {x : Option α} {y : Option β} (related : Option.Rel R x y) : Forall₂ R x.toList y.toList := by
  cases related with
  | none => exact .nil
  | some here => exact .cons here .nil

theorem getElem? {xs : List α} {ys : List β} (items : Forall₂ R xs ys) (i : Nat) : Option.Rel R xs[i]? ys[i]? := by
  induction items generalizing i with
  | nil => exact .none
  | cons here rest ih =>
    cases i with
    | zero => exact .some here
    | succ i => exact ih i

theorem find? {xs : List α} {ys : List β} {p : α → Bool} {q : β → Bool} (items : Forall₂ R xs ys)
    (asked : ∀ a b, R a b → p a = q b) : Option.Rel R (xs.find? p) (ys.find? q) := by
  induction items with
  | nil => exact .none
  | cons here rest ih =>
    rw [List.find?_cons,List.find?_cons,asked _ _ here]
    split
    · exact .some here
    · exact ih

theorem partner {xs : List α} {ys : List β} (items : Forall₂ R xs ys) : ∀ a ∈ xs, ∃ b ∈ ys, R a b := by
  induction items with
  | nil => exact List.forall_mem_nil _
  | cons here rest ih =>
    refine List.forall_mem_cons.mpr ⟨⟨_,List.mem_cons_self,here⟩,fun a there => ?_⟩
    obtain ⟨b,listed,related⟩ := ih a there
    exact ⟨b,List.mem_cons_of_mem _ listed,related⟩

theorem forall_left {P : α → Prop} {xs : List α} {ys : List β} (items : Forall₂ R xs ys) (each : ∀ a b, R a b → P a) :
    ∀ a ∈ xs, P a := by
  intro a there
  obtain ⟨b,_,related⟩ := partner items a there
  exact each a b related

theorem getLast? {xs : List α} {ys : List β} (items : Forall₂ R xs ys) : Option.Rel R xs.getLast? ys.getLast? := by
  rw [List.getLast?_eq_getElem?,List.getLast?_eq_getElem?,items.length_eq]
  exact getElem? items _

theorem isEmpty_eq {xs : List α} {ys : List β} (items : Forall₂ R xs ys) : xs.isEmpty = ys.isEmpty := by
  cases items <;> rfl

theorem mapM {xs : List α} {ys : List β} {f : α → Option γ} {g : β → Option δ} (items : Forall₂ R xs ys)
    (next : ∀ a b, R a b → Option.Rel S (f a) (g b)) : Option.Rel (Forall₂ S) (xs.mapM f) (ys.mapM g) := by
  induction items with
  | nil => exact .some .nil
  | cons here rest ih =>
    rw [List.mapM_cons,List.mapM_cons]
    refine bind (next _ _ here) ?_
    intro c d first
    refine bind ih ?_
    intro cs ds others
    exact .some (.cons first others)

theorem map_eq {xs : List α} {ys : List β} {f : α → γ} {g : β → γ} (items : Forall₂ R xs ys)
    (each : ∀ a b, R a b → f a = g b) : xs.map f = ys.map g := by
  induction items with
  | nil => rfl
  | cons here rest ih => rw [List.map_cons,List.map_cons,each _ _ here,ih]

theorem mapM_eq {m : Type → Type} [Monad m] [LawfulMonad m] {xs : List α} {ys : List β} {f : α → m γ} {g : β → m γ}
    (items : Forall₂ R xs ys) (each : ∀ a b, R a b → f a = g b) : xs.mapM f = ys.mapM g := by
  induction items with
  | nil => rfl
  | cons here rest ih => rw [List.mapM_cons,List.mapM_cons,each _ _ here,ih]

theorem zipIdx {xs : List α} {ys : List β} (items : Forall₂ R xs ys) (first : Nat) :
    Forall₂ (fun x y => R x.1 y.1 ∧ x.2 = y.2) (xs.zipIdx first) (ys.zipIdx first) := by
  induction items generalizing first with
  | nil => exact .nil
  | cons here rest ih => exact .cons ⟨here,rfl⟩ (ih (first + 1))

theorem zip {xs : List α} {ys : List β} {us : List γ} {vs : List δ} (items : Forall₂ R xs ys) (others : Forall₂ S us vs) :
    Forall₂ (fun x y => R x.1 y.1 ∧ S x.2 y.2) (xs.zip us) (ys.zip vs) := by
  induction items generalizing us vs with
  | nil => exact .nil
  | cons here rest ih => cases others with
    | nil => exact .nil
    | cons other more => exact .cons ⟨here,other⟩ (ih more)

-- What can be said of two computations, given what is said of their outcomes: it holds of outcomes that are there, and
-- going on keeps it.
structure Lifting (m n : Type → Type) [Monad m] [Monad n] where
  rel : {α β : Type} → (α → β → Prop) → m α → n β → Prop
  pure : {α β : Type} → {R : α → β → Prop} → {a : α} → {b : β} → R a b → rel R (Pure.pure a) (Pure.pure b)
  bind : {α β γ δ : Type} → {R : α → β → Prop} → {S : γ → δ → Prop} → {x : m α} → {y : n β} → {f : α → m γ} →
    {g : β → n δ} → rel R x y → (∀ a b, R a b → rel S (f a) (g b)) → rel S (x >>= f) (y >>= g)

theorem Lifting.foldlM {m n : Type → Type} [Monad m] [Monad n] (L : Lifting m n) {xs : List α} {ys : List β}
    {f : γ → α → m γ} {g : δ → β → n δ} {c : γ} {d : δ} (items : Forall₂ R xs ys) (start : S c d)
    (next : ∀ c d a b, S c d → R a b → L.rel S (f c a) (g d b)) : L.rel S (xs.foldlM f c) (ys.foldlM g d) := by
  induction items generalizing c d with
  | nil => exact L.pure start
  | cons here rest ih =>
    rw [List.foldlM_cons,List.foldlM_cons]
    exact L.bind (next _ _ _ _ start here) fun _ _ => ih

-- Questions that are all answered, beside the answers.
def answers (host : Host) : Lifting Ask Id where
  rel R question answer := Ask.Answers host (R · answer) question
  pure here := .pure here
  bind related next := Ask.Answers.bind related fun a here => next a _ here

-- Questions that may fail, beside what they answer where they are answered.
def told (host : Host) : Lifting Ask Id where
  rel R question answer := ∀ a, question host = .ok a → R a answer
  pure := by
    intro _ _ _ _ _ here _ same
    cases same
    exact here
  bind := by
    intro _ _ _ _ _ _ _ _ _ _ related next _ ended
    obtain ⟨a,first,second⟩ := Ask.ok_of_bind ended
    exact next a _ (related a first) _ second

-- The same failure, or related outcomes.
inductive Outcome {ε : Type} (R : α → β → Prop) : Except ε α → Except ε β → Prop
  | ok {a : α} {b : β} (here : R a b) : Outcome R (.ok a) (.ok b)
  | error (cause : ε) : Outcome R (.error cause) (.error cause)

namespace Outcome

theorem of_eq {ε : Type} {x y : Except ε α} (equal : x = y) : Outcome (· = ·) x y := by
  subst equal
  cases x with
  | ok => exact .ok rfl
  | error => exact .error _

theorem eq {ε : Type} {x y : Except ε α} (agree : Outcome (· = ·) x y) : x = y := by
  cases agree with
  | ok here => rw [here]
  | error => rfl

theorem mono {ε : Type} {T : α → β → Prop} {x : Except ε α} {y : Except ε β} (agree : Outcome R x y)
    (weaker : ∀ a b, R a b → T a b) : Outcome T x y := by
  cases agree with
  | ok here => exact .ok (weaker _ _ here)
  | error => exact .error _

theorem ok_of_right {ε : Type} {x : Except ε α} {y : Except ε β} {b : β} (agree : Outcome R x y) (ended : y = .ok b) :
    ∃ a, x = .ok a ∧ R a b := by
  cases agree with
  | ok here =>
    cases ended
    exact ⟨_,rfl,here⟩
  | error => cases ended

variable {host : Host}

theorem bind {x : Ask α} {y : Ask β} {f : α → Ask γ} {g : β → Ask δ} (agree : Outcome R (x host) (y host))
    (next : ∀ a b, R a b → Outcome S (f a host) (g b host)) : Outcome S ((x >>= f) host) ((y >>= g) host) := by
  change Outcome S ((x host).bind fun a => f a host) ((y host).bind fun b => g b host)
  cases first : x host <;> cases second : y host <;> rw [first,second] at agree <;> cases agree
  · exact .error _
  · exact next _ _ (by assumption)

theorem bind_same {x : Ask α} {f : α → Ask γ} {g : α → Ask δ}
    (next : ∀ a, x host = .ok a → Outcome S (f a host) (g a host)) : Outcome S ((x >>= f) host) ((x >>= g) host) := by
  change Outcome S ((x host).bind fun a => f a host) ((x host).bind fun a => g a host)
  cases answer : x host with
  | error cause => exact .error cause
  | ok a => exact next a answer

theorem mapM {xs : List α} {ys : List β} {f : α → Ask γ} {g : β → Ask δ} (items : Forall₂ R xs ys)
    (next : ∀ a b, R a b → Outcome S (f a host) (g b host)) :
    Outcome (Forall₂ S) ((xs.mapM f) host) ((ys.mapM g) host) := by
  induction items with
  | nil => exact .ok .nil
  | cons here rest ih =>
    rw [List.mapM_cons,List.mapM_cons]
    refine bind (next _ _ here) ?_
    intro c d first
    refine bind ih ?_
    intro cs ds others
    exact .ok (.cons first others)

theorem mapM_same {xs : List α} {ys : List β} {f : α → Ask γ} {g : β → Ask γ} (items : Forall₂ R xs ys)
    (next : ∀ a b, R a b → Outcome (· = ·) (f a host) (g b host)) :
    Outcome (· = ·) ((xs.mapM f) host) ((ys.mapM g) host) := by
  refine (mapM items next).mono ?_
  intro cs ds all
  rw [List.forall₂_eq_eq_eq] at all
  exact all

theorem run_bind {x : Run α} {y : Run β} {f : α → Run γ} {g : β → Run δ} (agree : Outcome R x.outcome y.outcome)
    (next : ∀ a b, R a b → Outcome S (f a).outcome (g b).outcome) : Outcome S (x >>= f).outcome (y >>= g).outcome := by
  change Outcome S (Run.bind x f).outcome (Run.bind y g).outcome
  unfold Run.bind
  generalize x.outcome = left at agree
  generalize y.outcome = right at agree
  cases agree with
  | error cause => exact .error cause
  | ok here => exact next _ _ here

theorem run_next {x : Run α} {next : α → Run β} (goesOn : ∀ a, x.outcome = .ok a → Outcome R (.ok a) (next a).outcome) :
    Outcome R x.outcome (x >>= next).outcome := by
  change Outcome R x.outcome (Run.bind x next).outcome
  unfold Run.bind
  cases ended : x.outcome with
  | error cause => exact .error cause
  | ok a => exact goesOn a ended

def lifting (host : Host) : Lifting Ask Ask where
  rel R x y := Outcome R (x host) (y host)
  pure := .ok
  bind := bind

theorem foldlM {xs : List α} {ys : List β} {f : γ → α → Ask γ} {g : δ → β → Ask δ} {c : γ} {d : δ}
    (items : Forall₂ R xs ys) (start : S c d)
    (next : ∀ c d a b, S c d → R a b → Outcome S (f c a host) (g d b host)) :
    Outcome S ((xs.foldlM f c) host) ((ys.foldlM g d) host) := (lifting host).foldlM items start next

end Outcome

end Trifold.Agree
