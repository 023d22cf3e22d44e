import Mathlib.Data.List.Forall2
import Trifold.Run

namespace Trifold

variable {α β : Type} {host : Host}

namespace Ask

theorem bind_ok {first : Ask α} {next : α → Ask β} {a : α} (answered : first host = .ok a) :
    (first >>= next) host = next a host := by
  change (first host).bind (fun a => next a host) = _
  rw [answered]
  rfl

theorem bind_error {first : Ask α} {next : α → Ask β} {fault : Fault} (failed : first host = .error fault) :
    (first >>= next) host = .error fault := by
  change (first host).bind (fun a => next a host) = _
  rw [failed]
  rfl

theorem mapM_ok {step : α → Ask β} {items : List α} {given : List β} :
    items.mapM step host = .ok given ↔ List.Forall₂ (fun item b => step item host = .ok b) items given := by
  induction items generalizing given with
  | nil =>
    rw [List.forall₂_nil_left_iff]
    exact ⟨fun ended => (Except.ok.inj ended).symm,fun none => none ▸ rfl⟩
  | cons item rest ih =>
    rw [List.mapM_cons]
    constructor
    · intro ended
      obtain ⟨b,first,ended⟩ := ok_of_bind ended
      obtain ⟨others,gone,ended⟩ := ok_of_bind ended
      cases ended
      exact .cons first (ih.mp gone)
    · intro each
      cases each with
      | cons first others =>
        rw [bind_ok first,bind_ok (ih.mpr others)]
        rfl

theorem told {question : Ask α} {a : α} (known : question = pure a) : question host = .ok a := by
  rw [known]
  rfl

theorem mapM_related {γ : Type} {R : α → γ → Prop} {step : α → Ask β} {made : γ → β} {items : List α} {others : List γ}
    (related : List.Forall₂ R items others) (each : ∀ a, ∀ c ∈ others, R a c → step a = pure (made c)) :
    items.mapM step = pure (others.map made) := by
  induction related with
  | nil => rfl
  | cons here _ ih =>
    rw [List.mapM_cons,each _ _ List.mem_cons_self here,ih fun a c there => each a c (List.mem_cons_of_mem _ there)]
    rfl

theorem filterM_ok {asked : α → Ask Bool} {kept : α → Bool} {items : List α}
    (answered : ∀ item ∈ items, asked item host = .ok (kept item)) :
    items.filterM asked host = .ok (items.filter kept) := by
  -- The items kept so far are held back to front.
  have onward (before : List α) : items.filterAuxM asked before host = .ok ((items.filter kept).reverse ++ before) := by
    induction items generalizing before with
    | nil => rfl
    | cons item rest ih =>
      obtain ⟨here,later⟩ := List.forall_mem_cons.mp answered
      rw [List.filterAuxM,bind_ok here,ih later]
      cases decided : kept item with
      | true => rw [List.filter_cons_of_pos decided,List.reverse_cons,List.append_assoc]; rfl
      | false => rw [List.filter_cons_of_neg (by simp [decided])]; rfl
  rw [List.filterM,bind_ok (onward []),List.append_nil]
  change Except.ok (items.filter kept).reverse.reverse = _
  rw [List.reverse_reverse]

-- The question has an answer, and that is as it should be.
def Answers (host : Host) (P : α → Prop) (question : Ask α) : Prop := ∃ a, question host = .ok a ∧ P a

namespace Answers

variable {P P' : α → Prop} {Q : β → Prop} {question : Ask α}

theorem pure {a : α} (here : P a) : Answers host P (Pure.pure a) := ⟨a,rfl,here⟩

theorem mono (answers : Answers host P question) (weaker : ∀ a, P a → P' a) : Answers host P' question := by
  obtain ⟨a,told,here⟩ := answers
  exact ⟨a,told,weaker a here⟩

theorem bind {next : α → Ask β} (answers : Answers host P question) (goesOn : ∀ a, P a → Answers host Q (next a)) :
    Answers host Q (question >>= next) := by
  obtain ⟨a,told,here⟩ := answers
  obtain ⟨b,gone,there⟩ := goesOn a here
  exact ⟨b,(bind_ok told).trans gone,there⟩

theorem after {next : α → Ask β} {a : α} (told : question host = .ok a) (goesOn : Answers host Q (next a)) :
    Answers host Q (question >>= next) := by
  obtain ⟨b,gone,there⟩ := goesOn
  exact ⟨b,(bind_ok told).trans gone,there⟩

theorem mapM {step : α → Ask β} {items : List α} (each : ∀ item ∈ items, Answers host Q (step item)) :
    Answers host (fun all => all.length = items.length ∧ ∀ b ∈ all, Q b) (items.mapM step) := by
  induction items with
  | nil => exact pure ⟨rfl,List.forall_mem_nil _⟩
  | cons item rest ih =>
    obtain ⟨here,later⟩ := List.forall_mem_cons.mp each
    rw [List.mapM_cons]
    refine here.bind ?_
    intro b first
    refine (ih later).bind ?_
    rintro all ⟨counted,others⟩
    exact pure ⟨by rw [List.length_cons,List.length_cons,counted],List.forall_mem_cons.mpr ⟨first,others⟩⟩

theorem mapM_each {R : α → β → Prop} {step : α → Ask β} {items : List α}
    (each : ∀ item ∈ items, Answers host (R item) (step item)) : Answers host (List.Forall₂ R items) (items.mapM step) := by
  induction items with
  | nil => exact pure .nil
  | cons item rest ih =>
    obtain ⟨here,later⟩ := List.forall_mem_cons.mp each
    rw [List.mapM_cons]
    refine here.bind fun b first => ?_
    exact (ih later).bind fun all others => pure (.cons first others)

theorem foldlM {step : β → α → Ask β} {items : List α} {start : β} (begun : Q start)
    (each : ∀ item ∈ items, ∀ b, Q b → Answers host Q (step b item)) : Answers host Q (items.foldlM step start) := by
  induction items generalizing start with
  | nil => exact pure begun
  | cons item rest ih =>
    obtain ⟨here,later⟩ := List.forall_mem_cons.mp each
    rw [List.foldlM_cons]
    exact (here start begun).bind fun b kept => ih kept later

theorem ofMisuse {outcome : Except Misuse α} {a : α} (ended : outcome = .ok a) (here : P a) :
    Answers host P (Ask.ofMisuse outcome) := by
  refine ⟨a,?_,here⟩
  rw [ended]
  rfl

end Answers

-- The same where the answer does not matter.
abbrev Ends (host : Host) (question : Ask α) : Prop := Answers host (fun _ => True) question

namespace Ends

variable {question : Ask α}

theorem pure (a : α) : Ends host (Pure.pure a : Ask α) := Answers.pure trivial

theorem bind {Q : β → Prop} {next : α → Ask β} (ends : Ends host question) (goesOn : ∀ a, Answers host Q (next a)) :
    Answers host Q (question >>= next) := Answers.bind ends fun a _ => goesOn a

theorem mapM {step : α → Ask β} {items : List α} (each : ∀ item ∈ items, Ends host (step item)) :
    Ends host (items.mapM step) := (Answers.mapM each).mono fun _ _ => trivial

theorem map {f : α → β} (ends : Ends host question) : Ends host (do return f (← question)) := bind ends fun _ => pure _

end Ends

end Ask

namespace Run

theorem ask_ok {question : Ask α} {a : α} (answered : question host = .ok a) : ask host question = pure a := by
  rw [ask,answered]
  rfl

-- A run that comes to an end.
def Ends (run : Run α) : Prop := ∃ a, run.outcome = .ok a

namespace Ends

variable {run : Run α}

theorem pure (a : α) : Ends (Pure.pure a : Run α) := ⟨a,rfl⟩

theorem ask {question : Ask α} (ends : Ask.Ends host question) : Ends (Run.ask host question) := by
  obtain ⟨a,told,_⟩ := ends
  exact ⟨a,told⟩

theorem bind {next : α → Run β} (ends : Ends run) (goesOn : ∀ a, run.outcome = .ok a → Ends (next a)) :
    Ends (run >>= next) := by
  obtain ⟨a,ended⟩ := ends
  obtain ⟨b,gone⟩ := goesOn a ended
  refine ⟨b,?_⟩
  change (Run.bind run next).outcome = _
  rw [bind_ok run next a ended]
  exact gone

theorem map {f : α → β} (ends : Ends run) : Ends (do return f (← run)) := ends.bind fun a _ => pure (f a)

end Ends

theorem ended_bind (warnings : List String) (a : α) (next : α → Run β) :
    (⟨warnings,.ok a⟩ >>= next : Run β) = ⟨warnings ++ (next a).warnings,(next a).outcome⟩ := rfl

end Run

end Trifold
