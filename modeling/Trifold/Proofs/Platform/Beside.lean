import Trifold.Proofs.Agree
import Trifold.Proofs.Element.Whole
import Trifold.Proofs.Platform.Walk

namespace Trifold.Backend
open Agree Element
open List (Forall₂)

variable {ρ σ : Type} {first : Backend ρ} {second : Backend σ} {host : Host} {R : ρ → σ → Prop}

structure Beside (first : Backend ρ) (second : Backend σ) (host : Host) (R : ρ → σ → Prop) : Prop where
  ready : ∀ {value element}, ofValue? value = some element →
    Outcome (fun _ _ => True) (first.ready value host) (second.ready value host)
  assembled : ∀ {value element inside inside' panel panel'}, ofValue? value = some element →
    Forall₂ R inside inside' → Forall₂ R panel panel' →
    Outcome R (first.assemble value element inside panel host) (second.assemble value element inside' panel' host)

theorem convertAll_beside {values : List Value} (each : ∀ value ∈ values,
      Outcome (Option.Rel R) (first.convert host value).outcome (second.convert host value).outcome) :
    Outcome (Forall₂ R) (first.convertAll host values).outcome (second.convertAll host values).outcome := by
  induction values with
  | nil =>
    rw [convertAll.eq_1,convertAll.eq_1]
    exact .ok .nil
  | cons value rest ih =>
    obtain ⟨here,later⟩ := List.forall_mem_cons.mp each
    rw [convertAll_cons,convertAll_cons]
    refine Outcome.run_bind here ?_
    intro made made' one
    refine Outcome.run_bind (ih later) ?_
    intro others others' more
    exact .ok (List.rel_append (Agree.toList one) more)

theorem convert_beside (beside : Beside first second host R) {value : Value} (tree : Tree value) :
    Outcome (Option.Rel R) (first.convert host value).outcome (second.convert host value).outcome := by
  induction tree with
  | @mk value element sound shown panel ihShown ihPanel =>
    cases visible : element.visible with
    | false =>
      rw [convert_hidden sound visible,convert_hidden sound visible]
      exact .ok .none
    | true =>
      rw [convert_shown sound visible,convert_shown sound visible]
      refine Outcome.run_bind (x := Run.ask host _) (beside.ready sound) fun _ _ _ => ?_
      refine Outcome.run_bind (convertAll_beside ihShown) ?_
      intro inside inside' insides
      cases opened : element.panel with
      | error cause => exact .error _
      | ok held =>
        simp only [Run.ofMisuse_ok,Run.pure_bind]
        refine Outcome.run_bind (convertAll_beside (ihPanel held opened)) ?_
        intro panel panel' panels
        refine Outcome.run_bind (x := Run.ask host _) (beside.assembled sound insides panels) ?_
        intro made made' here
        exact .ok (.some here)

end Trifold.Backend
