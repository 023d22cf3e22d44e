import Trifold.Platform.Builtin
import Trifold.Proofs.Element.Whole
import Trifold.Proofs.Platform.Walk

namespace Trifold

variable {α β ρ : Type}

theorem Run.quiet_bind {first : Run α} {next : α → Run β} (quiet : first.warnings = [])
    (later : ∀ a, first.outcome = .ok a → (next a).warnings = []) : (first >>= next).warnings = [] := by
  change (Run.bind first next).warnings = []
  cases ended : first.outcome with
  | error fault =>
    rw [Run.bind_error first next fault ended]
    exact quiet
  | ok a =>
    rw [Run.bind_ok first next a ended]
    exact List.append_eq_nil_iff.mpr ⟨quiet,later a ended⟩

namespace Backend
open Element

variable {backend : Backend ρ} {host : Host}

theorem convertAll_quiet {values : List Value} (each : ∀ value ∈ values, (backend.convert host value).warnings = []) :
    (backend.convertAll host values).warnings = [] := by
  induction values with
  | nil => rw [convertAll.eq_1]; rfl
  | cons value rest ih =>
    obtain ⟨here,later⟩ := List.forall_mem_cons.mp each
    rw [convertAll_cons]
    refine Run.quiet_bind here ?_
    intro made _
    exact Run.quiet_bind (ih later) fun all _ => rfl

theorem convert_quiet {value : Value} (tree : Tree value) : (backend.convert host value).warnings = [] := by
  induction tree with
  | @mk value element sound shown panel ihShown ihPanel =>
    cases visible : element.visible with
    | false =>
      rw [convert_hidden sound visible]
      rfl
    | true =>
      rw [convert_shown sound visible]
      refine Run.quiet_bind rfl fun _ _ => ?_
      refine Run.quiet_bind (convertAll_quiet ihShown) fun _ _ => ?_
      refine Run.quiet_bind rfl ?_
      intro held open_
      have opened : element.panel = .ok held := by
        cases told : element.panel with
        | error cause => rw [told] at open_; cases open_
        | ok found => rw [told] at open_; exact congrArg Except.ok (Except.ok.inj open_)
      exact Run.quiet_bind (convertAll_quiet (ihPanel held opened)) fun _ _ => Run.quiet_bind rfl fun _ _ => rfl

end Backend

theorem Renderer.convert_quiet (host : Host) (platform : Platform) {value : Value} (whole : Element.Whole value) :
    ((Renderer.builtin host platform).convert value).warnings = [] := by
  cases platform with
  | terminal => exact Run.quiet_bind (Backend.convert_quiet whole.tree) fun _ _ => rfl
  | desktop => exact Run.quiet_bind (Backend.convert_quiet whole.tree) fun _ _ => rfl
  | web => exact Run.quiet_bind (Backend.convert_quiet whole.tree) fun _ _ => rfl

end Trifold
