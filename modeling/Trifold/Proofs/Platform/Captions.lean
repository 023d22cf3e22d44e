import Trifold.Platform.Builtin
import Trifold.Proofs.Desktop.Captions
import Trifold.Proofs.Terminal.Captions

namespace Trifold.Renderer
open Value Agree Element

variable {host : Host}

-- What becomes of a tree: of its captions, on a terminal and on a desktop.
inductive Alongside (host : Host) : Except Fault (Option (List Caption)) → Except Fault Value → Except Fault Value → Prop
  | hidden : Alongside host (.ok none) (.ok .null) (.ok .null)
  | failed (cause : Fault) : Alongside host (.error cause) (.error cause) (.error cause)
  | shown {captions : List Caption} {words : List String} {node widget : Value}
      (drawn : captions.mapM Caption.onTerminal host = .ok words)
      (terminal : Terminal.Node.texts node host = .ok (some (words.map text)))
      (desktop : Desktop.Widget.texts widget host = .ok (captions.map fun caption => text caption.words)) :
      Alongside host (.ok (some captions)) (.ok node) (.ok widget)

theorem converted_outcome {ρ : Type} (backend : Backend ρ) (show_ : ρ → Value) (value : Value) :
    (backend.converted host show_ value).outcome =
      (backend.convert host value).outcome.map fun made => (made.map show_).getD .null := by
  change (Run.bind (backend.convert host value) _).outcome = _
  cases ended : (backend.convert host value).outcome with
  | error fault => rw [Run.bind_error _ _ _ ended]; rfl
  | ok made => rw [Run.bind_ok _ _ _ ended]; rfl

theorem convert_alongside (host : Host) {value : Value} (tree : Tree value) :
    Alongside host (Caption.backend.convert host value).outcome ((builtin host .terminal).convert value).outcome
      ((builtin host .desktop).convert value).outcome := by
  have terminal := Backend.convert_beside (Terminal.backend_beside host) tree
  have desktop := Backend.convert_beside (Desktop.backend_beside host) tree
  change Alongside host _ (Backend.converted _ host id value).outcome (Backend.converted _ host id value).outcome
  rw [converted_outcome,converted_outcome]
  generalize (Caption.backend.convert host value).outcome = captions at terminal desktop ⊢
  generalize (Terminal.backend.convert host value).outcome = left at terminal ⊢
  generalize (Desktop.backend.convert host value).outcome = right at desktop ⊢
  cases terminal with
  | error cause =>
    cases desktop
    exact .failed cause
  | ok nodes =>
    cases desktop with
    | ok widgets =>
      cases nodes with
      | none =>
        cases widgets
        exact .hidden
      | some node =>
        cases widgets with
        | some widget =>
          obtain ⟨words,drawn,texts⟩ := node
          exact .shown drawn texts widget

def address : Value :=
  object [("type",text "textInput"), ("visible",.bool true), ("inputType",text "email"), ("value",text "a@b.c"),
    ("disabled",.bool false)]

def send : Value := object [("type",text "button"), ("visible",.bool true), ("label",text "Go"), ("disabled",.bool false)]

def aside : Value := object [("type",text "text"), ("visible",.bool false), ("content",text "unseen")]

def login : Value :=
  object [("type",text "vbox"), ("visible",.bool true), ("spacing",number 0), ("children",list [address, send, aside])]

theorem convert_alongside_login : Tree login ∧
    ∃ node widget, ((builtin .silent .terminal).convert login).outcome = .ok node ∧
      ((builtin .silent .desktop).convert login).outcome = .ok widget ∧
      Terminal.Node.texts node .silent = .ok (some [text "@ a@b.c", text "[ Go ]"]) ∧
      Desktop.Widget.texts widget .silent = .ok [text "a@b.c", text "Go"] := by
  have input : ofValue? address = some ⟨none,none,true,.textInput ⟨some "a@b.c",none,"email",none,none,false,none⟩⟩ := rfl
  have button : ofValue? send = some ⟨none,none,true,.button ⟨some "Go",none,false⟩⟩ := rfl
  have unseen : ofValue? aside = some ⟨none,none,false,.text (some "unseen")⟩ := rfl
  have box : ofValue? login = some ⟨none,none,true,.vbox ⟨[address, send, aside],0,none,none,none⟩⟩ := rfl
  have tree : Tree login := by
    refine .mk box ?_ ?_
    · rintro held (_ | ⟨_,_ | ⟨_,_ | ⟨_,⟨⟩⟩⟩⟩)
      · exact .leaf input rfl rfl
      · exact .leaf button rfl rfl
      · exact .leaf unseen rfl rfl
    · rintro _ ⟨⟩ _ ⟨⟩
  have captions : (Caption.backend.convert .silent login).outcome = .ok (some
      [⟨⟨none,none,true,.textInput ⟨some "a@b.c",none,"email",none,none,false,none⟩⟩,"a@b.c"⟩,
        ⟨⟨none,none,true,.button ⟨some "Go",none,false⟩⟩,"Go"⟩]) := by
    rw [Backend.convert_shown box rfl]
    simp only [Element.shown,Element.panel,Backend.convertAll_cons,Backend.convertAll.eq_1,Backend.convert_shown input rfl,
      Backend.convert_shown button rfl,Backend.convert_hidden unseen rfl,Run.ofMisuse_ok,Run.pure_bind]
    rfl
  have alongside := convert_alongside .silent tree
  rw [captions] at alongside
  generalize ((builtin .silent .terminal).convert login).outcome = left at alongside ⊢
  generalize ((builtin .silent .desktop).convert login).outcome = right at alongside ⊢
  cases alongside with
  | shown drawn terminal desktop =>
    cases drawn
    exact ⟨tree,_,_,rfl,rfl,terminal,desktop⟩

end Trifold.Renderer
