import Trifold.Platform.Builtin
import Trifold.Proofs.Desktop.Alike
import Trifold.Proofs.Platform.Gate
import Trifold.Proofs.Terminal.Alike
import Trifold.Proofs.Web.Alike

namespace Trifold.Renderer
open Value Agree

variable {host : Host}

-- Equal roots. What is shown is never absent; null stands for what is hidden.
structure SameRoot (root other : Value) : Prop where
  equal : same root other = true
  there : root.isAbsent = false

theorem SameRoot.ofBuilt {root other : Value} (built : Built root other) : SameRoot root other := by
  refine ⟨built.same,?_⟩
  cases built
  rfl

theorem converted_agree {ρ : Type} {backend : Backend ρ} {R : ρ → ρ → Prop} {show_ : ρ → Value}
    (keeps : backend.Keeps host R) (shown : ∀ made made', R made made' → SameRoot (show_ made) (show_ made'))
    {a b : Value} (alike : Alike (Table.Level host) a b) :
    Outcome SameRoot (backend.converted host show_ a).outcome (backend.converted host show_ b).outcome := by
  refine Outcome.run_bind (Backend.convert_agree keeps a b alike) ?_
  intro made made' related
  exact .ok (Agree.getD (Agree.map related shown) ⟨rfl,rfl⟩)

theorem convert_agree (platform : Platform) {a b : Value} (alike : Alike (Table.Level host) a b) :
    Outcome SameRoot ((builtin host platform).convert a).outcome ((builtin host platform).convert b).outcome := by
  cases platform with
  | terminal => exact converted_agree (Terminal.backend_keeps host) (fun _ _ => SameRoot.ofBuilt) alike
  | desktop => exact converted_agree (Desktop.backend_keeps host) (fun _ _ => SameRoot.ofBuilt) alike
  | web =>
    refine converted_agree (Web.backend_keeps host) ?_ alike
    rintro made _ rfl
    exact ⟨same_refl trivial,rfl⟩

theorem builtin_eq (host : Host) (platform : Platform) :
    ∃ release, builtin host platform = make platform (builtin host platform).convert release := by
  cases platform with
  | terminal => exact ⟨none,rfl⟩
  | desktop => exact ⟨some fun state => state.putRoot .null,rfl⟩
  | web => exact ⟨none,rfl⟩

section
variable {platform : Platform} {convert : Value → Run Value} {release : Option (State → State)}

def Shows (convert : Value → Run Value) (value : Value) (state : State) : Prop :=
  ∃ root, (convert value).outcome = .ok root ∧ SameRoot root state.root

-- What every update passes on: the state shows the value it was last made from, and the value of the last call that
-- went through. The two differ after a skipped update.
structure Current (convert : Value → Run Value) (now : State) (accepted : List Call) : Prop where
  last : ∀ call ∈ accepted.getLast?, Shows convert call.value now
  made : Shows convert (lastShown now) now

theorem rendered_shows {value options : Value} {root : Value} (came : (convert value).outcome = .ok root) :
    ((make platform convert release).render value options).outcome =
      .ok (.ok (State.make platform root (own options) [(lastKey,value)])) := by
  change (Run.bind (tryConvert platform (convert value)) _).outcome = _
  rw [Run.bind_ok _ _ _ (tryConvert_outcome platform _),came]
  rfl

theorem make_root {root : Value} {config metadata : Fields Value} (there : root.isAbsent = false) :
    (State.make platform root config metadata).root = root := by
  rw [State.make,Value.orElse]
  cases root <;> first | rfl | cases there

variable (agree : ∀ a b, Alike (Table.Level host) a b → Outcome SameRoot (convert a).outcome (convert b).outcome)
include agree

theorem same_root_itself {value root : Value} (distinct : value.Distinct) (came : (convert value).outcome = .ok root) :
    SameRoot root root := by
  have itself := agree value value (.itself distinct (Table.level_refl host))
  rw [came] at itself
  cases itself
  assumption

theorem current_first {first : Call} {start : State} (distinct : first.value.Distinct)
    (began : ((make platform convert release).render first.value first.options).outcome = .ok (.ok start)) :
    Current convert start [first] := by
  obtain ⟨root,came,rfl⟩ : ∃ root, (convert first.value).outcome = .ok root ∧
      start = State.make platform root (own first.options) [(lastKey,first.value)] := by
    change (Run.bind (tryConvert platform (convert first.value)) _).outcome = _ at began
    rw [Run.bind_ok _ _ _ (tryConvert_outcome platform _)] at began
    cases came : (convert first.value).outcome with
    | error fault =>
      rw [came] at began
      cases began
    | ok root =>
      rw [came] at began
      cases began
      exact ⟨root,rfl,rfl⟩
  have itself := same_root_itself agree distinct came
  have shows : Shows convert first.value (State.make platform root (own first.options) [(lastKey,first.value)]) := by
    refine ⟨root,came,?_⟩
    rw [make_root itself.there]
    exact itself
  refine ⟨?_,shows⟩
  intro call here
  cases here
  exact shows

theorem current_skipped {now : State} {accepted : List Call} {call : Call} (current : Current convert now accepted)
    (alike : Alike (Table.Level host) call.value (lastShown now)) : Current convert now (accepted ++ [call]) := by
  refine ⟨?_,current.made⟩
  rw [List.getLast?_append]
  intro last here
  cases here
  obtain ⟨root,came,shown⟩ := current.made
  have both := agree _ _ alike
  rw [came] at both
  generalize found : (convert call.value).outcome = outcome at both
  cases both with
  | ok met => exact ⟨_,found,same_trans met.equal shown.equal,met.there⟩

theorem current_replaced {now : State} {accepted : List Call} {call : Call} {root : Value}
    (distinct : call.value.Distinct) (came : (convert call.value).outcome = .ok root) :
    Current convert ((Moment.mk now call).replaced root) (accepted ++ [call]) := by
  have itself := same_root_itself agree distinct came
  have shows : Shows convert call.value ((Moment.mk now call).replaced root) := by
    refine ⟨root,came,?_,itself.there⟩
    change same root (if !same root now.root then root else now.root) = true
    split
    · exact itself.equal
    · rename_i kept
      simpa using kept
  refine ⟨?_,?_⟩
  · rw [List.getLast?_append]
    intro last here
    cases here
    exact shows
  · rw [lastShown_replaced]
    exact shows

theorem current_advance {first call : Call} {history : History}
    (current : Current convert history.now (history.accepted (make platform convert release) first))
    (distinct : call.value.Distinct)
    (alike : (Moment.mk history.now call).Unchanged → Alike (Table.Level host) call.value (lastShown history.now)) :
    Current convert (history.advance (make platform convert release) call).now
      ((history.advance (make platform convert release) call).accepted (make platform convert release) first) := by
  have cases := step_cases platform (fun value _ => convert value) release ⟨history.now,call⟩
  change _ ∨ (_ ∧ ∃ root, (convert call.value).outcome = .ok root ∧ _) ∨ _ at cases
  rw [accepted_advance,History.advance,Moment.after]
  rcases cases with ⟨unchanged,went⟩ | ⟨_,root,came,went⟩ | ⟨_,went⟩
  · rw [make,went]
    exact current_skipped agree current (alike unchanged)
  · rw [make,went]
    exact current_replaced agree distinct came
  · rw [make,went]
    exact current

theorem current_of {first : Call} {start : State} (calls : List Call) (distinct : first.value.Distinct)
    (each : ∀ call ∈ calls, call.value.Distinct)
    (began : ((make platform convert release).render first.value first.options).outcome = .ok (.ok start))
    (alike : ∀ moment ∈ (History.of (make platform convert release) start calls).past, moment.Unchanged →
      Alike (Table.Level host) moment.call.value (lastShown moment.before)) :
    Current convert (History.of (make platform convert release) start calls).now
      ((History.of (make platform convert release) start calls).accepted (make platform convert release) first) := by
  induction calls using List.reverseRecOn with
  | nil => exact current_first agree distinct began
  | append_singleton calls call ih =>
    obtain ⟨before,here⟩ := List.forall_mem_append.mp each
    rw [History.of,List.foldl_append] at alike ⊢
    obtain ⟨earlier,now⟩ := List.forall_mem_append.mp alike
    exact current_advance agree (ih before earlier) (here call List.mem_cons_self) (now _ List.mem_cons_self)

end

-- Values that read alike are shown as equal roots or fail alike, and after any run a fresh render of the value of the
-- last call that went through, with any options, gives the root the run has come to.
theorem update_fresh (platform : Platform) {first : Call} {start : State} (calls : List Call)
    (distinct : first.value.Distinct) (each : ∀ call ∈ calls, call.value.Distinct)
    (began : ((builtin host platform).render first.value first.options).outcome = .ok (.ok start))
    (alike : ∀ moment ∈ (History.of (builtin host platform) start calls).past, moment.Unchanged →
      Alike (Table.Level host) moment.call.value (lastShown moment.before)) :
    (∀ a b, Alike (Table.Level host) a b →
      Outcome SameRoot ((builtin host platform).convert a).outcome ((builtin host platform).convert b).outcome) ∧
    ∀ last ∈ ((History.of (builtin host platform) start calls).accepted (builtin host platform) first).getLast?,
      ∀ options, ∃ fresh, ((builtin host platform).render last.value options).outcome = .ok (.ok fresh) ∧
        same fresh.root (History.of (builtin host platform) start calls).now.root = true := by
  have agree (a b : Value) := @convert_agree host platform a b
  refine ⟨agree,?_⟩
  intro last here options
  obtain ⟨release,made⟩ := builtin_eq host platform
  generalize (builtin host platform).convert = convert at made agree
  rw [made] at began alike here ⊢
  obtain ⟨root,came,shown⟩ := (current_of agree calls distinct each began alike).last last here
  refine ⟨_,rendered_shows came,?_⟩
  rw [make_root shown.there]
  exact shown.equal

def note (content : String) (further : Fields Value) : Value :=
  object ([("type",.text "text"), ("visible",.bool true), ("content",.text content)] ++ further)

def noteNode (content : String) : Value := Terminal.Node.content (.text content)

theorem note_alike (content : String) :
    Alike (Table.Level host) (note content [("style",.absent)]) (note content []) := by
  have equal : same (note content [("style",.absent)]) (note content []) = true := by
    simp [note,object,same,covered,defined,Value.isAbsent,Fields.get?]
  refine .record rfl rfl rfl equal ?_ ?_
  · intro key
    by_cases styled : key = "style"
    · subst styled
      exact .flat rfl
    · have unlisted : (note content [("style",.absent)]).get key = (note content []).get key := by
        simp [note,object,Value.get,Fields.get?,Ne.symm styled]
      rw [unlisted]
      have distinct : (note content []).Distinct := distinct_object.mpr ⟨by simp [Fields.keys],by simp [Value.Distinct]⟩
      exact (Alike.itself distinct (Table.level_refl host)).get key
  · intro element element' left right sound _ drawn
    cases sound
    cases drawn

theorem note_shown (content : String) :
    ((builtin .silent .terminal).convert (note content [])).outcome = .ok (noteNode content) := by
  have sound : Element.ofValue? (note content []) = some ⟨none,none,true,.text (some content)⟩ := rfl
  change (Run.bind (Terminal.backend.convert .silent (note content [])) _).outcome = _
  rw [Backend.convert_shown sound rfl]
  simp only [Element.shown,Element.panel,Backend.convertAll.eq_1,Run.ofMisuse_ok,Run.pure_bind]
  rfl

def noteState : State := State.make .terminal (noteNode "a") [] [(lastKey,note "a" [])]

def noteAgain : Call := ⟨note "a" [("style",.absent)],object []⟩

theorem update_fresh_note :
    (Moment.mk noteState noteAgain).skipped (builtin .silent .terminal) = true ∧
    (∀ a b, Alike (Table.Level .silent) a b → Outcome SameRoot ((builtin .silent .terminal).convert a).outcome
      ((builtin .silent .terminal).convert b).outcome) ∧
    ∀ last ∈ ((History.of (builtin .silent .terminal) noteState [noteAgain]).accepted (builtin .silent .terminal)
        ⟨note "a" [],object []⟩).getLast?, ∀ options, ∃ fresh,
      ((builtin .silent .terminal).render last.value options).outcome = .ok (.ok fresh) ∧
        same fresh.root (History.of (builtin .silent .terminal) noteState [noteAgain]).now.root = true := by
  have began : ((builtin .silent .terminal).render (note "a" []) (object [])).outcome = .ok (.ok noteState) :=
    @rendered_shows .terminal _ none _ _ _ (note_shown "a")
  have distinct (further : Fields Value) (flat : further = [] ∨ further = [("style",.absent)]) :
      (note "a" further).Distinct := by
    rcases flat with rfl | rfl <;> exact distinct_object.mpr ⟨by simp [Fields.keys],by simp [Value.Distinct]⟩
  have kept : (Moment.mk noteState noteAgain).Unchanged :=
    unchanged_iff.mpr ⟨rfl,(@note_alike .silent "a").same⟩
  have skips := @skipped_iff .terminal (fun value _ => Terminal.backend.converted .silent id value) none ⟨noteState,noteAgain⟩
  refine ⟨skips.mpr kept,@update_fresh .silent .terminal _ _ [noteAgain] (distinct [] (.inl rfl)) ?_ began ?_⟩
  · intro call there
    cases List.mem_singleton.mp there
    exact distinct _ (.inr rfl)
  · intro moment there _
    cases List.mem_singleton.mp there
    exact note_alike "a"

def columnX : Value :=
  object [("type",.text "column"), ("visible",.bool true), ("key",.text "x"), ("header",.text "X"),
    ("sortable",.bool false), ("align",.text "left")]

def cellTable (cell : Fields Value) : Value :=
  object [("type",.text "table"), ("visible",.bool true), ("data",.list [object [("x",object cell)]]),
    ("columns",.list [columnX]), ("sortDirection",.text "asc")]

def cellMarkup (shown : String) : Web.Markup :=
  .element "table" [("id",none), ("data-on-sort",none), ("data-on-row-select",none), ("style",some "")]
    [.element "thead" []
      [.element "tr" [] [.element "th" [("style",some "text-align: left"), ("data-sort-key",none)] [.text "X"]]],
      .element "tbody" []
        [.element "tr" [("aria-selected",none)] [.element "td" [("style",some "text-align: left")] [.text shown]]]]

def forward : Fields Value := [("a",.null), ("b",.bool true)]

def cellRoot (shown : String) : Value := .text (cellMarkup shown).written

theorem cellTable_shown :
    ((builtin .silent .web).convert (cellTable forward)).outcome = .ok (cellRoot "\x7b\"a\":null,\"b\":true\x7d") ∧
      ((builtin .silent .web).convert (cellTable forward.reverse)).outcome =
        .ok (cellRoot "\x7b\"b\":true,\"a\":null\x7d") := by
  have sound (cell : Fields Value) : Element.ofValue? (cellTable cell) =
      some ⟨none,none,true,.table ⟨[object [("x",object cell)]],[columnX],none,none,none,none,none,"asc"⟩⟩ := rfl
  constructor <;>
  · change (Run.bind (Web.backend.convert .silent (cellTable _)) _).outcome = _
    rw [Backend.convert_shown (sound _) rfl]
    simp only [Element.shown,Element.panel,Backend.convertAll.eq_1,Run.ofMisuse_ok,Run.pure_bind]
    rfl

def cellState : State :=
  State.make .web (cellRoot "\x7b\"a\":null,\"b\":true\x7d") [] [(lastKey,cellTable forward)]

-- The order of the keys in a cell is not looked at by the gate and is shown by the table.
theorem update_stale :
    same (cellTable forward.reverse) (cellTable forward) = true ∧
      ((builtin .silent .web).render (cellTable forward) (object [])).outcome = .ok (.ok cellState) ∧
      ((builtin .silent .web).update (cellTable forward.reverse) cellState (object [])).outcome =
        .ok (.ok ⟨cellState,true⟩) ∧
      ∃ fresh, ((builtin .silent .web).render (cellTable forward.reverse) (object [])).outcome = .ok (.ok fresh) ∧
        same fresh.root cellState.root = false := by
  obtain ⟨first,second⟩ := cellTable_shown
  refine ⟨by decide,@rendered_shows .web _ none _ _ _ first,by rfl,_,@rendered_shows .web _ none _ _ _ second,?_⟩
  decide +kernel

end Trifold.Renderer
