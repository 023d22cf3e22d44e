import Mathlib.Data.List.Nodup
import Trifold.Proofs.Signal.Bus

namespace Trifold.Bus

variable {κ : Type}

-- A subscription is undone through its number; the first one has number 0.
inductive Call (κ : Type) where
  | on (topic : Topic) (listener : κ)
  | off (number : Nat)
  | clear
  | emit (name : String) (payload : Value)

-- What the calls say: every subscription that was made, and those that are left, with their numbers.
structure Ledger (κ : Type) where
  made : List (Subscription κ)
  live : List (Nat × Subscription κ)

-- Those of them that listen to a topic.
def heard (topic : Topic) (entries : List (Nat × Subscription κ)) : List κ := listeners topic (entries.map (·.2))

namespace Ledger

def start : Ledger κ := ⟨[],[]⟩

def note (ledger : Ledger κ) : Call κ → Ledger κ
  | .on topic listener => ⟨ledger.made ++ [⟨topic,listener⟩],ledger.live ++ [(ledger.made.length,⟨topic,listener⟩)]⟩
  | .off number => ⟨ledger.made,ledger.live.filter (·.1 != number)⟩
  | .clear => ⟨ledger.made,[]⟩
  | .emit .. => ledger

def of (calls : List (Call κ)) : Ledger κ := calls.foldl note start

-- If any equal subscription is left, so is the one of this number, and the equal ones come first among those after it that
-- listen to the same topic.
def Owned (ledger : Ledger κ) (number : Nat) : Prop :=
  ∀ it ∈ ledger.made[number]?, it ∈ ledger.live.map (·.2) → ∃ before after, ledger.live = before ++ (number,it) :: after ∧
    (heard it.topic after).Pairwise fun earlier later => later = it.listener → earlier = it.listener

def Orderly : Ledger κ → List (Call κ) → Prop
  | _, [] => True
  | ledger, call :: rest => (∀ number, call = .off number → ledger.Owned number) ∧ Orderly (ledger.note call) rest

end Ledger

-- A bus and the subscriptions that were made on it. One that throws before it is made has no number.
structure Session (κ : Type) where
  bus : Bus κ
  made : List (Subscription κ)

def Session.start : Session κ := ⟨empty,[]⟩

def Session.step [DecidableEq κ] (react : React κ) (session : Session κ) : Call κ → Session κ
  | .on topic listener =>
      let emission := Bus.on react topic listener session.bus
      match emission.outcome with
      | .ok _ => ⟨emission.bus,session.made ++ [⟨topic,listener⟩]⟩
      | .error _ => ⟨emission.bus,session.made⟩
  | .off number =>
      match session.made[number]? with
      | some it => ⟨(Bus.off react it.topic it.listener session.bus).bus,session.made⟩
      | none => session
  | .clear => ⟨(Bus.clear react session.bus).bus,session.made⟩
  | .emit name payload => ⟨(Bus.emit react name payload session.bus).bus,session.made⟩

def Session.of [DecidableEq κ] (react : React κ) (calls : List (Call κ)) : Session κ := calls.foldl (step react) start

def Agree (session : Session κ) (ledger : Ledger κ) : Prop :=
  ∀ topic, listeners topic session.bus = heard topic ledger.live

-- What holds of both after any calls, whether they agree or not.
structure Noted (session : Session κ) (ledger : Ledger κ) : Prop where
  made : session.made = ledger.made
  numbered : ∀ entry ∈ ledger.live, ledger.made[entry.1]? = some entry.2
  distinct : (ledger.live.map (·.1)).Nodup

variable {react : React κ} {topic : Topic} {listener : κ} {bus : Bus κ} {number : Nat} {it : Subscription κ}
  {session : Session κ} {ledger : Ledger κ} {entries before after : List (Nat × Subscription κ)}

theorem listeners_cons (topic : Topic) (it : Subscription κ) (bus : Bus κ) : listeners topic (it :: bus) =
    if it.topic = topic then it.listener :: listeners topic bus else listeners topic bus := by
  by_cases aimed : it.topic = topic <;> simp [listeners,aimed]

theorem listeners_append (topic : Topic) (bus later : Bus κ) :
    listeners topic (bus ++ later) = listeners topic bus ++ listeners topic later := by
  rw [listeners,List.filter_append,List.map_append,← listeners,← listeners]

theorem listeners_reverse (topic : Topic) (bus : Bus κ) :
    listeners topic bus.reverse = (listeners topic bus).reverse := by
  rw [listeners,List.filter_reverse,List.map_reverse,← listeners]

theorem mem_listeners : listener ∈ listeners topic bus ↔ ⟨topic,listener⟩ ∈ bus := by
  simp only [listeners,List.mem_map,List.mem_filter,beq_iff_eq]
  constructor
  · intro ⟨it,⟨there,aimed⟩,same⟩
    subst aimed same
    exact there
  · exact fun there => ⟨_,⟨there,rfl⟩,rfl⟩

theorem mem_heard : it.listener ∈ heard it.topic entries ↔ it ∈ entries.map (·.2) := mem_listeners

theorem heard_append (topic : Topic) (before after : List (Nat × Subscription κ)) :
    heard topic (before ++ after) = heard topic before ++ heard topic after := by
  rw [heard,List.map_append,listeners_append,← heard,← heard]

theorem heard_cons (topic : Topic) (number : Nat) (it : Subscription κ) (after : List (Nat × Subscription κ)) :
    heard topic ((number,it) :: after) =
      if it.topic = topic then it.listener :: heard topic after else heard topic after :=
  listeners_cons topic it _

theorem filter_away (gone : number ∉ entries.map (·.1)) : entries.filter (·.1 != number) = entries := by
  rw [List.filter_eq_self]
  intro entry there
  rw [bne_iff_ne]
  exact fun same => gone (List.mem_map.mpr ⟨entry,there,same⟩)

theorem filter_split (distinct : ((before ++ (number,it) :: after).map (·.1)).Nodup) :
    (before ++ (number,it) :: after).filter (·.1 != number) = before ++ after := by
  rw [List.map_append,List.map_cons,List.nodup_middle,List.nodup_cons,← List.map_append] at distinct
  rw [List.filter_append,List.filter_cons_of_neg (by simp),← List.filter_append,filter_away distinct.1]

theorem Ledger.Owned.gone (owned : ledger.Owned number) (given : ledger.made[number]? = some it)
    (gone : number ∉ ledger.live.map (·.1)) : it.listener ∉ heard it.topic ledger.live := by
  intro there
  obtain ⟨before,after,split,_⟩ := owned it given (mem_heard.mp there)
  simp [split] at gone

namespace Noted

theorem start : Noted (Session.start : Session κ) Ledger.start := ⟨rfl,nofun,List.nodup_nil⟩

theorem split (noted : Noted session ledger) (given : ledger.made[number]? = some it)
    (left : number ∈ ledger.live.map (·.1)) : ∃ before after, ledger.live = before ++ (number,it) :: after := by
  obtain ⟨⟨_,it'⟩,there,rfl⟩ := List.mem_map.mp left
  have same := noted.numbered _ there
  rw [given,Option.some_inj] at same
  subst same
  exact List.append_of_mem there

end Noted

variable [DecidableEq κ]

-- The last of the listeners that is this one goes.
def lastErased (listener : κ) (present : List κ) : List κ := (present.reverse.erase listener).reverse

theorem lastErased_of_not_mem {present : List κ} (none : listener ∉ present) : lastErased listener present = present := by
  rw [lastErased,List.erase_of_not_mem (by rwa [List.mem_reverse]),List.reverse_reverse]

theorem lastErased_append {before after : List κ} (there : listener ∈ after) :
    lastErased listener (before ++ after) = before ++ lastErased listener after := by
  rw [lastErased,lastErased,List.reverse_append,List.erase_append_left _ (List.mem_reverse.mpr there),List.reverse_append,
    List.reverse_reverse]

theorem lastErased_ne {present : List κ} (there : listener ∈ present) : lastErased listener present ≠ present := by
  intro same
  have shorter := congrArg List.length same
  rw [lastErased,List.length_reverse,List.length_erase_of_mem (List.mem_reverse.mpr there),List.length_reverse] at shorter
  have := List.length_pos_of_mem there
  omega

-- The last listener that is this one goes, or the one at this place: that leaves the same when the equal ones come first.
theorem lastErased_at (before after : List κ) : lastErased listener (before ++ listener :: after) = before ++ after ↔
    after.Pairwise fun earlier later => later = listener → earlier = listener := by
  rw [lastErased_append List.mem_cons_self,List.append_cancel_left_eq]
  induction after with
  | nil => simp [lastErased]
  | cons next after ih =>
    rw [List.pairwise_cons]
    by_cases alike : next = listener
    · subst alike
      rw [← List.singleton_append,lastErased_append List.mem_cons_self,List.singleton_append,List.cons_inj_right,ih]
      exact (and_iff_right fun _ _ _ => rfl).symm
    · by_cases later : listener ∈ after
      · refine iff_of_false ?_ fun ordered => alike (ordered.1 listener later rfl)
        rw [← List.singleton_append,lastErased_append (List.mem_cons_of_mem next later)]
        intro same
        exact alike (List.cons.inj same).1.symm
      · have alone : listener ∉ next :: after := List.not_mem_cons_of_ne_of_not_mem (Ne.symm alike) later
        refine iff_of_true ?_ ⟨fun other there same => absurd (same ▸ there) later,?_⟩
        · rw [lastErased,List.reverse_cons,List.erase_append_right _ (by rwa [List.mem_reverse]),List.erase_cons_head]
          simp
        · refine List.pairwise_iff_forall_sublist.mpr fun within same => absurd (same ▸ within.subset ?_) later
          simp

theorem listeners_erase (topic : Topic) (it : Subscription κ) (bus : Bus κ) : listeners topic (bus.erase it) =
    if it.topic = topic then (listeners topic bus).erase it.listener else listeners topic bus := by
  induction bus with
  | nil => simp [listeners]
  | cons first rest ih =>
    by_cases same : first = it
    · subst same
      rw [List.erase_cons_head,listeners_cons]
      by_cases aimed : first.topic = topic
      · rw [if_pos aimed,if_pos aimed,List.erase_cons_head]
      · rw [if_neg aimed,if_neg aimed]
    · rw [List.erase_cons_tail (by simpa using same),listeners_cons,listeners_cons,ih]
      by_cases both : it.topic = topic ∧ first.topic = topic
      · obtain ⟨aimed,firstAimed⟩ := both
        have apart : first.listener ≠ it.listener := by
          intro alike
          obtain ⟨firstTopic,firstListener⟩ := first
          obtain ⟨itTopic,itListener⟩ := it
          subst aimed alike firstAimed
          exact same rfl
        simp [aimed,firstAimed,List.erase_cons_tail,apart]
      · split <;> split <;> simp_all

theorem listeners_drop (topic : Topic) (it : Subscription κ) (bus : Bus κ) :
    listeners topic (drop it.topic it.listener bus) =
      if it.topic = topic then lastErased it.listener (listeners topic bus) else listeners topic bus := by
  rw [drop,listeners_reverse,listeners_erase,listeners_reverse]
  split
  · rfl
  · exact List.reverse_reverse _

theorem Noted.off_iff (noted : Noted session ledger) (given : ledger.made[number]? = some it) :
    (∀ topic, (if it.topic = topic then lastErased it.listener (heard topic ledger.live) else heard topic ledger.live) =
        heard topic (ledger.live.filter (·.1 != number))) ↔ ledger.Owned number := by
  constructor
  · intro same it' given' there
    cases Option.some_inj.mp (given.symm.trans given')
    have same := same it.topic
    rw [if_pos rfl] at same
    by_cases left : number ∈ ledger.live.map (·.1)
    · obtain ⟨before,after,split⟩ := noted.split given left
      have distinct := noted.distinct
      rw [split] at same distinct
      rw [filter_split distinct,heard_append,heard_append,heard_cons,if_pos rfl] at same
      exact ⟨before,after,split,(lastErased_at _ _).mp same⟩
    · rw [filter_away left] at same
      exact absurd same (lastErased_ne (mem_heard.mpr there))
  · intro owned topic
    by_cases left : number ∈ ledger.live.map (·.1)
    · have there : it ∈ ledger.live.map (·.2) := by
        obtain ⟨before,after,split⟩ := noted.split given left
        simp [split]
      obtain ⟨before,after,split,ordered⟩ := owned it given there
      have distinct := noted.distinct
      rw [split] at distinct ⊢
      rw [filter_split distinct,heard_append,heard_append,heard_cons]
      by_cases aimed : it.topic = topic
      · subst aimed
        rw [if_pos rfl,if_pos rfl]
        exact (lastErased_at _ _).mpr ordered
      · rw [if_neg aimed,if_neg aimed]
    · rw [filter_away left]
      by_cases aimed : it.topic = topic
      · subst aimed
        rw [if_pos rfl]
        exact lastErased_of_not_mem (owned.gone given left)
      · rw [if_neg aimed]

theorem Noted.step (calm : Calm react) (noted : Noted session ledger) (call : Call κ) :
    Noted (session.step react call) (ledger.note call) := by
  obtain ⟨made,numbered,distinct⟩ := noted
  cases call with
  | on topic listener =>
    obtain ⟨_,_,ended⟩ := on_added calm topic listener session.bus
    unfold Session.step
    dsimp only
    rw [ended]
    refine ⟨congrArg (· ++ _) made,?_,?_⟩
    · refine List.forall_mem_append.mpr ⟨?_,List.forall_mem_singleton.mpr List.getElem?_concat_length⟩
      intro entry there
      have given := numbered entry there
      have within := (List.getElem?_eq_some_iff.mp given).1
      exact (List.getElem?_append_left within).trans given
    · rw [Ledger.note,List.map_append]
      refine List.Nodup.append distinct (List.nodup_singleton _) ?_
      intro number there fresh
      obtain ⟨entry,listed,rfl⟩ := List.mem_map.mp there
      have within := (List.getElem?_eq_some_iff.mp (numbered entry listed)).1
      exact absurd (List.mem_singleton.mp fresh) (Nat.ne_of_lt within)
  | off number =>
    refine ⟨?_,?_,?_⟩
    · unfold Session.step
      dsimp only
      split <;> exact made
    · exact fun entry there => numbered entry (List.mem_filter.mp there).1
    · exact distinct.sublist (List.filter_sublist.map _)
  | clear => exact ⟨made,nofun,List.nodup_nil⟩
  | emit name payload => exact ⟨made,numbered,distinct⟩

theorem Agree.step_iff (calm : Calm react) (noted : Noted session ledger) (agree : Agree session ledger) (call : Call κ) :
    Agree (session.step react call) (ledger.note call) ↔ ∀ number, call = .off number → ledger.Owned number := by
  cases call with
  | on topic listener =>
    refine iff_of_true ?_ nofun
    obtain ⟨added,_,ended⟩ := on_added calm topic listener session.bus
    intro topic'
    unfold Session.step
    dsimp only
    rw [ended]
    dsimp only
    rw [added,add,listeners_append,agree topic',Ledger.note,heard_append]
    rfl
  | off number =>
    have only : (∀ other, (Call.off number : Call κ) = .off other → ledger.Owned other) ↔ ledger.Owned number :=
      ⟨fun all => all number rfl,fun owned other same => Call.off.inj same ▸ owned⟩
    rw [only]
    cases given : ledger.made[number]? with
    | none =>
      refine iff_of_true ?_ (by simp [Ledger.Owned,given])
      intro topic
      have gone : number ∉ ledger.live.map (·.1) := by
        intro left
        obtain ⟨entry,there,rfl⟩ := List.mem_map.mp left
        rw [noted.numbered entry there] at given
        cases given
      rw [Session.step,noted.made,given,Ledger.note,filter_away gone]
      exact agree topic
    | some it =>
      rw [← noted.off_iff given]
      refine forall_congr' fun topic => ?_
      rw [Session.step,noted.made,given]
      dsimp only
      rw [(off_dropped calm _ _ _).1,listeners_drop,agree topic]
      rfl
  | clear =>
    refine iff_of_true ?_ nofun
    intro topic
    rw [Session.step,clear_empty calm]
    rfl
  | emit name payload =>
    refine iff_of_true ?_ nofun
    intro topic
    rw [Session.step,emit_still calm]
    exact agree topic

theorem Noted.of (calm : Calm react) (calls : List (Call κ)) : Noted (Session.of react calls) (Ledger.of calls) := by
  suffices ∀ session ledger, Noted session ledger →
      Noted (calls.foldl (Session.step react) session) (calls.foldl Ledger.note ledger) from this _ _ Noted.start
  induction calls with
  | nil => exact fun _ _ => id
  | cons call rest ih => exact fun session ledger noted => ih _ _ (noted.step calm call)

-- Bus and ledger agree all along exactly if every call finds the ledger in order.
theorem agree_iff_orderly (calm : Calm react) (calls : List (Call κ)) :
    (∀ begun, begun <+: calls → Agree (Session.of react begun) (Ledger.of begun)) ↔ Ledger.start.Orderly calls := by
  suffices ∀ session ledger, Noted session ledger → Agree session ledger →
      ((∀ begun, begun <+: calls → Agree (begun.foldl (Session.step react) session) (begun.foldl Ledger.note ledger)) ↔
        ledger.Orderly calls) from this _ _ Noted.start fun _ => rfl
  induction calls with
  | nil =>
    intro session ledger _ agree
    refine iff_of_true ?_ trivial
    intro begun within
    rw [List.prefix_nil.mp within]
    exact agree
  | cons call rest ih =>
    intro session ledger noted agree
    rw [Ledger.Orderly,← Agree.step_iff calm noted agree call]
    constructor
    · intro all
      have stepped := all [call] (List.prefix_append [call] rest)
      refine ⟨stepped,(ih _ _ (noted.step calm call) stepped).mp ?_⟩
      exact fun begun within => all (call :: begun) (List.prefix_cons_inj call |>.mpr within)
    · intro ⟨stepped,orderly⟩ begun within
      rcases List.prefix_cons_iff.mp within with rfl | ⟨begun,rfl,sooner⟩
      · exact agree
      · exact (ih _ _ (noted.step calm call) stepped).mpr orderly begun sooner

-- Undone twice, the first of two equal subscriptions takes the second one with it.
example : let calls : List (Call String) := [.on .every "log",.on .every "log",.off 0,.off 0]
    let patient : React String := fun _ _ bus => ⟨bus,none⟩
    listeners .every (Session.of patient calls).bus = [] ∧ heard .every (Ledger.of calls).live = ["log"] := by
  decide

-- After calls in order, those who listen are those that were not undone, undoing one that is gone drops nothing, and a
-- signal is told to each who asked for its type and then to each who asked for everything.
theorem listeners_live {calls : List (Call κ)} (calm : Calm react) (orderly : Ledger.start.Orderly calls) :
    let session := Session.of react calls
    let live := (Ledger.of calls).live
    (∀ topic, listeners topic session.bus = heard topic live ∧ count topic session.bus = (heard topic live).length) ∧
    (∀ number, number ∉ live.map (·.1) → (Ledger.of calls).Owned number →
      (session.step react (.off number)).bus = session.bus) ∧
    ∀ name payload, carries name payload = true → (name = errorType → heard (.named name) live ≠ []) →
      (∀ listener bus, (react (.signal payload) listener bus).fault = none) →
        (emit react name payload session.bus).called = heard (.named name) live ++ heard .every live ∧
          (emit react name payload session.bus).outcome =
            .ok (!(heard (.named name) live).isEmpty || !(heard .every live).isEmpty) := by
  have agree := (agree_iff_orderly calm calls).mpr orderly calls List.prefix_rfl
  have noted := Noted.of calm calls
  refine ⟨fun topic => ⟨agree topic,congrArg List.length (agree topic)⟩,?_,?_⟩
  · intro number gone owned
    cases given : (Ledger.of calls).made[number]? with
    | none => rw [Session.step,noted.made,given]
    | some it =>
      have away := owned.gone given gone
      rw [← agree it.topic,mem_listeners] at away
      rw [Session.step,noted.made,given]
      dsimp only
      rw [off,if_neg away]
  · intro name payload carried heeded quiet
    have told := emit_heard carried (agree (.named name) ▸ heeded) quiet
    dsimp only at told
    rw [announce_still calm,agree,agree] at told
    exact told

-- A listener that only takes what it is told.
def patient : React String := fun _ _ bus => ⟨bus,none⟩

theorem patient_calm : Calm patient := ⟨fun _ _ _ => rfl,fun _ _ _ => rfl⟩

def turns : List (Call String) :=
  [.on (.named "turned") "log",.on .every "log",.on (.named "turned") "log",.off 0,.off 1,.off 1]

theorem turns_orderly : Ledger.start.Orderly turns := by
  refine ⟨nofun,nofun,nofun,?_,?_,?_,trivial⟩
  · rintro _ ⟨⟩ _ ⟨⟩ _
    exact ⟨[],_,rfl,by decide⟩
  · rintro _ ⟨⟩ _ ⟨⟩ _
    exact ⟨[],_,rfl,by decide⟩
  · rintro _ ⟨⟩ _ ⟨⟩ there
    simp [Ledger.note,Ledger.start] at there

def turned : Value := .object [("id",.text "s1"),("type",.text "turned")]

theorem listeners_live_turns : Calm patient ∧ Ledger.start.Orderly turns ∧ carries "turned" turned = true ∧
    count (.named "turned") (Session.of patient turns).bus = 1 ∧
    (emit patient "turned" turned (Session.of patient turns).bus).called = ["log"] ∧
    (emit patient "turned" turned (Session.of patient turns).bus).outcome = .ok true := by
  have carried : carries "turned" turned = true := by decide
  obtain ⟨listed,_,told⟩ := listeners_live patient_calm turns_orderly
  obtain ⟨called,outcome⟩ := told "turned" turned carried (by decide) fun _ _ => rfl
  exact ⟨patient_calm,turns_orderly,carried,(listed _).2,called,outcome⟩

-- Nobody listens to errors but the one who listens to everything, and the signal does not get there.
theorem emit_unheard : let calls : List (Call String) := [.on .every "all"]
    let failed : Value := .object [("id",.text "s1"),("type",.text "error")]
    Calm patient ∧ Ledger.start.Orderly calls ∧ heard .every (Ledger.of calls).live = ["all"] ∧
    carries "error" failed = true ∧ (∀ listener bus, (patient (.signal failed) listener bus).fault = none) ∧
    (emit patient "error" failed (Session.of patient calls).bus).called = [] ∧
    (emit patient "error" failed (Session.of patient calls).bus).outcome = .error .unheard :=
  ⟨patient_calm,⟨nofun,trivial⟩,rfl,by decide,fun _ _ => rfl,rfl,rfl⟩

end Trifold.Bus
