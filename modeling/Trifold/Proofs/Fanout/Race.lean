import Trifold.Fanout.Race
import Trifold.Proofs.Fanout.Isolated

namespace Trifold.Fanout

namespace Moment

def position : Moment → Nat
  | timerFires position | taskRuns position => position

end Moment

namespace Race

-- The first thing that happens to a position.
def first? (position : Nat) (schedule : List Moment) : Option Moment := schedule.find? fun moment => moment.position == position

-- A position is late when its timer fires before its task runs, or when its task took too long.
def Late (race : Race) (schedule : List Moment) (position : Nat) : Prop :=
  first? position schedule = some (.timerFires position) ∨
    race.timeout < (race.clock position).after - (race.clock position).before

-- What a moment settles its position with, and what the position is settled with in the end.
def settlement (race : Race) (name : Name) : Moment → Shown
  | .timerFires _ => .error .timeout
  | .taskRuns position => if race.overran position then .error .timeout else race.request.answer name

def verdict (race : Race) (schedule : List Moment) (name : Name) (position : Nat) : Option Shown :=
  (first? position schedule).map (race.settlement name)

variable {race : Race} {schedule : List Moment} {name : Name} {position : Nat}

theorem first?_cons (position : Nat) (moment : Moment) (rest : List Moment) :
    first? position (moment :: rest) = if moment.position = position then some moment else first? position rest := by
  unfold first?
  rw [List.find?_cons]
  split <;> simp_all

theorem position_of_first? {moment : Moment} (met : first? position schedule = some moment) : moment.position = position :=
  beq_iff_eq.mp (List.find?_eq_some_iff_append.mp met).1

theorem task_outcome (race : Race) (position : Nat) (name : Name) :
    (race.task position name).outcome = .ok (race.settlement name (.taskRuns position)) := by
  show (Run.bind (race.request.show name).attempt _).outcome = _
  rw [Run.bind_ok _ _ _ rfl]
  unfold settlement Request.answer
  cases (race.request.show name).outcome <;> rfl

theorem settle_getElem? (settled : Settled) (there : Nat) (shown : Shown) (position : Nat) :
    (settle settled there shown)[position]? =
      if there = position then settled[position]?.map fun was => was.or (some shown) else settled[position]? := by
  rw [settle,List.getElem?_modify]
  split
  · refine congrArg (Option.map · settled[position]?) (funext fun was => ?_)
    cases was <;> rfl
  · exact Option.map_id'

theorem step_settles (race : Race) (settled : Settled) (moment : Moment) : ∃ next,
    (race.step settled moment).outcome = .ok next ∧
      ∀ (position : Nat) (name : Name), race.names[position]? = some name → ∀ was : Option Shown, settled[position]? = some was →
        next[position]? = some (if moment.position = position then was.or (some (race.settlement name moment)) else was) := by
  have settles (there : Nat) (shown : Shown) (position : Nat) (was : Option Shown) (before : settled[position]? = some was) :
      (settle settled there shown)[position]? = some (if there = position then was.or (some shown) else was) := by
    rw [settle_getElem?,before]
    split <;> rfl
  cases moment with
  | timerFires there =>
    refine ⟨_,rfl,?_⟩
    intro position name _ was before
    exact settles there _ position was before
  | taskRuns there =>
    cases named : race.names[there]? with
    | none =>
      have skipped : race.step settled (.taskRuns there) = pure settled := by simp only [step,named]
      refine ⟨settled,by rw [skipped]; rfl,?_⟩
      intro position name listed was before
      have apart : there ≠ position := by
        rintro rfl
        cases named.symm.trans listed
      rw [before,Moment.position,if_neg apart]
    | some name =>
      have ran : race.step settled (.taskRuns there) =
          race.task there name >>= fun shown => pure (settle settled there shown) := by simp only [step,named]
      refine ⟨settle settled there (race.settlement name (.taskRuns there)),?_,?_⟩
      · rw [ran]
        change (Run.bind (race.task there name) _).outcome = _
        rw [Run.bind_ok _ _ _ (task_outcome race there name)]
        rfl
      · intro position name' listed was before
        rw [settles there _ position was before,Moment.position]
        by_cases own : there = position
        · subst own
          cases named.symm.trans listed
          rfl
        · rw [if_neg own,if_neg own]

-- A position that is open is settled by the first of its moments that are still to come.
theorem run_settles (race : Race) (settled : Settled) (schedule : List Moment) : ∃ final,
    (race.run settled schedule).outcome = .ok final ∧
      ∀ (position : Nat) (name : Name), race.names[position]? = some name → ∀ was : Option Shown, settled[position]? = some was →
        final[position]? = some (was.or (race.verdict schedule name position)) := by
  induction schedule generalizing settled with
  | nil =>
    refine ⟨settled,rfl,?_⟩
    intro position name _ was before
    rw [before]
    exact congrArg some Option.or_none.symm
  | cons moment rest ih =>
    unfold run
    split
    · rename_i closed
      refine ⟨settled,rfl,?_⟩
      intro position name _ was before
      obtain ⟨shown,rfl⟩ := Option.isSome_iff_exists.mp (List.all_eq_true.mp closed was (List.mem_of_getElem? before))
      exact before
    · obtain ⟨next,stepped,settles⟩ := step_settles race settled moment
      obtain ⟨final,ended,settles'⟩ := ih next
      refine ⟨final,?_,?_⟩
      · change (Run.bind (race.step settled moment) _).outcome = _
        rw [Run.bind_ok _ _ _ stepped]
        exact ended
      · intro position name listed was before
        rw [settles' position name listed _ (settles position name listed was before),verdict,verdict,first?_cons]
        by_cases own : moment.position = position
        · rw [if_pos own,if_pos own]
          cases was <;> rfl
        · rw [if_neg own,if_neg own]

def entry (race : Race) (schedule : List Moment) (position : Nat) (name : Name) : Shown :=
  (race.verdict schedule name position).getD (.error .timeout)

theorem answers_settled {final : Settled} (settles : ∀ (position : Nat) (name : Name), race.names[position]? = some name →
    final[position]? = some (race.verdict schedule name position)) :
    race.answers final = race.names.mapIdx fun position name => (name.key,race.entry schedule position name) := by
  refine List.ext_getElem? fun position => ?_
  rw [answers,List.getElem?_mapIdx]
  cases listed : race.names[position]? with
  | none =>
    have outside : race.names.length ≤ position := List.getElem?_eq_none_iff.mp listed
    simp [outside]
  | some name => simp [List.getElem?_zip_eq_some,listed,settles position name listed,entry]

theorem entry_of_late (late : race.Late schedule position) (name : Name) : race.entry schedule position name = .error .timeout := by
  unfold entry verdict
  rcases late with early | slow
  · rw [early]
    rfl
  · have overran : race.overran position = true := decide_eq_true slow
    cases met : first? position schedule with
    | none => rfl
    | some moment =>
      cases moment with
      | timerFires => rfl
      | taskRuns there =>
        obtain rfl : there = position := position_of_first? met
        simp [settlement,overran]

theorem entry_of_timely (started : .taskRuns position ∈ schedule) (timely : ¬ race.Late schedule position) (name : Name) :
    race.entry schedule position name = race.request.answer name := by
  obtain ⟨early,quick⟩ := not_or.mp timely
  have overran : race.overran position = false := decide_eq_false quick
  have there : (first? position schedule).isSome = true :=
    List.find?_isSome.mpr ⟨_,started,beq_self_eq_true position⟩
  obtain ⟨moment,met⟩ := Option.isSome_iff_exists.mp there
  cases moment with
  | timerFires there =>
    obtain rfl : there = position := position_of_first? met
    exact absurd met early
  | taskRuns there =>
    obtain rfl : there = position := position_of_first? met
    simp [entry,verdict,met,settlement,overran]

end Race

def Last (names : List String) (name : String) (position : Nat) : Prop :=
  names[position]? = some name ∧ ∀ later, position < later → names[later]? ≠ some name

theorem Last.lt {names : List String} {name : String} {position : Nat} (last : Last names name position) :
    position < names.length := (List.getElem?_eq_some_iff.mp last.1).1

theorem exists_last {names : List String} {name : String} (listed : name ∈ names) : ∃ position, Last names name position := by
  induction names with
  | nil => cases listed
  | cons first rest ih =>
    by_cases again : name ∈ rest
    · obtain ⟨position,here,later⟩ := ih again
      refine ⟨position + 1,here,?_⟩
      intro place behind
      cases place with
      | zero => omega
      | succ place => exact later place (by omega)
    · refine ⟨0,congrArg some ((List.mem_cons.mp listed).resolve_right again).symm,?_⟩
      intro place behind there
      cases place with
      | zero => omega
      | succ place => exact again (List.mem_of_getElem? there)

-- A race for a tree that is shown under these names.
def Request.race (request : Request) (names : List String) (timeout : Float) (clock : Nat → Reading) : Race :=
  ⟨request,names.map Name.ofText,timeout,clock⟩

variable {request : Request} {names : List String} {timeout : Float} {clock : Nat → Reading} {schedule : List Moment}

-- The answers of a race, and what is put together of them: the last answer of a name at the place of its first.
def Request.answers (request : Request) (names : List String) (timeout : Float) (clock : Nat → Reading)
    (schedule : List Moment) : List (String × Shown) :=
  names.mapIdx fun position name => (name,(request.race names timeout clock).entry schedule position (.ofText name))

abbrev Request.raced (request : Request) (names : List String) (timeout : Float) (clock : Nat → Reading)
    (schedule : List Moment) : Fields Shown := Fields.ofEntries (request.answers names timeout clock schedule)

theorem keys_answers : Fields.keys (request.answers names timeout clock schedule) = names := by
  refine List.ext_getElem? fun position => ?_
  rw [Fields.keys,Request.answers,List.getElem?_map,List.getElem?_mapIdx,Option.map_map]
  exact Option.map_id'

theorem finish_named (ordinary : ∀ name ∈ names, name ≠ Value.baseName) :
    ((request.race names timeout clock).finish schedule).outcome = .ok (request.raced names timeout clock schedule) := by
  let race := request.race names timeout clock
  have begun (position : Nat) (name : Name) (listed : race.names[position]? = some name) :
      (race.names.map fun _ => (none : Option Shown))[position]? = some none := by
    rw [List.getElem?_map,listed]
    rfl
  obtain ⟨final,ended,settles⟩ := race.run_settles (race.names.map fun _ => none) schedule
  have answers := Race.answers_settled fun position name listed => settles position name listed none (begun position name listed)
  have entries : race.answers final =
      (request.answers names timeout clock schedule).map fun entry => (some entry.1,entry.2) := by
    rw [answers]
    refine List.ext_getElem? fun position => ?_
    simp only [race,Request.race,Request.answers,List.getElem?_mapIdx,List.getElem?_map,Option.map_map]
    rfl
  have named : ∀ entry ∈ request.answers names timeout clock schedule, entry.1 ≠ Value.baseName := by
    intro entry there
    have listed : entry.1 ∈ Fields.keys (request.answers names timeout clock schedule) := List.mem_map_of_mem there
    rw [keys_answers] at listed
    exact ordinary entry.1 listed
  change (Run.bind (race.run (race.names.map fun _ => none) schedule) _).outcome = _
  rw [Run.bind_ok _ _ _ ended,entries,collect,collectFrom_named named []]
  rfl

theorem keys_raced : Fields.keys (request.raced names timeout clock schedule) =
    Fields.keys (Fields.ofEntries (names.map fun name => (name,request.answer (.ofText name)))) := by
  refine Fields.keys_putAll_named rfl ?_
  rw [keys_answers,Fields.keys,List.map_map]
  exact (List.map_id' names).symm

theorem get?_raced {name : String} {position : Nat} (last : Last names name position) :
    Fields.get? name (request.raced names timeout clock schedule) =
      some ((request.race names timeout clock).entry schedule position (.ofText name)) := by
  obtain ⟨here,later⟩ := last
  refine @Fields.get?_putAll_last _ name _ _ position ?_ ?_ []
  · rw [Request.answers,List.getElem?_mapIdx,here]
    rfl
  · intro place entry behind there
    rw [Request.answers,List.getElem?_mapIdx,Option.map_eq_some_iff] at there
    obtain ⟨name',listed,rfl⟩ := there
    rintro rfl
    exact later place behind listed

theorem get?_shown {name : String} (listed : name ∈ names) :
    Fields.get? name (Fields.ofEntries (names.map fun name => (name,request.answer (.ofText name)))) =
      some (request.answer (.ofText name)) := by
  obtain ⟨position,here,later⟩ := exists_last listed
  refine @Fields.get?_putAll_last _ name _ _ position ?_ ?_ []
  · rw [List.getElem?_map,here]
    rfl
  · intro place entry behind there
    rw [List.getElem?_map,Option.map_eq_some_iff] at there
    obtain ⟨name',listed',rfl⟩ := there
    rintro rfl
    exact later place behind listed'

section

variable {parts parts' : Platform → Parts} {value config : Value} {name : String}

theorem answer_timely (parts : Platform → Parts) (value config : Value) (name : String) :
    (Request.of parts value config).answer (.ofText name) ≠ .error .timeout := by
  have answers := (answer_answers parts value config name).2
  intro late
  rw [late] at answers
  cases answers

theorem answer_own (own : ∀ platform, Platform.ofName? name = some platform → parts' platform = parts platform) :
    (Request.of parts' value config).answer (.ofText name) = (Request.of parts value config).answer (.ofText name) := by
  have same : (Request.of parts' value config).show (.ofText name) = (Request.of parts value config).show (.ofText name) := by
    unfold Request.show Name.ofText
    cases known : Platform.ofName? name with
    | none => rfl
    | some platform =>
      simp only [Request.of]
      rw [own platform known]
  rw [Request.answer,Request.answer,same]

theorem entry_timeout {position : Nat} (started : .taskRuns position ∈ schedule) :
    let race := (Request.of parts value config).race names timeout clock
    race.entry schedule position (.ofText name) = .error .timeout ↔ race.Late schedule position := by
  intro race
  constructor
  · intro expired
    by_contra timely
    rw [Race.entry_of_timely started timely] at expired
    exact answer_timely parts value config name expired
  · intro late
    exact Race.entry_of_late late _

end

theorem mem_names {name : String} {shown : Shown} (there : (name,shown) ∈ request.raced names timeout clock schedule) :
    name ∈ names := by
  have key : name ∈ Fields.keys (request.raced names timeout clock schedule) := List.mem_map_of_mem there
  rwa [Fields.mem_keys_ofEntries,keys_answers] at key

-- A race has the entries that rendering one after the other has, in the same order, but that an entry is a timeout where
-- the last position of its name is late. What the other names are, how they are rendered and when changes no entry.
theorem finish_timeouts (parts : Platform → Parts) (value config : Value) (timeout : Float) (clock : Nat → Reading)
    {names : List String} {schedule : List Moment} (ordinary : ∀ name ∈ names, name ≠ Value.baseName)
    (started : ∀ position < names.length, .taskRuns position ∈ schedule) :
    let race := (Request.of parts value config).race names timeout clock
    ∃ shows plain, (race.finish schedule).outcome = .ok shows ∧
      (renderOn (.of parts value config) (names.map Name.ofText)).outcome = .ok plain ∧
      Fields.keys shows = Fields.keys plain ∧
      (∀ entry ∈ shows, entry ∈ plain ∨ entry.2 = .error .timeout) ∧
      ∀ name position, Last names name position →
        (Fields.get? name shows = some (.error .timeout) ↔ race.Late schedule position) ∧
        ∀ parts' names' timeout' clock' schedule' position', (∀ name ∈ names', name ≠ Value.baseName) →
          (∀ position < names'.length, .taskRuns position ∈ schedule') → Last names' name position' →
          (∀ platform, Platform.ofName? name = some platform → parts' platform = parts platform) →
          let race' := (Request.of parts' value config).race names' timeout' clock'
          (race'.Late schedule' position' ↔ race.Late schedule position) →
          ∃ shows', (race'.finish schedule').outcome = .ok shows' ∧ Fields.get? name shows' = Fields.get? name shows := by
  intro race
  have plain := renderOn_named ordinary fun name _ => (answer_answers parts value config name).1
  refine ⟨_,_,finish_named ordinary,by rw [plain],keys_raced,?_,?_⟩
  · rintro ⟨name,shown⟩ there
    have listed := mem_names there
    obtain ⟨position,last⟩ := exists_last listed
    have found := Fields.get?_of_mem (Fields.nodup_ofEntries _) there
    rw [get?_raced last,Option.some_inj] at found
    by_cases late : race.Late schedule position
    · exact .inr (found.symm.trans (Race.entry_of_late late _))
    · refine .inl (Fields.mem_of_get? ?_)
      rw [get?_shown listed,← found,Race.entry_of_timely (started position last.lt) late]
      rfl
  · intro name position last
    refine ⟨?_,?_⟩
    · rw [get?_raced last,Option.some_inj]
      exact entry_timeout (started position last.lt)
    · intro parts' names' timeout' clock' schedule' position' ordinary' started' last' own race' alike
      refine ⟨_,finish_named ordinary',?_⟩
      rw [get?_raced last,get?_raced last',Option.some_inj]
      by_cases late : race.Late schedule position
      · exact (Race.entry_of_late (alike.mpr late) _).trans (Race.entry_of_late late _).symm
      · rw [Race.entry_of_timely (started position last.lt) late,
          Race.entry_of_timely (started' position' last'.lt) (mt alike.mp late)]
        exact answer_own own

-- The second panel that is asked for twice is late, the first is not.
def busy : List Moment :=
  [.taskRuns 0, .timerFires 3, .taskRuns 1, .taskRuns 2, .timerFires 2, .taskRuns 3, .timerFires 0, .timerFires 1]

theorem finish_timeouts_wall : (∀ name ∈ wall, name ≠ Value.baseName) ∧ (∀ position < wall.length, .taskRuns position ∈ busy) ∧
    ∃ shows, (((Request.of panels (.text "hello") .absent).race wall 50 fun _ => ⟨0,0⟩).finish busy).outcome = .ok shows ∧
      Fields.get? "web" shows = some (.error .timeout) ∧ Fields.get? "tv" shows ≠ some (.error .timeout) := by
  have ordinary : ∀ name ∈ wall, name ≠ Value.baseName := by decide
  have started : ∀ position < wall.length, .taskRuns position ∈ busy := by decide
  refine ⟨ordinary,started,?_⟩
  obtain ⟨shows,plain,ended,_,_,_,timeouts⟩ :=
    finish_timeouts panels (.text "hello") .absent 50 (fun _ => ⟨0,0⟩) ordinary started
  have web : Last wall "web" 3 := by
    refine ⟨rfl,?_⟩
    intro later behind there
    have inside : later < 4 := (List.getElem?_eq_some_iff.mp there).1
    omega
  have tv : Last wall "tv" 1 := by
    refine ⟨rfl,?_⟩
    intro later behind there
    have inside : later < 4 := (List.getElem?_eq_some_iff.mp there).1
    interval_cases later <;> simp [wall] at there
  refine ⟨shows,ended,(timeouts "web" 3 web).1.mpr (.inl rfl),?_⟩
  intro expired
  rcases (timeouts "tv" 1 tv).1.mp expired with early | slow
  · cases early
  · exact absurd slow (by decide +kernel)

end Trifold.Fanout
