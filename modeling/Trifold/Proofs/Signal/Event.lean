import Trifold.Proofs.Agree
import Trifold.Proofs.Fields
import Trifold.Proofs.Signal.Type
import Trifold.Signal.Event

namespace Trifold
open Value

variable {host : Host}

namespace Payload

def checked (limits data : Value) : Ask (Option PayloadError) := do violation (← limitsOf limits) data

-- Limits as they are declared: absent, or a record of three numbers.
def AreLimits (limits : Value) : Prop :=
  limits = .absent ∨ limits.isPlain = true ∧ ∃ size depth length, limits.get "maxSize" = .number size ∧
    limits.get "maxDepth" = .number depth ∧ limits.get "maxStringLength" = .number length

theorem boundOf_number (x : Float) : Bound.ofValue (.number x) host = .ok (Bound.ofNumber x) := rfl

theorem entries_there {data : Value} (there : data.isMissing = false) : entries data host = .ok (own data) := by
  cases data with
  | absent | null => cases there
  | _ => rfl

theorem entries_plain {data : Value} (plain : data.isPlain = true) : entries data host = .ok (own data) := by
  cases data <;> first | rfl | cases plain

theorem violation_ok {data : Value} (plain : data.isPlain = true) (size depth length : Float) :
    ∃ verdict, violation ⟨.number size,.number depth,.number length⟩ data host = .ok verdict := by
  have measured (fields : Fields Value) : ∃ verdict, (do
      if (Bound.ofNumber depth).exceededBy (Payload.depth (Bound.ofNumber depth) 0 fields) then return some .tooDeep
      let largest ← Bound.ofValue (.number size)
      if largest.exceededBy (Payload.size fields) then return some .tooLarge
      if !hasText fields then return none
      let longest ← Bound.ofValue (.number length)
      return if hasLongText longest fields then some .textTooLong else none : Ask (Option PayloadError)) host =
        .ok verdict := by
    split
    · exact ⟨_,rfl⟩
    · rw [Ask.bind_ok (boundOf_number size)]
      split
      · exact ⟨_,rfl⟩
      · split
        · exact ⟨_,rfl⟩
        · rw [Ask.bind_ok (boundOf_number length)]
          exact ⟨_,rfl⟩
  unfold violation
  rw [Ask.bind_ok (boundOf_number depth)]
  split
  · exact measured []
  · rw [Ask.bind_ok (entries_plain plain)]
    exact measured (own data)

theorem limitsOf_ok {limits : Value} (declared : AreLimits limits) :
    ∃ size depth length, limitsOf limits host = .ok ⟨.number size,.number depth,.number length⟩ := by
  rcases declared with rfl | ⟨plain,size,depth,length,sized,deep,long⟩
  · exact ⟨_,_,_,rfl⟩
  · refine ⟨size,depth,length,?_⟩
    rw [← sized,← deep,← long]
    cases limits <;> first | rfl | cases plain

theorem checked_ok {limits data : Value} (declared : AreLimits limits) (plain : data.isPlain = true) :
    ∃ verdict, checked limits data host = .ok verdict := by
  obtain ⟨size,depth,length,read⟩ := @limitsOf_ok host limits declared
  obtain ⟨verdict,found⟩ := @violation_ok host data plain size depth length
  exact ⟨verdict,(Ask.bind_ok read).trans found⟩

end Payload

namespace Action

theorem choose_eq_some {words : List String} {given : Value} {word : String} :
    choose words given = some word ↔ word ∈ words ∧ given = .text word := by
  unfold choose
  constructor
  · intro chosen
    obtain ⟨asked,named,found⟩ := Option.bind_eq_some_iff.mp chosen
    have same := List.find?_some found
    obtain rfl : word = asked := beq_iff_eq.mp same
    refine ⟨List.mem_of_find?_eq_some found,?_⟩
    cases given <;> cases named
    rfl
  · rintro ⟨listed,rfl⟩
    have found : (words.find? (· == word)).isSome := List.find?_isSome.mpr ⟨word,listed,beq_self_eq_true word⟩
    obtain ⟨hit,here⟩ := Option.isSome_iff_exists.mp found
    have same := List.find?_some here
    obtain rfl : hit = word := beq_iff_eq.mp same
    exact here

end Action

namespace Signal

-- The same signal at another time: nothing but its id and its time may differ.
def Restamped (signal signal' : Signal) : Prop := signal' = { signal with id := signal'.id, time := signal'.time }

theorem make_restamped (stamp stamp' : Stamp) (nameOrType data options : Value) :
    Agree.Outcome (Agree.Outcome Restamped) (make stamp nameOrType data options host)
      (make stamp' nameOrType data options host) := by
  unfold make
  refine .bind_same fun resolved _ => ?_
  cases resolved with
  | error error => exact .ok (.error error)
  | ok type =>
    dsimp only
    split
    · refine .bind (R := Restamped) ?_ fun signal signal' same => .ok (.ok same)
      refine .bind_same fun source _ => ?_
      exact .ok rfl
    · exact .ok (.error _)

end Signal

namespace Event

-- What a rule puts after the domain: words of its own, and the word of the list that the payload asks for.
inductive Suffix (data : Value) : EventRule → String → Prop
  | standard (signal : StandardSignal) : Suffix data (.standard signal) signal.path
  | fixed (path : String) : Suffix data (.fixed path) path
  | action (category word : String) (listed : word ∈ (Action.allowed? category).getD [])
      (asked : data.get "action" = .text word) : Suffix data (.action category) (category ++ "." ++ word)
  | hook (word : String) (listed : word ∈ hooks) (asked : data.get "hookName" = .text word) :
      Suffix data .hook ("web." ++ word)

-- The payload asks for a word of the list, where the rule has a list.
def Permitted (data : Value) : EventRule → Prop
  | .action category => ∃ word ∈ (Action.allowed? category).getD [], data.get "action" = .text word
  | .hook => ∃ word ∈ hooks, data.get "hookName" = .text word
  | _ => True

def refusal : EventRule → EventError
  | .hook => .invalidHook
  | _ => .invalidAction

theorem permitted_iff {data : Value} {rule : EventRule} : Permitted data rule ↔ ∃ suffix, Suffix data rule suffix := by
  cases rule with
  | standard signal => exact ⟨fun _ => ⟨_,.standard signal⟩,fun _ => trivial⟩
  | fixed path => exact ⟨fun _ => ⟨_,.fixed path⟩,fun _ => trivial⟩
  | action category =>
    constructor
    · rintro ⟨word,listed,asked⟩
      exact ⟨_,.action category word listed asked⟩
    · rintro ⟨_,_ | _ | ⟨_,word,listed,asked⟩⟩
      exact ⟨word,listed,asked⟩
  | hook =>
    constructor
    · rintro ⟨word,listed,asked⟩
      exact ⟨_,.hook word listed asked⟩
    · rintro ⟨_,_ | _ | _ | ⟨word,listed,asked⟩⟩
      exact ⟨word,listed,asked⟩

-- Every word a rule may put after the domain gives two segments or more.
def Sound : EventRule → Prop
  | .standard signal => Signal.IsSuffix signal.path
  | .fixed path => Signal.IsSuffix path
  | .action category => ∀ word ∈ (Action.allowed? category).getD [], Signal.IsSuffix (category ++ "." ++ word)
  | .hook => ∀ word ∈ hooks, Signal.IsSuffix ("web." ++ word)

instance (rule : EventRule) : Decidable (Sound rule) := by cases rule <;> unfold Sound <;> infer_instance

theorem rules_sound (platform : Platform) : ∀ entry ∈ rules platform, Sound entry.2 := by cases platform <;> decide

theorem suffix_sound {rule : EventRule} {data : Value} {suffix : String} (sound : Sound rule)
    (written : Suffix data rule suffix) : Signal.IsSuffix suffix := by
  cases written with
  | standard => exact sound
  | fixed => exact sound
  | action category word listed => exact sound word listed
  | hook word listed => exact sound word listed

theorem platformOf_name (platform : Platform) : platformOf (.text platform.name) host = .ok platform := by
  have read : (Value.text platform.name).toKey host = .ok (some platform.name) := rfl
  rw [platformOf,Ask.bind_ok read,Option.bind_some,Platform.ofName?_name]
  rfl

theorem fetch_plain {value : Value} (plain : value.isPlain = true) (key : String) :
    value.fetch key host = .ok (value.get key) := by
  cases value <;> first | rfl | cases plain

section
variable {data options : Value} {rule : EventRule} {domain : String}

theorem resolve_refused (plain : data.isPlain = true) (refused : ¬ Permitted data rule) :
    resolve rule data (.text domain) host = .ok (.error (refusal rule)) := by
  have none_chosen (words : List String) (key : String) (unlisted : ¬ ∃ word ∈ words, data.get key = .text word) :
      Action.choose words (data.get key) = none := by
    cases chosen : Action.choose words (data.get key) with
    | none => rfl
    | some word => exact absurd ⟨word,Action.choose_eq_some.mp chosen⟩ unlisted
  cases rule with
  | standard signal => exact absurd trivial refused
  | fixed path => exact absurd trivial refused
  | action category =>
    rw [resolve,Ask.bind_ok (fetch_plain plain "action"),none_chosen _ _ refused]
    rfl
  | hook =>
    rw [resolve,Ask.bind_ok (fetch_plain plain "hookName"),none_chosen _ _ refused]
    rfl

-- A name that stands for the domain followed by the suffix: a standard one by the options, any other as it is.
def Names (platform : Platform) (options : Value) (domain suffix name : String) : Prop :=
  ∀ host, Signal.resolveType (.text name) (signalOptions platform (.text domain) options) host =
    .ok (.ok (Signal.joined domain suffix))

theorem resolve_permitted (platform : Platform) (options : Value) (plain : data.isPlain = true) {suffix : String}
    (written : Suffix data rule suffix) :
    ∃ name, resolve rule data (.text domain) host = .ok (.ok name) ∧ Names platform options domain suffix name := by
  have itself (suffix : String) : Names platform options domain suffix (Signal.joined domain suffix) :=
    fun _ => Signal.resolveType_joined domain suffix
  cases written with
  | standard signal => exact ⟨signal.name,rfl,fun _ => Signal.resolveType_standard signal rfl rfl⟩
  | fixed => exact ⟨_,rfl,itself _⟩
  | action category word listed asked =>
    refine ⟨_,?_,itself _⟩
    rw [resolve,Ask.bind_ok (fetch_plain plain "action"),Action.choose_eq_some.mpr ⟨listed,asked⟩]
    exact congrArg (Except.ok ∘ Except.ok) (by simp [Signal.joined,String.append_assoc])
  | hook word listed asked =>
    refine ⟨_,?_,itself _⟩
    rw [resolve,Ask.bind_ok (fetch_plain plain "hookName"),Action.choose_eq_some.mpr ⟨listed,asked⟩]
    have parted : ".web." = "." ++ "web." := rfl
    exact congrArg (Except.ok ∘ Except.ok) (by simp only [Signal.joined,parted,String.append_assoc])

theorem make_named (stamp : Stamp) (platform : Platform) {fields : Fields Value} {suffix name : String}
    (named : Names platform options domain suffix name) (sound : Signal.IsSuffix suffix) :
    ∃ outcome, Signal.make stamp (.text name) (.object fields) (signalOptions platform (.text domain) options) host =
        .ok outcome ∧
      (¬ Signal.IsDomain domain → outcome = .error .invalidTypeFormat) ∧
      (Signal.IsDomain domain → ∃ signal, outcome = .ok signal ∧ signal.type = Signal.joined domain suffix ∧
        signal.data = fields) := by
  have given : (signalOptions platform (.text domain) options).given (.object []) =
      signalOptions platform (.text domain) options := rfl
  rw [Signal.make,given,Ask.bind_ok (named host)]
  dsimp only
  by_cases valid : Signal.IsDomain domain
  · rw [if_pos ((Signal.isType_joined sound).mpr valid)]
    exact ⟨_,rfl,fun invalid => absurd valid invalid,fun _ => ⟨_,rfl,rfl,rfl⟩⟩
  · rw [if_neg (mt (Signal.isType_joined sound).mp valid)]
    exact ⟨_,rfl,fun _ => rfl,fun holds => absurd holds valid⟩

-- Whatever the payload is, a rule that is resolved refuses it or puts a suffix of its own after the domain.
theorem resolve_placed (platform : Platform) (options : Value) (sound : Sound rule) {resolved : Except EventError String}
    (ended : resolve rule data (.text domain) host = .ok resolved) : resolved = .error (refusal rule) ∨
      ∃ suffix name, resolved = .ok name ∧ Signal.IsSuffix suffix ∧ Names platform options domain suffix name := by
  have itself (suffix : String) : Names platform options domain suffix (Signal.joined domain suffix) :=
    fun _ => Signal.resolveType_joined domain suffix
  cases rule with
  | standard signal =>
    cases ended
    exact .inr ⟨_,_,rfl,sound,fun _ => Signal.resolveType_standard signal rfl rfl⟩
  | fixed path =>
    cases ended
    exact .inr ⟨_,_,rfl,sound,itself path⟩
  | action category =>
    obtain ⟨asked,_,ended⟩ := Ask.ok_of_bind ended
    cases chosen : Action.choose ((Action.allowed? category).getD []) asked with
    | none =>
      rw [chosen] at ended
      cases ended
      exact .inl rfl
    | some word =>
      rw [chosen] at ended
      cases ended
      refine .inr ⟨_,_,rfl,sound word (Action.choose_eq_some.mp chosen).1,?_⟩
      have parted : Signal.joined domain (category ++ "." ++ word) = domain ++ "." ++ category ++ "." ++ word := by
        simp [Signal.joined,String.append_assoc]
      exact parted ▸ itself _
  | hook =>
    obtain ⟨asked,_,ended⟩ := Ask.ok_of_bind ended
    cases chosen : Action.choose hooks asked with
    | none =>
      rw [chosen] at ended
      cases ended
      exact .inl rfl
    | some word =>
      rw [chosen] at ended
      cases ended
      refine .inr ⟨_,_,rfl,sound word (Action.choose_eq_some.mp chosen).1,?_⟩
      have point : ".web." = "." ++ "web." := rfl
      have parted : Signal.joined domain ("web." ++ word) = domain ++ ".web." ++ word := by
        simp only [Signal.joined,point,String.append_assoc]
      exact parted ▸ itself _

end

theorem toSignal_placed {stamp : Stamp} {platform : Platform} {type data options : Value} {domain : String}
    (given : options.isPlain = true) (named : (options.get "namespace").orElse (.text Signal.defaultDomain) = .text domain)
    (segments : Signal.IsDomain domain) {outcome : Except EventError Signal}
    (ended : toSignal stamp (.text platform.name) type data options host = .ok outcome) (error : SignalError) :
    outcome ≠ .error (.signal error) := by
  have kept : options.given (.object []) = options := by
    cases options <;> first | rfl | cases given
  unfold toSignal at ended
  rw [Ask.bind_ok (platformOf_name platform),kept] at ended
  dsimp only at ended
  cases supported : type.text?.bind fun type => Fields.get? type (rules platform) with
  | none =>
    rw [supported] at ended
    cases ended
    exact nofun
  | some rule =>
    obtain ⟨name,_,found⟩ := Option.bind_eq_some_iff.mp supported
    have sound := rules_sound platform _ (Fields.mem_of_get? found)
    rw [supported] at ended
    dsimp only at ended
    rw [Ask.bind_ok (fetch_plain given "namespace"),named] at ended
    obtain ⟨resolved,told,ended⟩ := Ask.ok_of_bind ended
    rcases resolve_placed platform options sound told with rfl | ⟨suffix,name,rfl,suffixed,names⟩
    · cases ended
      cases rule <;> exact nofun
    · obtain ⟨limits,_,ended⟩ := Ask.ok_of_bind ended
      obtain ⟨verdict,_,ended⟩ := Ask.ok_of_bind ended
      cases verdict with
      | some broken =>
        cases ended
        exact nofun
      | none =>
        obtain ⟨_,made,_,valid⟩ := @make_named host options domain stamp platform
          (Fields.put "platform" (.text platform.name) (data.given (.object [])).own) suffix name names suffixed
        obtain ⟨signal,rfl,_⟩ := valid segments
        dsimp only at ended
        rw [Ask.bind_ok made] at ended
        cases ended
        exact nofun

theorem resolve_ends (rule : EventRule) {data : Value} (plain : data.isPlain = true) (domain : String) :
    Ask.Ends host (resolve rule data (.text domain)) := by
  by_cases permitted : Permitted data rule
  · obtain ⟨suffix,written⟩ := permitted_iff.mp permitted
    obtain ⟨name,resolved,_⟩ := resolve_permitted .web (.object []) plain written
    exact ⟨_,resolved,trivial⟩
  · exact ⟨_,resolve_refused plain permitted,trivial⟩

theorem toSignal_ends (stamp : Stamp) (platform : Platform) (type : String) {domain : String} {data options : Value}
    (plain : data.isPlain = true) (given : (options.given (.object [])).isPlain = true)
    (named : ((options.given (.object [])).get "namespace").orElse (.text Signal.defaultDomain) = .text domain)
    (limited : Payload.AreLimits ((options.given (.object [])).get "limits")) :
    Ask.Ends host (toSignal stamp (.text platform.name) (.text type) data options) := by
  have kept : data.given (.object []) = data := by
    cases data <;> first | rfl | cases plain
  obtain ⟨verdict,checked⟩ := @Payload.checked_ok host _ _ limited plain
  obtain ⟨limits,read,judged⟩ := Ask.ok_of_bind checked
  unfold toSignal
  refine .after (platformOf_name platform) ?_
  rw [kept]
  dsimp only
  cases (Value.text type).text?.bind fun type => Fields.get? type (rules platform) with
  | none => exact .pure trivial
  | some rule =>
    refine .after (fetch_plain given "namespace") ?_
    rw [named]
    refine Ask.Ends.bind (resolve_ends rule plain domain) fun resolved => ?_
    cases resolved with
    | error error => exact .pure trivial
    | ok name =>
      dsimp only
      refine .after read ?_
      refine .after judged ?_
      cases verdict with
      | some error => exact .pure trivial
      | none => exact Ask.Ends.map (Signal.make_ends stamp name _ rfl rfl)

theorem toSignal_restamped (stamp stamp' : Stamp) (platform type data options : Value) :
    Agree.Outcome (Agree.Outcome Signal.Restamped) (toSignal stamp platform type data options host)
      (toSignal stamp' platform type data options host) := by
  unfold toSignal
  refine .bind_same fun known _ => ?_
  dsimp only
  cases type.text?.bind fun type => Fields.get? type (rules known) with
  | none => exact .ok (.error _)
  | some rule =>
    refine .bind_same fun domain _ => ?_
    refine .bind_same fun resolved _ => ?_
    cases resolved with
    | error error => exact .ok (.error error)
    | ok name =>
      dsimp only
      refine .bind_same fun limits _ => ?_
      refine .bind_same fun verdict _ => ?_
      cases verdict with
      | some error => exact .ok (.error _)
      | none =>
        refine .bind (Signal.make_restamped stamp stamp' _ _ _) ?_
        intro made made' same
        cases same with
        | ok here => exact .ok (.ok here)
        | error error => exact .ok (.error _)

-- What becomes of an event, in terms of its four checks: the platform takes the type, the payload asks for a permitted
-- word, the payload is within the limits, and the domain is made of segments.
structure Exact (platform : Platform) (type domain : String) (data : Value) (verdict : Option PayloadError)
    (outcome : Except EventError Signal) : Prop where
  succeeds : (∃ signal, outcome = .ok signal) ↔
    ∃ rule, Fields.get? type (rules platform) = some rule ∧ Permitted data rule ∧ verdict = none ∧ Signal.IsDomain domain
  unsupported : Fields.get? type (rules platform) = none → outcome = .error .unsupportedEvent
  refused : ∀ rule, Fields.get? type (rules platform) = some rule → ¬ Permitted data rule →
    outcome = .error (refusal rule)
  broken : ∀ rule, Fields.get? type (rules platform) = some rule → Permitted data rule →
    ∀ error, verdict = some error → outcome = .error (.payload error)
  misnamed : ∀ rule, Fields.get? type (rules platform) = some rule → Permitted data rule → verdict = none →
    ¬ Signal.IsDomain domain → outcome = .error (.signal .invalidTypeFormat)
  known : outcome ≠ .error (.signal .unknownSignal)
  made : ∀ signal, outcome = .ok signal →
    (∃ rule suffix, Fields.get? type (rules platform) = some rule ∧ Suffix data rule suffix ∧
      signal.type = Signal.joined domain suffix) ∧
    Signal.isType signal.type = true ∧ signal.data = Fields.put "platform" (.text platform.name) data.own

theorem toSignal_exact (stamp : Stamp) (platform : Platform) (type : String) {domain : String} {data options : Value}
    (plain : data.isPlain = true) (given : options.isPlain = true)
    (named : (options.get "namespace").orElse (.text Signal.defaultDomain) = .text domain)
    (limited : Payload.AreLimits (options.get "limits")) (host : Host) :
    ∃ verdict outcome, Payload.checked (options.get "limits") data host = .ok verdict ∧
      toSignal stamp (.text platform.name) (.text type) data options host = .ok outcome ∧
      Exact platform type domain data verdict outcome := by
  obtain ⟨verdict,checked⟩ := @Payload.checked_ok host _ _ limited plain
  have known : platformOf (.text platform.name) host = .ok platform := by
    have read : (Value.text platform.name).toKey host = .ok (some platform.name) := rfl
    rw [platformOf,Ask.bind_ok read,Option.bind_some,Platform.ofName?_name]
    rfl
  have kept (value : Value) (plain : value.isPlain = true) : value.given (.object []) = value := by
    cases value <;> first | rfl | cases plain
  obtain ⟨limits,read,judged⟩ := Ask.ok_of_bind checked
  refine ⟨verdict,?_⟩
  unfold toSignal
  rw [Ask.bind_ok known,kept data plain,kept options given]
  refine exists_and_left.mpr ⟨checked,?_⟩
  have looked : ((Value.text type).text?.bind fun type => Fields.get? type (rules platform)) =
      Fields.get? type (rules platform) := rfl
  rw [looked]
  cases supported : Fields.get? type (rules platform) with
  | none =>
    refine ⟨_,rfl,?_⟩
    constructor <;> simp_all
  | some rule =>
    have sound := rules_sound platform _ (Fields.mem_of_get? supported)
    dsimp only
    rw [Ask.bind_ok (fetch_plain given "namespace"),named]
    by_cases permitted : Permitted data rule
    · obtain ⟨suffix,written⟩ := permitted_iff.mp permitted
      obtain ⟨name,resolved,names⟩ := @resolve_permitted host data rule domain platform options plain suffix written
      rw [Ask.bind_ok resolved]
      dsimp only
      rw [Ask.bind_ok read,Ask.bind_ok judged]
      cases verdict with
      | some error =>
        refine ⟨_,rfl,?_⟩
        constructor <;> simp_all
      | none =>
        obtain ⟨outcome,made,invalid,valid⟩ := @make_named host options domain stamp platform
          (Fields.put "platform" (.text platform.name) data.own) suffix name names (suffix_sound sound written)
        dsimp only
        rw [Ask.bind_ok made]
        refine ⟨_,rfl,?_⟩
        by_cases segments : Signal.IsDomain domain
        · obtain ⟨signal,rfl,typed,filled⟩ := valid segments
          have accepted : Signal.isType signal.type = true := by
            rw [typed]
            exact (Signal.isType_joined (suffix_sound sound written)).mpr segments
          constructor <;> simp_all [Except.mapError]
          exact ⟨suffix,written,rfl⟩
        · obtain rfl := invalid segments
          constructor <;> simp_all [Except.mapError]
    · rw [Ask.bind_ok (resolve_refused plain permitted)]
      refine ⟨_,rfl,?_⟩
      constructor <;> simp_all
      cases rule <;> simp [refusal]

-- A hook of the web in a domain of two segments, whose payload already names a platform.
def connected : Value := .object [("platform",.text "tv"), ("hookName",.text "connected")]

def inDomain (domain : String) : Value := .object [("namespace",.text domain)]

theorem toSignal_exact_connected :
    (inDomain "my_app.ui").get "namespace" = .text "my_app.ui" ∧ ∃ verdict outcome,
      Payload.checked ((inDomain "my_app.ui").get "limits") connected .silent = .ok verdict ∧
        toSignal ⟨"1","now"⟩ (.text Platform.web.name) (.text "hook") connected (inDomain "my_app.ui") .silent =
          .ok outcome ∧
        Exact .web "hook" "my_app.ui" connected verdict outcome := by
  refine ⟨rfl,toSignal_exact ⟨"1","now"⟩ .web "hook" rfl rfl rfl ?_ .silent⟩
  exact .inl rfl

end Event

end Trifold
