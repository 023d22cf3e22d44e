import Trifold.Coordinator.Settings
import Trifold.Proofs.Ask
import Trifold.Proofs.Signal.Type
import Trifold.Proofs.Value.Alike

namespace Trifold
open Value

def BadSetting.field : BadSetting → String
  | timeout _ => "timeoutMs"
  | noPlatforms | unknownPlatform _ => "platforms"
  | namespaceForm _ => "namespace"

namespace Settings

-- A setting as it may be written down: nothing, a plain value, or a list of plain values.
inductive Scalar : Value → Prop
  | null : Scalar .null
  | bool (truth : Bool) : Scalar (.bool truth)
  | number (x : Float) : Scalar (.number x)
  | text (s : String) : Scalar (.text s)

inductive Written : Value → Prop
  | unset : Written .absent
  | scalar {value : Value} (scalar : Scalar value) : Written value
  | list {items : List Value} (each : ∀ item ∈ items, Scalar item) : Written (.list items)

-- The settings a host may choose, with what they stand for.
inductive Times : Value → Float → Prop
  | unset : Times .absent Fanout.defaultTimeout
  | whole {x : Float} (integer : Number.isInteger x = true) (positive : 0 < x) : Times (.number x) x

def named (platforms : List Platform) : List Value := platforms.map fun platform => .text platform.name

inductive Mentions : Value → List Platform → Prop
  | unset : Mentions .absent Platform.all
  | listed {mentioned : List Platform} (some : mentioned ≠ []) : Mentions (.list (named mentioned)) mentioned

inductive Domains : Value → String → Prop
  | unset : Domains .absent Signal.defaultDomain
  | segment {s : String} (valid : Signal.isSegment s = true) : Domains (.text s) s

-- The platforms that are mentioned, each once, in the order of their first mention.
structure Chosen (mentioned chosen : List Platform) : Prop where
  once : chosen.Nodup
  all : ∀ platform, platform ∈ chosen ↔ platform ∈ mentioned
  ordered : chosen.Pairwise fun platform later => mentioned.idxOf platform < mentioned.idxOf later

-- A guard lets through what fits, and stops everything else with a problem of its setting.
def Guards {α : Type} (host : Host) (field : String) (Fits : α → Prop) (guard : Ask α) : Prop :=
  (∃ a, Fits a ∧ guard host = .ok a) ∨
    (¬ ∃ a, Fits a) ∧ ∃ problem : BadSetting, problem.field = field ∧ guard host = .error (.badSetting problem)

variable {host : Host} {value : Value}

theorem Scalar.toText (scalar : Scalar value) : Ask.Ends host value.toText := by cases scalar <;> exact .pure _

theorem Scalar.itemText (scalar : Scalar value) : Ask.Ends host (Alike.itemText value) := by
  cases scalar <;> exact .pure _

theorem Written.toText (written : Written value) : Ask.Ends host value.toText := by
  cases written with
  | unset => exact .pure _
  | scalar scalar => exact scalar.toText
  | list each =>
    rw [Value.toText,Alike.itemTexts_mapM]
    exact Ask.Ends.map (Ask.Ends.mapM fun item there => (each item there).itemText)

theorem refused {α : Type} {field : String} {Fits : α → Prop} {guard : Ask α} (problem : String → BadSetting)
    (about : ∀ given, (problem given).field = field) (written : Written value) (unfit : ¬ ∃ a, Fits a)
    (stops : guard = do bad (problem (← value.toText))) : Guards host field Fits guard := by
  obtain ⟨given,said,-⟩ := @Written.toText host value written
  refine .inr ⟨unfit,problem given,about given,?_⟩
  rw [stops]
  exact Ask.bind_ok said

theorem timeoutOf_guards (written : Written value) : Guards host "timeoutMs" (Times value) (timeoutOf value) := by
  cases value with
  | absent => exact .inl ⟨_,.unset,rfl⟩
  | number x =>
    by_cases fits : (Number.isInteger x && decide (0 < x)) = true
    · obtain ⟨integer,positive⟩ := Bool.and_eq_true_iff.mp fits
      refine .inl ⟨x,.whole integer (of_decide_eq_true positive),?_⟩
      rw [timeoutOf,if_pos fits]
      rfl
    · refine refused .timeout (fun _ => rfl) written ?_ ?_
      · rintro ⟨_,_ | ⟨integer,positive⟩⟩
        exact fits (Bool.and_eq_true_iff.mpr ⟨integer,decide_eq_true positive⟩)
      · rw [timeoutOf,if_neg fits]
        rfl
  | _ =>
    refine refused .timeout (fun _ => rfl) written ?_ rfl
    rintro ⟨_,fits⟩
    cases fits

theorem domainOf_guards (written : Written value) : Guards host "namespace" (Domains value) (domainOf value) := by
  cases value with
  | absent => exact .inl ⟨_,.unset,rfl⟩
  | text s =>
    by_cases valid : Signal.isSegment s = true
    · refine .inl ⟨s,.segment valid,?_⟩
      rw [domainOf,if_pos valid]
      rfl
    · refine refused .namespaceForm (fun _ => rfl) written ?_ ?_
      · rintro ⟨_,_ | there⟩
        exact valid there
      · rw [domainOf,if_neg valid]
        rfl
  | _ =>
    refine refused .namespaceForm (fun _ => rfl) written ?_ rfl
    rintro ⟨_,fits⟩
    cases fits

theorem Domains.isDomain {s : String} (domain : Domains value s) : Signal.IsDomain s := by
  cases domain with
  | unset => decide
  | segment valid => exact Signal.isDomain_of_isSegment valid

theorem Chosen.mention {mentioned chosen : List Platform} (choice : Chosen mentioned chosen) (platform : Platform) :
    Chosen (mentioned ++ [platform]) (if platform ∈ chosen then chosen else chosen ++ [platform]) := by
  obtain ⟨once,all,ordered⟩ := choice
  have kept : chosen.Pairwise fun platform' later =>
      (mentioned ++ [platform]).idxOf platform' < (mentioned ++ [platform]).idxOf later := by
    refine List.Pairwise.imp_of_mem ?_ ordered
    intro platform' later here there before
    rwa [List.idxOf_append_of_mem ((all _).mp here),List.idxOf_append_of_mem ((all _).mp there)]
  by_cases known : platform ∈ chosen
  · rw [if_pos known]
    refine ⟨once,?_,kept⟩
    intro platform'
    rw [all,List.mem_append,List.mem_singleton]
    exact ⟨.inl,Or.rec id fun same => same ▸ (all _).mp known⟩
  · rw [if_neg known]
    have unseen : platform ∉ mentioned := mt (all _).mpr known
    refine ⟨?_,?_,?_⟩
    · exact List.nodup_append.mpr ⟨once,List.nodup_singleton _,by
        rintro _ here _ there rfl
        exact known (List.mem_singleton.mp there ▸ here)⟩
    · intro platform'
      rw [List.mem_append,List.mem_append,all]
    · refine List.pairwise_append.mpr ⟨kept,List.pairwise_singleton _ _,?_⟩
      intro platform' here later there
      obtain rfl := List.mem_singleton.mp there
      have seen := (all _).mp here
      rw [List.idxOf_append_of_mem seen,List.idxOf_append_of_notMem unseen]
      have bounded := List.idxOf_lt_length_iff.mpr seen
      omega

theorem ofValue?_eq_some {platform : Platform} : Platform.ofValue? value = some platform ↔ value = .text platform.name := by
  constructor
  · intro known
    obtain ⟨s,given,found⟩ := Option.bind_eq_some_iff.mp known
    have same := List.find?_some found
    obtain rfl : platform.name = s := beq_iff_eq.mp same
    cases value <;> cases given
    rfl
  · rintro rfl
    exact Platform.ofName?_name platform

theorem platformsFrom_guards {items : List Value} (each : ∀ item ∈ items, Scalar item) {seen chosen : List Platform}
    (choice : Chosen seen chosen) :
    Guards host "platforms" (fun final => ∃ more, items = named more ∧ Chosen (seen ++ more) final)
      (platformsFrom chosen items) := by
  induction items generalizing seen chosen with
  | nil => exact .inl ⟨chosen,⟨[],rfl,(List.append_nil seen).symm ▸ choice⟩,rfl⟩
  | cons item rest ih =>
    obtain ⟨here,later⟩ := List.forall_mem_cons.mp each
    rw [platformsFrom]
    cases known : Platform.ofValue? item with
    | none =>
      refine refused .unknownPlatform (fun _ => rfl) (.scalar here) ?_ rfl
      rintro ⟨final,more,listed,-⟩
      cases more with
      | nil => cases listed
      | cons platform more =>
        obtain ⟨rfl,-⟩ := List.cons.inj listed
        cases known.symm.trans (ofValue?_eq_some.mpr rfl)
    | some platform =>
      obtain rfl := ofValue?_eq_some.mp known
      rcases ih later (choice.mention platform) with ⟨final,⟨more,rfl,listed⟩,ended⟩ | ⟨unfit,stops⟩
      · refine .inl ⟨final,⟨platform :: more,rfl,?_⟩,ended⟩
        rwa [List.append_assoc] at listed
      · refine .inr ⟨?_,stops⟩
        rintro ⟨final,more,listed,listed'⟩
        cases more with
        | nil => cases listed
        | cons platform' more =>
          obtain ⟨same,rest⟩ := List.cons.inj listed
          obtain rfl : platform' = platform := by
            have named := ofValue?_eq_some.mpr same
            exact Option.some.inj (named.symm.trans known)
          exact unfit ⟨final,more,rest,by rwa [List.append_assoc]⟩

theorem Mentions.of_list {items : List Value} {mentioned : List Platform} (mentions : Mentions (.list items) mentioned) :
    mentioned ≠ [] ∧ items = named mentioned := by
  generalize same : Value.list items = value at mentions
  cases mentions with
  | unset => cases same
  | listed some => exact ⟨some,Value.list.inj same⟩

-- The platforms of a setting.
def Takes (value : Value) (chosen : List Platform) : Prop := ∃ mentioned, Mentions value mentioned ∧ Chosen mentioned chosen

theorem platformsOf_guards (written : Written value) : Guards host "platforms" (Takes value) (platformsOf value) := by
  have shapeless (unfit : ¬ ∃ chosen, Takes value chosen) (stops : platformsOf value = bad .noPlatforms) :
      Guards host "platforms" (Takes value) (platformsOf value) := .inr ⟨unfit,.noPlatforms,rfl,stops ▸ rfl⟩
  cases value with
  | absent =>
    exact .inl ⟨Platform.all,⟨Platform.all,.unset,by decide,fun _ => Iff.rfl,by decide⟩,rfl⟩
  | list items =>
    cases items with
    | nil =>
      refine shapeless ?_ rfl
      rintro ⟨chosen,mentioned,mentions,-⟩
      obtain ⟨some,listed⟩ := mentions.of_list
      exact some (List.map_eq_nil_iff.mp listed.symm)
    | cons first rest =>
      have each : ∀ item ∈ first :: rest, Scalar item := by
        cases written with
        | scalar scalar => cases scalar
        | list each => exact each
      have begun : Chosen [] [] := ⟨.nil,fun _ => Iff.rfl,.nil⟩
      rcases @platformsFrom_guards host _ each _ _ begun with ⟨final,⟨more,listed,choice⟩,ended⟩ | ⟨unfit,stops⟩
      · have some : more ≠ [] := by
          rintro rfl
          cases listed
        exact .inl ⟨final,⟨more,listed ▸ .listed some,choice⟩,ended⟩
      · refine .inr ⟨?_,stops⟩
        rintro ⟨chosen,mentioned,mentions,choice⟩
        exact unfit ⟨chosen,mentioned,mentions.of_list.2,choice⟩
  | _ =>
    refine shapeless ?_ rfl
    rintro ⟨chosen,mentioned,mentions,-⟩
    cases mentions

theorem Takes.ne_nil {chosen : List Platform} (takes : Takes value chosen) : chosen ≠ [] := by
  obtain ⟨mentioned,mentions,choice⟩ := takes
  have some : mentioned ≠ [] := by
    cases mentions with
    | unset => decide
    | listed some => exact some
  obtain ⟨platform,there⟩ := List.exists_mem_of_ne_nil mentioned some
  exact List.ne_nil_of_mem ((choice.all platform).mpr there)

def setting (config : Value) (key : String) : Value := (config.given (.object [])).get key

-- The first setting that nothing fits.
inductive Unfit (config : Value) : String → Prop
  | timeout (unfit : ¬ ∃ x, Times (setting config "timeoutMs") x) : Unfit config "timeoutMs"
  | platforms {x : Float} (times : Times (setting config "timeoutMs") x)
      (unfit : ¬ ∃ chosen, Takes (setting config "platforms") chosen) : Unfit config "platforms"
  | domain {x : Float} {chosen : List Platform} (times : Times (setting config "timeoutMs") x)
      (takes : Takes (setting config "platforms") chosen) (unfit : ¬ ∃ s, Domains (setting config "namespace") s) :
      Unfit config "namespace"

structure Accepted (config : Value) (settings : Settings) : Prop where
  timeout : Times (setting config "timeoutMs") settings.timeout
  platforms : Takes (setting config "platforms") settings.platforms
  domain : Domains (setting config "namespace") settings.domain

theorem resolve_guards {own config : Value} (there : config ≠ .null)
    (written : ∀ key ∈ ["timeoutMs", "platforms", "namespace"], Written (setting config key)) (host : Host) :
    (∃ problem : BadSetting, resolve own config host = .error (.badSetting problem) ∧ Unfit config problem.field) ∨
      ∃ settings, resolve own config host = .ok settings ∧ Accepted config settings ∧
        settings.environment = (setting config "env").orElse own := by
  have read : (config.given (.object [])).fetch "timeoutMs" host = .ok (setting config "timeoutMs") := by
    cases config <;> first | rfl | exact absurd rfl there
  unfold resolve
  rw [Ask.bind_ok read]
  rcases @timeoutOf_guards host _ (written "timeoutMs" (by decide)) with ⟨x,times,timed⟩ | ⟨unfit,problem,about,stops⟩
  · rw [Ask.bind_ok timed]
    rcases @platformsOf_guards host _ (written "platforms" (by decide)) with ⟨chosen,takes,taken⟩ | ⟨unfit,problem,about,stops⟩
    · rw [← setting,Ask.bind_ok taken]
      rcases @domainOf_guards host _ (written "namespace" (by decide)) with ⟨s,domain,ended⟩ | ⟨unfit,problem,about,stops⟩
      · rw [← setting,Ask.bind_ok ended]
        exact .inr ⟨_,rfl,⟨times,takes,domain⟩,rfl⟩
      · exact .inl ⟨problem,Ask.bind_error stops,about ▸ .domain times takes unfit⟩
    · exact .inl ⟨problem,Ask.bind_error stops,about ▸ .platforms times unfit⟩
  · exact .inl ⟨problem,Ask.bind_error stops,about ▸ .timeout unfit⟩

end Settings

end Trifold
