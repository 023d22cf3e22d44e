import Trifold.Proofs.Ask
import Trifold.Signal.Basic

namespace Trifold

namespace Text

theorem splitChars_append (separator : Char) (before after : List Char) :
    splitChars separator (before ++ separator :: after) = splitChars separator before ++ splitChars separator after := by
  induction before with
  | nil => simp [splitChars]
  | cons c rest ih =>
    rw [List.cons_append,splitChars,splitChars]
    by_cases here : c = separator
    · rw [if_pos here,if_pos here,ih,List.cons_append]
    · rw [if_neg here,if_neg here,ih]
      cases parts : splitChars separator rest with
      | nil => exact absurd parts (splitChars_ne_nil separator rest)
      | cons part parts => rfl

theorem splitChars_whole {separator : Char} {chars : List Char} (without : separator ∉ chars) :
    splitChars separator chars = [chars] := by
  induction chars with
  | nil => rfl
  | cons c rest ih =>
    obtain ⟨apart,without⟩ := not_or.mp (mt List.mem_cons.mpr without)
    rw [splitChars,if_neg (Ne.symm apart),ih without]

theorem occursIn_append (c : Char) (before after : List Char) : occursIn [c] (before ++ c :: after) = true := by
  induction before with
  | nil => simp [occursIn,List.isPrefixOf]
  | cons d rest ih => rw [List.cons_append,occursIn,ih,Bool.or_true]

end Text

namespace Signal
open Value

-- Every part of a domain between its points is a segment.
def IsDomain (domain : String) : Prop := ∀ part ∈ Text.splitChars '.' domain.toList, isSegmentChars part = true

instance (domain : String) : Decidable (IsDomain domain) := by unfold IsDomain; infer_instance

-- A segment has no point in it, so it is a domain of one part.
theorem isDomain_of_isSegment {s : String} (segment : isSegment s = true) : IsDomain s := by
  have without : '.' ∉ s.toList := by
    intro there
    have letters (chars : List Char) (segment : isSegmentChars chars = true) : ∀ c ∈ chars, isSegmentChar c = true := by
      cases chars with
      | nil => exact List.forall_mem_nil _
      | cons first rest =>
        obtain ⟨small,others⟩ := Bool.and_eq_true_iff.mp segment
        refine List.forall_mem_cons.mpr ⟨?_,List.all_eq_true.mp others⟩
        rw [isSegmentChar,small,Bool.true_or,Bool.true_or]
    exact absurd (letters _ segment _ there) (by decide)
  intro part there
  rw [Text.splitChars_whole without,List.mem_singleton] at there
  exact there ▸ segment

-- What follows a domain: at least an entity and an action, each a segment.
def IsSuffix (suffix : String) : Prop :=
  2 ≤ (Text.splitChars '.' suffix.toList).length ∧ ∀ part ∈ Text.splitChars '.' suffix.toList, isSegmentChars part = true

instance (suffix : String) : Decidable (IsSuffix suffix) := by unfold IsSuffix; infer_instance

def joined (domain suffix : String) : String := domain ++ "." ++ suffix

theorem joined_chars (domain suffix : String) : (joined domain suffix).toList = domain.toList ++ '.' :: suffix.toList := by
  simp [joined]

theorem isType_joined {domain suffix : String} (sound : IsSuffix suffix) :
    isType (joined domain suffix) = true ↔ IsDomain domain := by
  obtain ⟨counted,segments⟩ := sound
  have some : 1 ≤ (Text.splitChars '.' domain.toList).length :=
    List.length_pos_iff.mpr (Text.splitChars_ne_nil '.' domain.toList)
  have enough : 3 ≤ (Text.splitChars '.' domain.toList ++ Text.splitChars '.' suffix.toList).length := by
    rw [List.length_append]
    omega
  rw [isType,joined_chars,Text.splitChars_append,Bool.and_eq_true,decide_eq_true_eq,List.all_append,Bool.and_eq_true,
    List.all_eq_true,List.all_eq_true]
  exact ⟨fun valid => valid.2.1,fun valid => ⟨enough,valid,segments⟩⟩

theorem contains_point (domain suffix : String) : Text.contains "." (joined domain suffix) = true := by
  rw [Text.contains,joined_chars]
  exact Text.occursIn_append '.' domain.toList suffix.toList

theorem ofName?_joined (domain suffix : String) : StandardSignal.ofName? (joined domain suffix) = none := by
  rw [StandardSignal.ofName?,List.find?_eq_none]
  intro signal _ named
  have same : signal.name = joined domain suffix := beq_iff_eq.mp named
  have pointed := contains_point domain suffix
  rw [← same] at pointed
  cases signal <;> exact absurd pointed (by decide)

variable {host : Host} {options : Value} {domain : String}

theorem standard?_text (name : String) : standard? (.text name) host = .ok (StandardSignal.ofName? name) := rfl

theorem resolveType_standard (signal : StandardSignal) (there : options.isMissing = false)
    (named : (options.get "namespace").orElse (.text defaultDomain) = .text domain) :
    resolveType (.text signal.name) options host = .ok (.ok (joined domain signal.path)) := by
  have read : options.fetch "namespace" = pure (options.get "namespace") := by
    cases options <;> first | rfl | cases there
  have typed : standardType signal (options.get "namespace") host = .ok (joined domain signal.path) := by
    rw [standardType,named]
    rfl
  have known : standard? (.text signal.name) host = .ok (some signal) := by
    rw [standard?_text,StandardSignal.ofName?_name]
  rw [resolveType,Ask.bind_ok known,read]
  exact Ask.bind_ok typed

theorem resolveType_joined (domain suffix : String) :
    resolveType (.text (joined domain suffix)) options host = .ok (.ok (joined domain suffix)) := by
  have unknown : standard? (.text (joined domain suffix)) host = .ok none := by
    rw [standard?_text,ofName?_joined]
  have pointed : hasPoint (.text (joined domain suffix)) host = .ok true :=
    congrArg Except.ok (contains_point domain suffix)
  rw [resolveType,Ask.bind_ok unknown]
  exact Ask.bind_ok pointed

theorem resolveType_ends (name : String) {options : Value} {domain : String} (there : options.isMissing = false)
    (named : (options.get "namespace").orElse (.text defaultDomain) = .text domain) :
    Ask.Ends host (resolveType (.text name) options) := by
  cases known : StandardSignal.ofName? name with
  | some standard =>
    have called := List.find?_some known
    obtain rfl : standard.name = name := beq_iff_eq.mp called
    exact ⟨_,resolveType_standard standard there named,trivial⟩
  | none =>
    have unknown : standard? (.text name) host = .ok none := (standard?_text name).trans (congrArg Except.ok known)
    have pointed : hasPoint (.text name) host = .ok (Text.contains "." name) := rfl
    unfold resolveType
    refine .after unknown (.after pointed ?_)
    split
    · exact Ask.Ends.map ⟨name,rfl,trivial⟩
    · exact .pure trivial

theorem make_ends (stamp : Stamp) (name : String) (data : Value) {options : Value} {domain : String}
    (there : options.isMissing = false)
    (named : (options.get "namespace").orElse (.text defaultDomain) = .text domain) :
    Ask.Ends host (make stamp (.text name) data options) := by
  have kept : options.given (.object []) = options := by
    cases options <;> first | rfl | cases there
  have fetched : options.fetch "source" host = .ok (options.get "source") := by
    cases options <;> first | rfl | cases there
  unfold make
  rw [kept]
  refine .bind (resolveType_ends name there named) fun resolved => ?_
  cases resolved with
  | error error => exact .pure trivial
  | ok type =>
    dsimp only
    split
    · exact Ask.Ends.map (.after fetched (.pure trivial))
    · exact .pure trivial

end Signal

end Trifold
