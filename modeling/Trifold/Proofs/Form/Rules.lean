import Mathlib.Data.List.Forall2
import Mathlib.Data.List.Induction
import Trifold.Form.Validation
import Trifold.Proofs.Ask
import Trifold.Proofs.Fields
import Trifold.Proofs.Value.Alike

namespace Trifold.Form
open Value

-- What a rule asks for.
inductive Demand where
  | required
  | email
  | length (min : Float) (max : Option Float)
  | named (pattern : String)
  | pattern (source flags : String)

def Demand.rule : Demand → Rule
  | required => .required
  | email => .email
  | length min max => .length (number min) (ofNumber? max)
  | named name => .format (text name)
  | pattern source flags => .format (.pattern source flags)

-- What there is to say of a text, or against what is none.
def textProblem (other : FieldError) (check : String → Option FieldError) : Value → Option FieldError
  | absent | null => some .missing
  | text s => check s
  | _ => some other

def isLess (x y : Float) : Bool := Amount.below? (.number x) (.number y) == some true

def lengthProblem (min max : Float) (s : String) : Option FieldError :=
  if isLess (Float.ofNat s.length) min then some .tooShort
  else if isLess max (Float.ofNat s.length) then some .tooLong
  else none

def formatProblem (fits : String → Bool) (s : String) : Option FieldError := if fits s then none else some .invalidFormat

-- What a demand has against a value, by itself. A pattern that is written out is matched as the host does it.
def Demand.problem (host : Host) (value : Value) : Demand → Option FieldError
  | required => if isBlankField value then some .required else none
  | email => textProblem .invalidFormat (fun s => if isEmail s then none else some .invalidFormat) value
  | length min max => textProblem .invalidType (lengthProblem min (max.getD Number.infinity)) value
  | named name =>
      match Pattern.ofName? name with
      | some known => textProblem .invalidType (formatProblem known.accepts) value
      | none => some .unknownPattern
  | pattern source flags => textProblem .invalidType (formatProblem (host.finds source flags)) value

-- A pattern is looked up under its name, and no name is a pattern that finds what every record inherits.
def Demand.Named : Demand → Prop
  | named name => Pattern.ofName? name = none → inherited name = absent
  | _ => True

structure Check where
  field : String
  demand : Demand

-- Whether a value is a rule with that field and demand, however it is written down.
structure Check.Reads (written : Value) (check : Check) : Prop where
  field : written.get "field" = text check.field
  rule : Rule.ofValue? written = some check.demand.rule

def ownValue (data : Value) (name : String) : Value := ofOption (Fields.get? name (own data))

def Check.problem (host : Host) (data : Value) (check : Check) : Option FieldError :=
  check.demand.problem host (ownValue data check.field)

variable {host : Host} {data written : Value} {check : Check} {checks : List Check} {errors : Fields FieldError}

theorem textError_told {check : String → Ask (Option FieldError)} {problem : String → Option FieldError}
    (told : ∀ s, check s host = .ok (problem s)) (value : Value) :
    textError value check host = .ok (textProblem .invalidType problem value) := by
  cases value with
  | text s => exact told s
  | _ => rfl

theorem isLess_below (x y : Float) : isBelow (number x) (number y) host = .ok (isLess x y) := rfl

theorem isLess_above (x y : Float) : isAbove (number x) (number y) host = .ok (isLess y x) := rfl

theorem boundsError_numbers (s : String) (min max : Float) :
    boundsError s.length (number min) (number max) host = .ok (lengthProblem min max s) := by
  rw [boundsError,ofNat,Ask.bind_ok (isLess_below _ _),lengthProblem]
  cases isLess (Float.ofNat s.length) min with
  | true => rfl
  | false =>
    change (isAbove (number _) (number max) >>= _) host = _
    rw [Ask.bind_ok (isLess_above _ _)]
    cases isLess max (Float.ofNat s.length) <;> rfl

section

variable (record : data.isRecord = true)
include record

theorem fetchBy_name (name : String) : fetchBy (text name) data host = .ok (data.get name) := by
  cases data <;> cases record <;> rfl

theorem formatError_known {pattern : Value} {known : Pattern} (found : patternOf? pattern = some (.known known))
    (name : String) : formatError data (text name) pattern host =
      .ok (textProblem .invalidType (formatProblem known.accepts) (data.get name)) := by
  rw [formatError,found]
  dsimp only
  rw [Ask.bind_ok (fetchBy_name record name)]
  exact textError_told (fun _ => rfl) _

theorem formatError_written (source flags name : String) :
    formatError data (text name) (.pattern source flags) host =
      .ok (textProblem .invalidType (formatProblem (host.finds source flags)) (data.get name)) := by
  rw [formatError,patternOf?]
  dsimp only
  rw [Ask.bind_ok (fetchBy_name record name)]
  exact textError_told (fun _ => rfl) _

theorem ruleError_problem (named : check.demand.Named) :
    ruleError data (text check.field) check.demand.rule host = .ok (check.demand.problem host (data.get check.field)) := by
  obtain ⟨field,demand⟩ := check
  cases demand with
  | required =>
    change (isMissingField _ _ >>= _) host = .ok (Demand.problem host _ .required)
    rw [isMissingField,bind_assoc,Ask.bind_ok (fetchBy_name record field)]
    rfl
  | email =>
    change emailError _ _ host = .ok (textProblem _ _ _)
    rw [emailError,Ask.bind_ok (fetchBy_name record field)]
    cases data.get field <;> rfl
  | length min max =>
    have limit : (ofNumber? max).given (number Number.infinity) = number (max.getD Number.infinity) := by cases max <;> rfl
    change lengthError _ _ _ _ host = .ok (textProblem _ _ _)
    rw [lengthError,Ask.bind_ok (fetchBy_name record field),limit]
    exact textError_told (fun s => boundsError_numbers s _ _) _
  | named name =>
    change formatError _ _ _ host = .ok (Demand.problem host _ (.named name))
    rw [Demand.problem]
    cases known : Pattern.ofName? name with
    | some pattern => exact formatError_known record (by rw [patternOf?,known]) field
    | none =>
      have nothing : patternOf? (text name) = none := by
        rw [patternOf?,known]
        dsimp only
        rw [named known]
        rfl
      rw [formatError,nothing]
      rfl
  | pattern source flags => exact formatError_written record source flags field

end

def noted (errors : Fields FieldError) (field : String) : Option FieldError → Fields FieldError
  | some error => note errors (some field) error
  | none => errors

-- What one rule adds to the report: nothing, where the field has an error or the rule has nothing against it.
def judged (host : Host) (data : Value) (errors : Fields FieldError) (check : Check) : Fields FieldError :=
  if Fields.has check.field errors then errors else noted errors check.field (check.demand.problem host (data.get check.field))

theorem checkRule_asks (reads : check.Reads written) (errors : Fields FieldError) : checkRule data errors written host =
    if Fields.has check.field errors then .ok errors
    else (noted errors check.field <$> ruleError data (text check.field) check.demand.rule) host := by
  have fetched : written.fetch "field" host = .ok (text check.field) := by
    have given := reads.field
    cases written with
    | absent => cases given
    | null => cases given
    | _ => exact congrArg Except.ok given
  have key : toKey (text check.field) host = .ok (some check.field) := rfl
  rw [checkRule,Ask.bind_ok fetched,Ask.bind_ok key]
  change (if Fields.has check.field errors then pure errors else _ : Ask (Fields FieldError)) host = _
  split
  · rfl
  · rw [reads.rule,map_eq_pure_bind]
    refine congrFun (congrArg (bind _) (funext fun said => ?_)) host
    cases said <;> rfl

theorem checkRule_judged (record : data.isRecord = true) (reads : check.Reads written) (named : check.demand.Named)
    (errors : Fields FieldError) : checkRule data errors written host = .ok (judged host data errors check) := by
  rw [checkRule_asks reads,judged]
  split
  · rfl
  · rw [map_eq_pure_bind,Ask.bind_ok (ruleError_problem record named)]
    rfl

theorem ruleErrors_judged {rules : List Value} (record : data.isRecord = true)
    (reads : List.Forall₂ (fun written check => Check.Reads written check) rules checks)
    (named : ∀ check ∈ checks, check.demand.Named) :
    ruleErrors data (.list rules) host = .ok (checks.foldl (judged host data) []) := by
  change rules.foldlM (checkRule data) [] host = _
  generalize ([] : Fields FieldError) = errors
  induction reads generalizing errors with
  | nil => rfl
  | cons here _ ih =>
    obtain ⟨first,others⟩ := List.forall_mem_cons.mp named
    rw [List.foldlM_cons,Ask.bind_ok (checkRule_judged record here first errors),List.foldl_cons]
    exact ih others _

def heard (host : Host) (data : Value) (name : String) (check : Check) : Option FieldError :=
  if check.field = name ∧ name ≠ baseName then check.demand.problem host (data.get name) else none

theorem get?_note (errors : Fields FieldError) (field name : String) (error : FieldError) :
    Fields.get? name (note errors (some field) error) =
      if field = name ∧ name ≠ baseName then some error else Fields.get? name errors := by
  rw [note]
  by_cases based : field = baseName
  · rw [beq_iff_eq.mpr based,if_pos rfl,if_neg]
    rintro ⟨rfl,apart⟩
    exact apart based
  · rw [beq_false_of_ne based,if_neg Bool.false_ne_true,Fields.get?_put]
    by_cases here : field = name
    · rw [if_pos here,if_pos ⟨here,here ▸ based⟩]
    · rw [if_neg here,if_neg fun both => here both.1]

theorem get?_noted (errors : Fields FieldError) (field name : String) (said : Option FieldError) :
    Fields.get? name (noted errors field said) =
      (if field = name ∧ name ≠ baseName then said else none).or (Fields.get? name errors) := by
  cases said with
  | some error =>
    rw [noted,get?_note]
    split <;> rfl
  | none => rw [noted,ite_self,Option.none_or]

theorem keys_noted {errors : Fields FieldError} (once : (Fields.keys errors).Nodup) (field : String)
    (said : Option FieldError) : (Fields.keys (noted errors field said)).Nodup := by
  cases said with
  | some error =>
    rw [noted,note]
    split
    · exact once
    · exact Fields.nodup_put once
  | none => exact once

theorem get?_judged (host : Host) (data : Value) (errors : Fields FieldError) (check : Check) (name : String) :
    Fields.get? name (judged host data errors check) = (Fields.get? name errors).or (heard host data name check) := by
  rw [judged,heard]
  by_cases here : check.field = name ∧ name ≠ baseName
  · rw [if_pos here,← here.1]
    split
    · rename_i there
      obtain ⟨error,held⟩ := Option.isSome_iff_exists.mp there
      rw [held]
      rfl
    · rename_i fresh
      have none : Fields.get? check.field errors = Option.none := Option.not_isSome_iff_eq_none.mp fresh
      rw [get?_noted,if_pos ⟨rfl,here.1 ▸ here.2⟩,none,Option.or_none,Option.none_or]
  · rw [if_neg here,Option.or_none]
    split
    · rfl
    · rw [get?_noted,if_neg here,Option.none_or]

theorem get?_report (host : Host) (data : Value) (name : String) (checks : List Check) :
    Fields.get? name (checks.foldl (judged host data) []) = checks.findSome? (heard host data name) := by
  induction checks using List.reverseRecOn with
  | nil => rfl
  | append_singleton checks check ih =>
    rw [List.foldl_append,List.foldl_cons,List.foldl_nil,get?_judged,ih,List.findSome?_append,List.findSome?_singleton]

theorem keys_report (host : Host) (data : Value) (checks : List Check) :
    (Fields.keys (checks.foldl (judged host data) [])).Nodup := by
  induction checks using List.reverseRecOn with
  | nil => exact .nil
  | append_singleton checks check ih =>
    rw [List.foldl_append,List.foldl_cons,List.foldl_nil,judged]
    split
    · exact ih
    · exact keys_noted ih _ _

-- A rule that is judged as it would be by the form's own fields alone, and whose failure leaves a mark.
structure Faithful (host : Host) (data : Value) (check : Check) : Prop where
  named : check.demand.Named
  alike : check.demand.problem host (data.get check.field) = check.problem host data
  marked : check.field = baseName → check.problem host data = none

theorem get_own {name : String} (record : data.isRecord = true) (there : data.hasOwn name = true) :
    data.get name = ownValue data name := by
  obtain ⟨held,found⟩ := Option.isSome_iff_exists.mp there
  cases data with
  | record bare fields | heir base locked fields =>
    rw [ownValue,found,Value.get,show Fields.get? name fields = some held from found]
    rfl
  | ancestor => cases found
  | _ => cases record

theorem ownValue_absent {name : String} (fresh : data.hasOwn name = false) : ownValue data name = absent := by
  rw [ownValue,Option.not_isSome_iff_eq_none.mp (Bool.eq_false_iff.mp fresh)]
  rfl

theorem faithful_ordinary (record : data.isRecord = true) (named : check.demand.Named)
    (read : data.hasOwn check.field = true ∨ data.get check.field = absent) (apart : check.field ≠ baseName) :
    Faithful host data check := by
  have same : data.get check.field = ownValue data check.field := by
    cases there : data.hasOwn check.field with
    | true => exact get_own record there
    | false =>
      rw [ownValue_absent there]
      exact read.resolve_left (by rw [there]; exact Bool.false_ne_true)
  exact ⟨named,congrArg (check.demand.problem host) same,fun based => absurd based apart⟩

def Demand.unmet : Demand → FieldError
  | required => .required
  | email | length .. | pattern .. => .missing
  | named name => if (Pattern.ofName? name).isSome then .missing else .unknownPattern

theorem problem_absent (demand : Demand) : demand.problem host absent = some demand.unmet := by
  cases demand with
  | named name =>
    rw [Demand.problem,Demand.unmet]
    cases Pattern.ofName? name <;> rfl
  | _ => rfl

-- The report of a form: no errors where every rule passes by itself, and else the fields with a rule that fails, each with
-- the error of the first such rule.
structure Reported (host : Host) (data : Value) (checks : List Check) (errors : Fields FieldError) : Prop where
  passed : errors = [] ↔ ∀ check ∈ checks, check.problem host data = none
  listed : ∀ name, name ∈ Fields.keys errors ↔ ∃ check ∈ checks, check.field = name ∧ check.problem host data ≠ none
  first : ∀ name error, Fields.get? name errors = some error ↔ ∃ before check after, checks = before ++ check :: after ∧
    check.field = name ∧ check.problem host data = some error ∧
      ∀ earlier ∈ before, earlier.field = name → earlier.problem host data = none
  once : (Fields.keys errors).Nodup

theorem heard_faithful (faithful : Faithful host data check) (name : String) :
    heard host data name check = if check.field = name then check.problem host data else none := by
  rw [heard]
  by_cases here : check.field = name
  · subst here
    rw [if_pos rfl]
    by_cases based : check.field = baseName
    · rw [if_neg fun both => both.2 based,faithful.marked based]
    · rw [if_pos ⟨rfl,based⟩,faithful.alike]
  · rw [if_neg here,if_neg fun both => here both.1]

theorem heard_eq_some (faithful : Faithful host data check) {name : String} {error : FieldError} :
    heard host data name check = some error ↔ check.field = name ∧ check.problem host data = some error := by
  rw [heard_faithful faithful,Option.ite_none_right_eq_some]

theorem heard_eq_none (faithful : Faithful host data check) {name : String} :
    heard host data name check = none ↔ (check.field = name → check.problem host data = none) := by
  rw [heard_faithful faithful]
  split <;> simp_all

theorem reported_judged (faithful : ∀ check ∈ checks, Faithful host data check) :
    Reported host data checks (checks.foldl (judged host data) []) := by
  have listed (name : String) : name ∈ Fields.keys (checks.foldl (judged host data) []) ↔
      ∃ check ∈ checks, check.field = name ∧ check.problem host data ≠ none := by
    rw [← not_iff_not,← Fields.get?_eq_none,get?_report,List.findSome?_eq_none_iff]
    push Not
    exact forall₂_congr fun check there => heard_eq_none (faithful check there)
  refine ⟨?_,listed,?_,keys_report host data checks⟩
  · have empty : checks.foldl (judged host data) [] = [] ↔ ∀ name, name ∉ Fields.keys (checks.foldl (judged host data) []) := by
      rw [← List.eq_nil_iff_forall_not_mem,Fields.keys,List.map_eq_nil_iff]
    rw [empty]
    constructor
    · intro none check there
      by_contra fails
      exact none check.field ((listed check.field).mpr ⟨check,there,rfl,fails⟩)
    · intro passes name there
      obtain ⟨check,inside,_,fails⟩ := (listed name).mp there
      exact fails (passes check inside)
  · intro name error
    rw [get?_report,List.findSome?_eq_some_iff]
    constructor
    · rintro ⟨before,check,after,rfl,said,silent⟩
      obtain ⟨here,fails⟩ := (heard_eq_some (faithful check (by simp))).mp said
      exact ⟨before,check,after,rfl,here,fails,fun earlier there =>
        (heard_eq_none (faithful earlier (by simp [there]))).mp (silent earlier there)⟩
    · rintro ⟨before,check,after,rfl,here,fails,silent⟩
      exact ⟨before,check,after,rfl,(heard_eq_some (faithful check (by simp))).mpr ⟨here,fails⟩,fun earlier there =>
        (heard_eq_none (faithful earlier (by simp [there]))).mpr (silent earlier there)⟩

-- A list of rules that are judged so is reported so, each rule as it fails or passes by itself.
theorem ruleErrors_reported {rules : List Value} (record : data.isRecord = true)
    (reads : List.Forall₂ (fun written check => Check.Reads written check) rules checks)
    (faithful : ∀ check ∈ checks, Faithful host data check) :
    (∃ errors, ruleErrors data (.list rules) host = .ok errors ∧ Reported host data checks errors) ∧
      ∀ check ∈ checks, ruleError data (text check.field) check.demand.rule host = .ok (check.problem host data) ∧
        (data.hasOwn check.field = false → check.problem host data = some check.demand.unmet) := by
  refine ⟨⟨_,ruleErrors_judged record reads fun check there => (faithful check there).named,reported_judged faithful⟩,?_⟩
  intro check there
  obtain ⟨named,alike,_⟩ := faithful check there
  refine ⟨(ruleError_problem record named).trans (congrArg Except.ok alike),fun fresh => ?_⟩
  rw [Check.problem,ownValue_absent fresh,problem_absent]

def counting : Host :=
  { Host.silent with finds := fun source _ s => source == "^\\d+$" && !s.isEmpty && s.toList.all Text.isDigit }

-- A form with a field that goes by an inherited name, one that fails, one that is a number as the host reads it, and one
-- that is not there and is asked for twice.
def signUp : Value := object [("constructor",text "Ann"),("email",text "ann"),("code",text "42")]

def signUpRules : List Value :=
  [object [("kind",text "required"),("field",text "constructor")],
    object [("field",text "email"),("kind",text "email")],
    object [("kind",text "format"),("field",text "code"),("pattern",.pattern "^\\d+$" "g")],
    object [("kind",text "length"),("field",text "note"),("min",number 2)],
    object [("kind",text "format"),("field",text "note"),("pattern",text "slug")]]

def signUpChecks : List Check :=
  [⟨"constructor",.required⟩,⟨"email",.email⟩,⟨"code",.pattern "^\\d+$" "g"⟩,⟨"note",.length 2 none⟩,⟨"note",.named "slug"⟩]

theorem ruleErrors_reported_signUp : signUp.isRecord = true ∧
    List.Forall₂ (fun written check => Check.Reads written check) signUpRules signUpChecks ∧
    (∀ check ∈ signUpChecks, Faithful counting signUp check) ∧
    (∃ errors, ruleErrors signUp (.list signUpRules) counting = .ok errors ∧
      Reported counting signUp signUpChecks errors) ∧
    Check.problem counting signUp ⟨"code",.pattern "^\\d+$" "g"⟩ = none := by
  have record : signUp.isRecord = true := rfl
  have reads : List.Forall₂ (fun written check => Check.Reads written check) signUpRules signUpChecks :=
    .cons ⟨rfl,rfl⟩ <| .cons ⟨rfl,rfl⟩ <| .cons ⟨rfl,rfl⟩ <| .cons ⟨rfl,rfl⟩ <| .cons ⟨rfl,rfl⟩ .nil
  have faithful : ∀ check ∈ signUpChecks, Faithful counting signUp check := by
    refine List.forall_mem_cons.mpr ⟨faithful_ordinary record trivial (.inl rfl) (by decide),?_⟩
    refine List.forall_mem_cons.mpr ⟨faithful_ordinary record trivial (.inl rfl) (by decide),?_⟩
    refine List.forall_mem_cons.mpr ⟨faithful_ordinary record trivial (.inl rfl) (by decide),?_⟩
    refine List.forall_mem_cons.mpr ⟨faithful_ordinary record trivial (.inr rfl) (by decide),?_⟩
    refine List.forall_mem_singleton.mpr (faithful_ordinary record ?_ (.inr rfl) (by decide))
    intro unknown
    cases unknown
  exact ⟨record,reads,faithful,(ruleErrors_reported record reads faithful).1,by decide +kernel⟩

def inheritedRule : Value := object [("kind",text "required"),("field",text "toString")]

def inheritedCheck : Check := ⟨"toString",.required⟩

theorem ruleErrors_inherited : inheritedCheck.Reads inheritedRule ∧
    inheritedCheck.problem .silent (object []) = some .required ∧
    ruleErrors (object []) (.list [inheritedRule]) .silent = .ok [] ∧ ¬ Reported .silent (object []) [inheritedCheck] [] := by
  refine ⟨⟨rfl,rfl⟩,rfl,rfl,fun reported => ?_⟩
  cases reported.passed.mp rfl _ List.mem_cons_self

theorem formatError_inherited {name : String} (record : data.isRecord = true) (unknown : Pattern.ofName? name = none)
    (there : inherited name ≠ absent) (field : String) :
    formatError data (text field) (text name) host ≠ .ok (some .unknownPattern) := by
  intro told
  have found : patternOf? (text name) = some (.other (inherited name)) := by
    rw [patternOf?,unknown]
    dsimp only
    cases held : inherited name with
    | absent => exact absurd held there
    | _ => rfl
  rw [formatError,found] at told
  dsimp only at told
  rw [Ask.bind_ok (fetchBy_name record field)] at told
  cases read : data.get field with
  | text s =>
    rw [read,textError] at told
    obtain ⟨fits,_,told⟩ := Ask.ok_of_bind told
    cases fits <;> cases told
  | _ =>
    rw [read] at told
    cases told

theorem ruleError_inherited (record : data.isRecord = true) (inherits : ¬ check.demand.Named) :
    check.problem host data = some .unknownPattern ∧
      ruleError data (text check.field) check.demand.rule host ≠ .ok (some .unknownPattern) := by
  obtain ⟨field,demand⟩ := check
  cases demand with
  | named name =>
    obtain ⟨unknown,there⟩ := Classical.not_imp.mp inherits
    refine ⟨?_,formatError_inherited record unknown there field⟩
    rw [Check.problem,Demand.problem,unknown]
  | _ => exact absurd trivial inherits

theorem Reported.alone (reported : Reported host data [check] errors) :
    Fields.get? check.field errors = check.problem host data := by
  cases said : check.problem host data with
  | some error => exact (reported.first _ _).mpr ⟨[],check,[],rfl,rfl,said,List.forall_mem_nil _⟩
  | none =>
    rw [Fields.get?_eq_none,reported.listed]
    rintro ⟨other,there,_,fails⟩
    cases List.mem_singleton.mp there
    exact fails said

theorem Reported.said {said : Option FieldError} {error : FieldError}
    (reported : Reported host data [check] (noted [] check.field said)) (fails : check.problem host data = some error) :
    said = some error := by
  have alone := (get?_noted [] check.field check.field said).symm.trans reported.alone
  rw [fails] at alone
  split at alone
  · exact (Option.or_none).symm.trans alone
  · cases alone

theorem faithful_of_heard (record : data.isRecord = true) (named : check.demand.Named)
    (same : heard host data check.field check = check.problem host data) : Faithful host data check := by
  rw [heard] at same
  by_cases based : check.field = baseName
  · rw [if_neg fun both => both.2 based] at same
    refine ⟨named,?_,fun _ => same.symm⟩
    cases there : data.hasOwn check.field with
    | true => rw [get_own record there,Check.problem]
    | false =>
      rw [Check.problem,ownValue_absent there,problem_absent] at same
      cases same
  · rw [if_pos ⟨rfl,based⟩] at same
    exact ⟨named,same,fun here => absurd here based⟩

-- One rule alone is reported so just where it is judged so.
theorem reported_alone_iff (record : data.isRecord = true) (reads : check.Reads written) :
    (∃ errors, ruleErrors data (.list [written]) host = .ok errors ∧ Reported host data [check] errors) ↔
      Faithful host data check := by
  constructor
  · rintro ⟨errors,told,reported⟩
    obtain ⟨_,told,ended⟩ := Ask.ok_of_bind (show (checkRule data [] written >>= pure) host = .ok errors from told)
    cases ended
    by_cases named : check.demand.Named
    · rw [checkRule_judged record reads named] at told
      cases told
      refine faithful_of_heard record named (Eq.trans ?_ reported.alone)
      rw [get?_judged]
      rfl
    · obtain ⟨fails,other⟩ := @ruleError_inherited host data check record named
      rw [checkRule_asks reads,map_eq_pure_bind] at told
      obtain ⟨said,ran,ended⟩ := Ask.ok_of_bind told
      cases ended
      exact absurd (reported.said fails ▸ ran) other
  · intro faithful
    have all := List.forall_mem_singleton.mpr faithful
    exact ⟨_,ruleErrors_judged record (.cons reads .nil) fun check there => (all check there).named,reported_judged all⟩

end Trifold.Form
