import Trifold.Proofs.Style.Fold

namespace Trifold.Registry
open Value

-- As registries are declared: every style is named by a text and extends nothing or what goes by a text.
structure Typed (registry : Registry) : Prop where
  names : ∀ style ∈ registry, ∃ name, style.name = text name
  parents : ∀ style ∈ registry, style.parent = absent ∨ ∃ name, style.parent = text name

-- What the style of that name extends, where both are registered.
def next? (registry : Registry) (name : String) : Option String :=
  (registry.find? (text name)).bind fun style => style.parent.text?.filter fun other => registry.knows (text other)

-- From a name along what each extends, up to the last name.
inductive Walk (registry : Registry) : String → List String → String → Prop
  | start {name : String} (known : registry.knows (text name) = true) : Walk registry name [name] name
  | step {name other last : String} {walk : List String} (next : registry.next? name = some other)
      (rest : Walk registry other walk last) : Walk registry name (name :: walk) last

def Ends (registry : Registry) (name : String) (walk : List String) : Prop :=
  ∃ last, Walk registry name walk last ∧ registry.next? last = none

-- Up to and including the first name that comes up again.
def Revisits (registry : Registry) (name : String) (walk : List String) : Prop :=
  ∃ before again, Walk registry name walk again ∧ walk = before ++ [again] ∧ before.Nodup ∧ again ∈ before

def attributesOf (registry : Registry) (name : String) : Value :=
  (registry.find? (text name)).elim absent (·.attributes)

-- The styles along a walk with the outermost first, and the overrides behind them.
def layers (registry : Registry) (walk : List String) (overrides : Value) : List Style :=
  (walk.reverse.map registry.attributesOf ++ [overrides]).map Style.ofAttributes

-- The names a walk has not met are those that are registered and not on the trail.
def Ahead (registry unvisited : Registry) (trail : List String) : Prop :=
  ∀ name, unvisited.any (NamedStyle.isNamed (text name)) = true ↔ registry.knows (text name) = true ∧ name ∉ trail

variable {registry unvisited : Registry} {trail walk : List String} {name other last : String} {host : Host}

theorem isNamed_text {style : NamedStyle} : style.isNamed (text name) = true ↔ style.name = text name := by
  unfold NamedStyle.isNamed
  constructor
  · intro among
    rcases isAmong_one among with same | ⟨_,_,number,_⟩
    · exact same.symm
    · cases number
  · intro same
    simp [same,isAmong,isSame]

theorem knows_iff {name : Value} : registry.knows name = true ↔ registry.any (NamedStyle.isNamed name) = true := by
  rw [knows,find?,List.find?_isSome,List.any_eq_true]

theorem next?_eq_some (next : registry.next? name = some other) : ∃ style, registry.find? (text name) = some style ∧
    style.parent = text other ∧ registry.knows (text other) = true := by
  obtain ⟨style,found,held⟩ := Option.bind_eq_some_iff.mp next
  obtain ⟨written,known⟩ := Option.filter_eq_some_iff.mp held
  refine ⟨style,found,?_,known⟩
  cases given : style.parent <;> rw [given] at written <;> cases written
  rfl

theorem next?_eq_none (typed : registry.Typed) {style : NamedStyle} (found : registry.find? (text name) = some style)
    (next : registry.next? name = none) : (style.parent.isAbsent || !registry.knows style.parent) = true := by
  rcases typed.parents style (List.mem_of_find?_eq_some found) with nothing | ⟨other,given⟩
  · simp [nothing,isAbsent]
  · rw [next?,found] at next
    simp_all [Value.text?,isAbsent]

theorem ahead_all : Ahead registry registry [] := by
  intro name
  simp [knows_iff]

theorem Ahead.step (ahead : Ahead registry unvisited trail) (name : String) :
    Ahead registry (unvisited.without (text name)) (trail ++ [name]) := by
  intro other
  have before := ahead other
  simp only [without,List.any_filter,List.any_eq_true,Bool.and_eq_true,Bool.not_eq_true'] at before ⊢
  rw [List.mem_append,List.mem_singleton,not_or,← and_assoc,← before]
  constructor
  · intro ⟨style,there,apart,named⟩
    refine ⟨⟨style,there,named⟩,?_⟩
    intro same
    rw [same,apart] at named
    cases named
  · intro ⟨⟨style,there,named⟩,apart⟩
    refine ⟨style,there,?_,named⟩
    by_contra met
    rw [Bool.not_eq_false,isNamed_text] at met
    rw [isNamed_text,met] at named
    exact apart (text.inj named).symm

theorem knows_of_find? {style : NamedStyle} (found : registry.find? (text name) = some style) :
    registry.knows (text name) = true := by
  rw [knows,found]
  rfl

theorem find?_of_knows (known : registry.knows (text name) = true) : ∃ style, registry.find? (text name) = some style :=
  Option.isSome_iff_exists.mp known

namespace Walk

theorem known (path : Walk registry name walk last) : ∀ other ∈ walk, registry.knows (text other) = true := by
  induction path with
  | start known => exact List.forall_mem_singleton.mpr known
  | step next rest ih =>
    obtain ⟨style,found,_⟩ := next?_eq_some next
    exact List.forall_mem_cons.mpr ⟨knows_of_find? found,ih⟩

theorem first (path : Walk registry name walk last) : name ∈ walk := by
  cases path <;> exact List.mem_cons_self

-- Where a walk goes on is decided by where it stands, so from one name there is one walk to an end.
theorem unique {last' : String} {walk' : List String} (path : Walk registry name walk last)
    (ended : registry.next? last = none) (path' : Walk registry name walk' last') (ended' : registry.next? last' = none) :
    walk = walk' := by
  induction path generalizing walk' with
  | start known =>
    cases path' with
    | start => rfl
    | step next rest =>
      rw [ended] at next
      cases next
  | step next rest ih =>
    cases path' with
    | start =>
      rw [ended'] at next
      cases next
    | step next' rest' =>
      rw [next] at next'
      cases next'
      rw [ih ended rest']

theorem onward (path : Walk registry name walk last) (met : other ∈ walk) :
    ∃ rest, Walk registry other rest last ∧ rest.length ≤ walk.length := by
  induction path with
  | start known =>
    rw [List.mem_singleton] at met
    subst met
    exact ⟨_,.start known,le_rfl⟩
  | step next rest ih =>
    rcases List.mem_cons.mp met with rfl | later
    · exact ⟨_,.step next rest,le_rfl⟩
    · obtain ⟨further,path,shorter⟩ := ih later
      exact ⟨further,path,shorter.trans (Nat.le_succ _)⟩

-- A walk that came back to a name would go round for ever.
theorem nodup (path : Walk registry name walk last) (ended : registry.next? last = none) : walk.Nodup := by
  induction path with
  | start known => exact List.nodup_singleton _
  | step next rest ih =>
    refine List.nodup_cons.mpr ⟨?_,ih ended⟩
    intro again
    obtain ⟨further,path,shorter⟩ := rest.onward again
    have same := (Walk.step next rest).unique ended path ended
    rw [← same,List.length_cons] at shorter
    omega

end Walk

def folded (registry : Registry) (walk : List String) : Style :=
  ((walk.reverse.map registry.attributesOf).map Style.ofAttributes).foldl Style.merge .empty

theorem folded_cons (name : String) (walk : List String) : registry.folded (name :: walk) =
    (registry.folded walk).merge (Style.ofAttributes (registry.attributesOf name)) := by
  simp [folded]

theorem layers_folded (walk : List String) (overrides : Value) :
    (registry.layers walk overrides).foldl Style.merge .empty =
      (registry.folded walk).merge (Style.ofAttributes overrides) := by
  simp [layers,folded]

theorem folded_whole (path : Walk registry name walk last) : (registry.folded walk).merge .empty = registry.folded walk := by
  cases path <;> simp only [folded_cons,Style.merge_empty]

theorem attributesOf_found {style : NamedStyle} (found : registry.find? (text name) = some style) :
    registry.attributesOf name = style.attributes := by
  rw [attributesOf,found]
  rfl

theorem trail_step (trail : List String) (name : String) : trail.map text ++ [text name] = (trail ++ [name]).map text := by
  rw [List.map_append,List.map_singleton]

-- Every level adds empty overrides to what its ancestors gave, which changes nothing.
theorem resolveFrom_ended (typed : registry.Typed) (path : Walk registry name walk last)
    (ended : registry.next? last = none) (ahead : Ahead registry unvisited trail) (fresh : ∀ other ∈ walk, other ∉ trail)
    (overrides : Value) : resolveFrom registry unvisited (trail.map text) (text name) overrides host =
      .ok ((registry.folded walk).merge (Style.ofAttributes overrides)) := by
  have once := path.nodup ended
  induction path generalizing unvisited trail overrides with
  | @start name known =>
    obtain ⟨style,found⟩ := find?_of_knows known
    have met := (ahead name).mpr ⟨known,fresh name List.mem_cons_self⟩
    rw [resolveFrom_met found met,if_pos (next?_eq_none typed found ended),folded_cons,attributesOf_found found]
    have alone : (registry.folded []).merge (Style.ofAttributes style.attributes) = Style.ofAttributes style.attributes :=
      Style.empty_merge (Style.ofAttributes_neat _)
    rw [alone]
    rfl
  | @step name other last walk next rest ih =>
    obtain ⟨style,found,parent,known⟩ := next?_eq_some next
    obtain ⟨gone,once⟩ := List.nodup_cons.mp once
    obtain ⟨here,later⟩ := List.forall_mem_cons.mp fresh
    have met := (ahead name).mpr ⟨knows_of_find? found,here⟩
    have goesOn : ¬ (style.parent.isAbsent || !registry.knows style.parent) = true := by simp [parent,known,isAbsent]
    have fresh : ∀ other ∈ walk, other ∉ trail ++ [name] := by
      intro other there
      rw [List.mem_append,List.mem_singleton,not_or]
      exact ⟨later other there,fun same => gone (same ▸ there)⟩
    have base := ih ended (ahead.step name) fresh (list []) once
    change _ = Except.ok ((registry.folded walk).merge .empty) at base
    rw [folded_whole rest] at base
    rw [resolveFrom_met found met,if_neg goesOn,parent,trail_step,Ask.bind_ok base,folded_cons,attributesOf_found found]
    rfl

theorem circular_named (walk : List String) : (circular (walk.map text) : Ask Style) host = .error (.circularStyle walk) := by
  have texts : (walk.map text).mapM walkText host = .ok walk := by
    induction walk with
    | nil => rfl
    | cons name rest ih =>
      rw [List.map_cons,List.mapM_cons]
      change ((rest.map text).mapM walkText >>= fun others => pure (name :: others)) host = _
      rw [Ask.bind_ok ih]
      rfl
  rw [circular,Ask.bind_ok texts]
  rfl

theorem resolveFrom_revisits (path : Walk registry name walk last) {before : List String} (split : walk = before ++ [last])
    (ahead : Ahead registry unvisited trail) (once : (trail ++ before).Nodup) (again : last ∈ trail ++ before)
    (overrides : Value) : resolveFrom registry unvisited (trail.map text) (text name) overrides host =
      .error (.circularStyle (trail ++ walk)) := by
  induction path generalizing unvisited trail overrides before with
  | @start name known =>
    obtain rfl : before = [] := by simpa using split
    rw [List.append_nil] at again
    obtain ⟨style,found⟩ := find?_of_knows known
    have gone : ¬ unvisited.any (NamedStyle.isNamed (text name)) = true := by
      rw [ahead name]
      exact fun fresh => fresh.2 again
    rw [resolveFrom,found]
    dsimp only
    rw [dif_neg gone,trail_step,circular_named]
  | @step name other last walk next rest ih =>
    obtain ⟨style,found,parent,known⟩ := next?_eq_some next
    cases before with
    | nil =>
      have first := rest.first
      simp_all
    | cons first before =>
      obtain ⟨rfl,others⟩ := List.cons.inj split
      have fresh : name ∉ trail := by
        intro there
        exact (List.nodup_append.mp once).2.2 name there name List.mem_cons_self rfl
      have met := (ahead name).mpr ⟨knows_of_find? found,fresh⟩
      have goesOn : ¬ (style.parent.isAbsent || !registry.knows style.parent) = true := by simp [parent,known,isAbsent]
      have regroup (others : List String) : trail ++ name :: others = trail ++ [name] ++ others := by simp
      rw [regroup] at once again
      have failed := ih others (ahead.step name) once again (list [])
      rw [resolveFrom_met found met,if_neg goesOn,parent,trail_step,Ask.bind_error failed,regroup walk]

-- A walk that has met a name can leave that one out, so there is an end to it.
theorem walks (ahead : Ahead registry unvisited trail) (once : trail.Nodup) (known : registry.knows (text name) = true) :
    ∃ walk last, Walk registry name walk last ∧ walk.length ≤ unvisited.length + 1 ∧
      (registry.next? last = none ∨
        ∃ before, walk = before ++ [last] ∧ (trail ++ before).Nodup ∧ last ∈ trail ++ before) := by
  induction waiting : unvisited.length using Nat.strong_induction_on generalizing unvisited trail name with
  | _ count ih =>
    by_cases met : name ∈ trail
    · refine ⟨[name],name,.start known,by simp,.inr ⟨[],rfl,?_,?_⟩⟩
      · rwa [List.append_nil]
      · rwa [List.append_nil]
    · cases next : registry.next? name with
      | none => exact ⟨[name],name,.start known,by simp,.inl next⟩
      | some other =>
        obtain ⟨_,_,_,known'⟩ := next?_eq_some next
        have shorter := without_shorter ((ahead name).mpr ⟨known,met⟩)
        have once' : (trail ++ [name]).Nodup :=
          List.nodup_append.mpr ⟨once,List.nodup_singleton _,by grind⟩
        obtain ⟨walk,last,path,short,outcome⟩ := ih _ (waiting ▸ shorter) (ahead.step name) once' known' rfl
        refine ⟨name :: walk,last,.step next path,?_,?_⟩
        · rw [List.length_cons]
          omega
        · apply outcome.imp_right
          intro ⟨before,split,apart,again⟩
          rw [List.append_assoc,List.singleton_append] at apart again
          exact ⟨name :: before,by rw [split,List.cons_append],apart,again⟩

theorem resolve_ended (typed : registry.Typed) (ends : registry.Ends name walk) (overrides : Value) :
    registry.resolve (text name) overrides host = .ok ((registry.layers walk overrides).foldl Style.merge .empty) := by
  obtain ⟨last,path,ended⟩ := ends
  rw [layers_folded]
  exact resolveFrom_ended typed path ended ahead_all (fun _ _ => List.not_mem_nil) overrides

theorem resolve_revisits (revisits : registry.Revisits name walk) (overrides : Value) :
    registry.resolve (text name) overrides host = .error (.circularStyle walk) := by
  obtain ⟨before,again,path,split,once,met⟩ := revisits
  exact resolveFrom_revisits path split ahead_all once met overrides

theorem resolve_unknown (unknown : registry.knows (text name) = false) (overrides : Value) :
    registry.resolve (text name) overrides host = .ok (Style.ofAttributes overrides) := by
  have missing : registry.find? (text name) = none := by
    rw [knows] at unknown
    exact Option.isSome_eq_false_iff.mp unknown |> Option.isNone_iff_eq_none.mp
  rw [resolve,resolveFrom,missing]
  rfl

theorem ends_or_revisits (known : registry.knows (text name) = true) :
    ∃ walk, (registry.Ends name walk ∨ registry.Revisits name walk) ∧ walk.length ≤ registry.length + 1 := by
  obtain ⟨walk,last,path,short,outcome⟩ := walks ahead_all List.nodup_nil known
  refine ⟨walk,?_,short⟩
  rcases outcome with ended | ⟨before,split,once,again⟩
  · exact .inl ⟨last,path,ended⟩
  · exact .inr ⟨before,last,path,split,once,again⟩

end Trifold.Registry
