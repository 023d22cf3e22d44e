import Trifold.Proofs.Agree
import Trifold.Proofs.Style.Walk
import Trifold.Proofs.Text.Sorted

namespace Trifold.Registry
open Value
open Ask (Answers)

-- The names of all definitions.
def names (registry : Registry) : List String := registry.filterMap (·.name.text?)

variable {registry : Registry} {host : Host}

theorem mem_names {name : String} : name ∈ registry.names ↔ registry.knows (text name) = true := by
  rw [names,List.mem_filterMap,knows_iff,List.any_eq_true]
  refine exists_congr fun style => and_congr_right fun _ => ?_
  rw [isNamed_text]
  cases style.name <;> simp [Value.text?]

theorem keyed_typed (typed : registry.Typed) (host : Host) : ∃ keyed : List (String × NamedStyle),
    (registry.mapM fun style => do return (← shown style.name,style) : Ask _) host = .ok keyed ∧
      keyed.map (·.2) = registry ∧ keyed.map (·.1) = registry.names ∧ ∀ pair ∈ keyed, pair.2.name = text pair.1 := by
  have named := typed.names
  clear typed
  induction registry with
  | nil => exact ⟨[],rfl,rfl,rfl,List.forall_mem_nil _⟩
  | cons style rest ih =>
    obtain ⟨⟨name,here⟩,later⟩ := List.forall_mem_cons.mp named
    obtain ⟨keyed,given,styles,names,each⟩ := ih later
    refine ⟨(name,style) :: keyed,?_,?_,?_,List.forall_mem_cons.mpr ⟨here,each⟩⟩
    · have first : (do return (← shown style.name,style) : Ask (String × NamedStyle)) host = .ok (name,style) := by
        rw [here]
        rfl
      rw [List.mapM_cons,Ask.bind_ok first,Ask.bind_ok given]
      rfl
    · rw [List.map_cons,styles]
    · rw [List.map_cons,names]
      simp [Registry.names,here,Value.text?]

theorem sortedByName_typed (typed : registry.Typed) (host : Host) : ∃ sorted, sortedByName registry host = .ok sorted ∧
    sorted.map (·.name) = (Text.sorted registry.names).map text ∧ sorted.Perm registry := by
  obtain ⟨keyed,given,styles,names,each⟩ := keyed_typed typed host
  have named : registry.map (·.name) = registry.names.map text := by
    rw [← names,List.map_map]
    conv_lhs => rw [← styles,List.map_map]
    exact List.map_congr_left each
  have there : ∀ style ∈ registry, style.name.isAbsent = false := by
    intro style listed
    obtain ⟨name,here⟩ := typed.names style listed
    rw [here]
    rfl
  have missing : registry.filter (·.name.isAbsent) = [] := by simpa using there
  have present : registry.filter (!·.name.isAbsent) = registry := by simpa using there
  unfold sortedByName
  rw [List.partition_eq_filter_filter]
  simp only [Function.comp_def,missing,present,List.append_nil]
  by_cases few : registry.length < 2
  · rw [if_pos few]
    refine ⟨registry,rfl,?_,.refl _⟩
    rw [named]
    congr 1
    have short : registry.names.length < 2 := by
      rwa [← List.length_map text,← named,List.length_map]
    match registry.names, short with
    | [], _ => exact List.mergeSort_nil.symm
    | [name], _ => exact (List.mergeSort_singleton name).symm
  · rw [if_neg few,Ask.bind_ok given]
    refine ⟨_,rfl,?_,?_⟩
    · have sorted : (keyed.mergeSort fun a b => !Text.before b.1 a.1).map (·.1) = Text.sorted registry.names := by
        rw [← names]
        exact List.map_mergeSort fun _ _ _ _ => rfl
      rw [← sorted,List.map_map,List.map_map]
      refine List.map_congr_left ?_
      intro pair there
      exact each pair ((List.mergeSort_perm _ _).mem_iff.mp there)
    · rw [← styles]
      exact (List.mergeSort_perm _ _).map _

theorem resolveOwn_named {style : NamedStyle} {name : String} (here : style.name = text name) (there : style ∈ registry) :
    registry.resolveOwn style = registry.resolve (text name) (list []) := by
  have known : registry.knows style.name = true := by
    rw [here,knows_iff]
    exact List.any_eq_true.mpr ⟨style,there,isNamed_text.mpr here⟩
  rw [resolveOwn,if_pos known,here]

-- Where all definitions are resolved, each stands under its name.
theorem resolveAll_ok (typed : registry.Typed) {styles : List (Value × Style)}
    (resolved : registry.resolveAll host = .ok styles) : styles.map (·.1) = (Text.sorted registry.names).map text ∧
      ∀ name style, (text name,style) ∈ styles → registry.resolve (text name) (list []) host = .ok style := by
  obtain ⟨sorted,ordered,names,same⟩ := sortedByName_typed typed host
  rw [resolveAll,Ask.bind_ok ordered] at resolved
  constructor
  · rw [← names]
    refine (Agree.map_eq (Ask.mapM_ok.mp resolved) ?_).symm
    intro style pair given
    obtain ⟨_,_,given⟩ := Ask.ok_of_bind given
    cases given
    rfl
  · have each : ∀ pair ∈ styles, ∀ name, pair.1 = text name →
        registry.resolve (text name) (list []) host = .ok pair.2 := by
      refine Ask.forall_of_mapM ?_ resolved
      intro style there pair given name under
      obtain ⟨own,found,given⟩ := Ask.ok_of_bind given
      cases given
      rwa [resolveOwn_named under (same.mem_iff.mp there)] at found
    intro name style there
    exact each _ there name rfl

theorem resolveAll_error (typed : registry.Typed) : (∃ fault, registry.resolveAll host = .error fault) ↔
    ∃ name ∈ registry.names, ∃ walk, registry.Revisits name walk := by
  obtain ⟨sorted,ordered,_,same⟩ := sortedByName_typed typed host
  rw [resolveAll,Ask.bind_ok ordered]
  constructor
  · intro ⟨fault,failed⟩
    by_contra none
    have each : ∀ style ∈ sorted, Ask.Ends host (do return (style.name,← registry.resolveOwn style) : Ask (Value × Style)) := by
      intro style there
      have listed := same.mem_iff.mp there
      obtain ⟨name,here⟩ := typed.names style listed
      have known : registry.knows (text name) = true := by
        rw [knows_iff]
        exact List.any_eq_true.mpr ⟨style,listed,isNamed_text.mpr here⟩
      obtain ⟨walk,ends | revisits,_⟩ := ends_or_revisits known
      · rw [resolveOwn_named here listed]
        exact Ask.Ends.map ⟨_,resolve_ended typed ends _,trivial⟩
      · exact absurd ⟨name,mem_names.mpr known,walk,revisits⟩ none
    obtain ⟨styles,ended,_⟩ := Ask.Ends.mapM each
    rw [ended] at failed
    cases failed
  · intro ⟨name,known,walk,revisits⟩
    cases ended : (sorted.mapM fun style => do return (style.name,← registry.resolveOwn style) : Ask _) host with
    | error fault => exact ⟨fault,rfl⟩
    | ok styles =>
      obtain ⟨style,listed,named⟩ := List.any_eq_true.mp (knows_iff.mp (mem_names.mp known))
      have each := Agree.forall_left (Ask.mapM_ok.mp ended) fun style pair given => (⟨pair,given⟩ : ∃ pair, _ = Except.ok pair)
      obtain ⟨pair,given⟩ := each style (same.mem_iff.mpr listed)
      obtain ⟨_,found,_⟩ := Ask.ok_of_bind given
      rw [resolveOwn_named (isNamed_text.mp named) listed,resolve_revisits revisits] at found
      cases found

theorem resolve_walked (typed : registry.Typed) (name : String) (overrides : Value) (host : Host) :
    (registry.knows (text name) = false →
      registry.resolve (text name) overrides host = .ok (Style.ofAttributes overrides)) ∧
    (∀ walk, registry.Ends name walk → ∃ style,
      Style.mergeAll ((registry.layers walk overrides).map Style.toValue) host = .ok style ∧
        registry.resolve (text name) overrides host = .ok style) ∧
    (∀ walk, registry.Revisits name walk → ∃ fault, registry.resolve (text name) overrides host = .error fault ∧
      fault.code? = some "UI_CIRCULAR_STYLE" ∧
        fault.message = "Circular style inheritance detected: " ++ " -> ".intercalate walk) ∧
    (registry.knows (text name) = true →
      ∃ walk, (registry.Ends name walk ∨ registry.Revisits name walk) ∧ walk.length ≤ registry.length + 1) ∧
    ((∃ fault, registry.resolveAll host = .error fault) ↔
      ∃ name ∈ registry.names, ∃ walk, registry.Revisits name walk) ∧
    ∀ styles, registry.resolveAll host = .ok styles →
      styles.map (·.1) = (Text.sorted registry.names).map text ∧
        ∀ name style, (text name,style) ∈ styles → registry.resolve (text name) (list []) host = .ok style := by
  refine ⟨fun unknown => resolve_unknown unknown overrides,?_,?_,ends_or_revisits,resolveAll_error typed,
    fun styles => resolveAll_ok typed⟩
  · intro walk ends
    exact ⟨_,Style.mergeAll_written _,resolve_ended typed ends overrides⟩
  · intro walk revisits
    exact ⟨_,resolve_revisits revisits overrides,rfl,rfl⟩

-- Definitions as they are declared make such a registry.
theorem ofStyles_typed {styles : List NamedStyle} (typed : Typed styles) : Typed (ofStyles styles) := by
  suffices ∀ registry : Registry, registry.Typed → Typed (styles.foldl add registry) from this [] ⟨nofun,nofun⟩
  obtain ⟨names,parents⟩ := typed
  induction styles with
  | nil => exact fun _ => id
  | cons style rest ih =>
    intro registry before
    obtain ⟨named,names⟩ := List.forall_mem_cons.mp names
    obtain ⟨based,parents⟩ := List.forall_mem_cons.mp parents
    refine ih names parents (registry.add style) ?_
    unfold add
    split
    · constructor
      · intro it there
        obtain ⟨old,listed,rfl⟩ := List.mem_map.mp there
        split
        · exact before.names old listed
        · exact before.names old listed
      · intro it there
        obtain ⟨old,listed,rfl⟩ := List.mem_map.mp there
        split
        · exact based
        · exact before.parents old listed
    · constructor
      · exact List.forall_mem_append.mpr ⟨before.names,List.forall_mem_singleton.mpr named⟩
      · exact List.forall_mem_append.mpr ⟨before.parents,List.forall_mem_singleton.mpr based⟩

-- A title on a base, and a tail that leads into a ring it is not part of.
def sheet : Registry := ofStyles
  [⟨text "title",text "base",object [("attrs",list [text "bold"])],absent⟩,
    ⟨text "base",absent,object [("fg",text "red")],absent⟩,
    ⟨text "tail",text "loop",absent,absent⟩, ⟨text "loop",text "turn",absent,absent⟩,
    ⟨text "turn",text "loop",absent,absent⟩]

theorem sheet_typed : sheet.Typed := by
  refine ofStyles_typed ?_
  constructor <;> simp

theorem sheet_ends : sheet.Ends "title" ["title", "base"] := ⟨"base",.step rfl (.start rfl),rfl⟩

theorem sheet_revisits : sheet.Revisits "tail" ["tail", "loop", "turn", "loop"] :=
  ⟨["tail", "loop", "turn"],"loop",.step rfl (.step rfl (.step rfl (.start rfl))),rfl,by decide,by decide⟩

theorem resolve_walked_sheet : sheet.Typed ∧ sheet.Ends "title" ["title", "base"] ∧
    sheet.Revisits "tail" ["tail", "loop", "turn", "loop"] ∧
    (∃ style, Style.mergeAll ((sheet.layers ["title", "base"] (list [])).map Style.toValue) Host.silent = .ok style ∧
      sheet.resolve (text "title") (list []) Host.silent = .ok style) ∧
    (∃ fault, sheet.resolve (text "tail") (list []) Host.silent = .error fault ∧
      fault.message = "Circular style inheritance detected: tail -> loop -> turn -> loop") ∧
    ∃ fault, sheet.resolveAll Host.silent = .error fault := by
  obtain ⟨_,folds,_⟩ := resolve_walked sheet_typed "title" (list []) Host.silent
  obtain ⟨_,_,reports,_,all,_⟩ := resolve_walked sheet_typed "tail" (list []) Host.silent
  obtain ⟨fault,failed,_,told⟩ := reports _ sheet_revisits
  refine ⟨sheet_typed,sheet_ends,sheet_revisits,folds _ sheet_ends,⟨fault,failed,told⟩,?_⟩
  exact all.mpr ⟨"tail",by decide,_,sheet_revisits⟩

end Trifold.Registry
