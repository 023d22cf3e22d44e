import Mathlib.Algebra.BigOperators.Group.List.Basic
import Trifold.Proofs.Style.Fold

namespace Trifold.Style
open Value

variable {style a b : Style} {host : Host} {names others : List String}

-- All the names of the first list, then those that only the second has.
def join (names others : List String) : List String := names ++ others.filter (· ∉ names)

theorem mem_join {name : String} : name ∈ join names others ↔ name ∈ names ∨ name ∈ others := by
  simp only [join,List.mem_append,List.mem_filter,decide_eq_true_eq]
  tauto

theorem nil_join (others : List String) : join [] others = others := by simp [join]

theorem join_self (names : List String) : join names names = names := by simp [join]

theorem join_nodup (once : names.Nodup) (once' : others.Nodup) : (join names others).Nodup := by
  refine List.nodup_append.mpr ⟨once,once'.filter _,?_⟩
  rintro name there _ later rfl
  exact of_decide_eq_true (List.mem_filter.mp later).2 there

theorem join_assoc (first second third : List String) :
    join (join first second) third = join first (join second third) := by
  have apart (name : String) : name ∉ join first second ↔ name ∉ second ∧ name ∉ first := by
    rw [mem_join,not_or,and_comm]
  simp only [join,List.filter_append,List.filter_filter,List.append_assoc] at apart ⊢
  simp only [apart,Bool.decide_and,Bool.and_comm]

theorem isAmong_names {name : String} : isAmong (names.map text) (text name) = true ↔ name ∈ names := by
  simp [isAmong,isSame,List.any_eq_true]

theorem addAttrs_names (once : others.Nodup) :
    (others.map text).foldl addAttr (names.map text) = (join names others).map text := by
  induction others generalizing names with
  | nil => simp [join]
  | cons name rest ih =>
    obtain ⟨gone,once⟩ := List.nodup_cons.mp once
    rw [List.map_cons,List.foldl_cons]
    by_cases known : name ∈ names
    · rw [addAttr,if_pos (isAmong_names.mpr known),ih once]
      simp [join,known]
    · have rest_apart : rest.filter (· ∉ names ++ [name]) = rest.filter (· ∉ names) := by
        refine List.filter_congr fun other there => ?_
        have other_apart : other ≠ name := fun same => gone (same ▸ there)
        simp [other_apart]
      have added : names.map text ++ [text name] = (names ++ [name]).map text := by simp
      rw [addAttr,if_neg (isAmong_names.not.mpr known),added,ih once,join,join,rest_apart]
      simp [known]

theorem union_names (once : names.Nodup) (once' : others.Nodup) :
    union (names.map text) (others.map text) = (join names others).map text := by
  have first : (names.map text).foldl addAttr [] = names.map text := by
    have fresh := @addAttrs_names [] names once
    rwa [nil_join] at fresh
  rw [union,List.foldl_append,first,addAttrs_names once']

theorem addAttrs_named {attrs added : List Value} (named : ∃ names : List String, names.Nodup ∧ attrs = names.map text)
    (texts : ∀ attr ∈ added, ∃ s, attr = text s) :
    ∃ names : List String, names.Nodup ∧ added.foldl addAttr attrs = names.map text := by
  induction added generalizing attrs with
  | nil => exact named
  | cons attr rest ih =>
    obtain ⟨⟨name,rfl⟩,later⟩ := List.forall_mem_cons.mp texts
    refine ih ?_ later
    obtain ⟨names,once,rfl⟩ := named
    by_cases known : name ∈ names
    · exact ⟨names,once,if_pos (isAmong_names.mpr known)⟩
    · refine ⟨names ++ [name],?_,?_⟩
      · exact List.nodup_append_comm.mp (List.nodup_cons.mpr ⟨known,once⟩)
      · rw [addAttr,if_neg (isAmong_names.not.mpr known),List.map_append,List.map_singleton]

theorem orElse_ne_null {value other : Value} (apart : value ≠ null) (apart' : other ≠ null) : value.orElse other ≠ null := by
  unfold Value.orElse
  split
  · exact apart'
  · exact apart

theorem orElse_given {value : Value} (apart : value ≠ null) (other : Value) : value.orElse other = value.given other := by
  cases value with
  | null => exact absurd rfl apart
  | _ => rfl

theorem orElse_assoc (value other last : Value) : (value.orElse other).orElse last = value.orElse (other.orElse last) := by
  cases value <;> rfl

theorem orElse_self (value : Value) : value.orElse value = value := ite_self _

-- What making and merging keep: nothing is set to null, and the attributes are names, of which none stands twice.
structure Orderly (style : Style) : Prop extends Neat style where
  texts : ∀ attr ∈ style.attrs, ∃ s, attr = text s

namespace Orderly

theorem named (orderly : Orderly style) : ∃ names : List String, names.Nodup ∧ style.attrs = names.map text := by
  rw [← orderly.attrs]
  exact addAttrs_named ⟨[],List.nodup_nil,rfl⟩ orderly.texts

theorem ofAttributes (source : Value) : Orderly (ofAttributes source) :=
  ⟨ofAttributes_neat source,(ofAttributes_made source).attrs⟩

theorem empty : Orderly empty := ofAttributes absent

theorem merge (first : Orderly a) (second : Orderly b) : Orderly (a.merge b) := by
  refine ⟨⟨?_,joined_again _⟩,?_⟩
  · have left := scalars_ne_null.mp first.scalars
    have right := scalars_ne_null.mp second.scalars
    rw [scalars_ne_null]
    simp [Style.merge,orElse_ne_null,left,right]
  · exact addAttrs_texts (List.forall_mem_nil _) (List.forall_mem_append.mpr ⟨first.texts,second.texts⟩)

end Orderly

theorem merge_assoc {c : Style} (first : Orderly a) (second : Orderly b) (third : Orderly c) :
    (a.merge b).merge c = a.merge (b.merge c) := by
  obtain ⟨names,once,named⟩ := first.named
  obtain ⟨others,once',named'⟩ := second.named
  obtain ⟨more,once'',named''⟩ := third.named
  simp only [merge,named,named',named'',union_names,join_nodup,join_assoc,orElse_assoc,once,once',once'']

theorem merge_self (orderly : Orderly style) : style.merge style = style := by
  obtain ⟨names,once,named⟩ := orderly.named
  have attrs : union style.attrs style.attrs = style.attrs := by rw [named,union_names once once,join_self]
  simp only [merge,attrs,orElse_self]

theorem merge_empty_orderly (orderly : Orderly style) : style.merge empty = style := by
  have attrs : union style.attrs [] = style.attrs := by rw [union_nil,orderly.attrs]
  change { style with attrs := union style.attrs [] } = style
  rw [attrs]

instance : Monoid { style : Style // Orderly style } where
  mul a b := ⟨a.1.merge b.1,a.2.merge b.2⟩
  one := ⟨empty,.empty⟩
  mul_assoc a b c := Subtype.ext (merge_assoc a.2 b.2 c.2)
  one_mul a := Subtype.ext (empty_merge a.2.toNeat)
  mul_one a := Subtype.ext (merge_empty_orderly a.2)

-- What is made from attributes, and what merging gives where anything else that is passed is absent.
inductive Produced : Value → Prop
  | made (source : Value) : Produced (ofAttributes source).toValue
  | merged {a b merged : Value} {host : Host} (first : a ≠ absent → Produced a) (second : b ≠ absent → Produced b)
      (result : mergeWritten a b host = .ok merged) : Produced merged
  | folded {styles : List Value} {merged : Style} {host : Host} (each : ∀ style ∈ styles, style ≠ absent → Produced style)
      (result : mergeAll styles host = .ok merged) : Produced merged.toValue

theorem mergeWritten_toValue (a b : Style) : mergeWritten a.toValue b.toValue host = .ok (a.merge b).toValue := by
  change (read a.toValue >>= fun a => read b.toValue >>= fun b => pure (a.merge b).toValue) host = _
  rw [Ask.bind_ok (read_toValue a),Ask.bind_ok (read_toValue b)]
  rfl

theorem exists_there {styles : List Value} (each : ∀ style ∈ styles, style ≠ absent → ∃ a, Orderly a ∧ style = a.toValue) :
    ∃ there : List { style : Style // Orderly style }, there.map (·.1.toValue) = styles.filter (!·.isAbsent) := by
  rw [← Set.mem_range,Set.range_list_map]
  intro style kept
  obtain ⟨there,present⟩ := List.mem_filter.mp kept
  obtain ⟨a,orderly,rfl⟩ := each style there (by rintro rfl; cases present)
  exact ⟨⟨a,orderly⟩,rfl⟩

theorem mergeAll_prod {styles : List Value} {there : List { style : Style // Orderly style }}
    (written : there.map (·.1.toValue) = styles.filter (!·.isAbsent)) (host : Host) :
    mergeAll styles host = .ok there.prod.1 := by
  have present : mergeAll styles = mergeAll (styles.filter (!·.isAbsent)) := by
    rw [mergeAll,mergeAll,List.filter_filter]
    simp only [Bool.and_self]
  have values : there.map (·.1.toValue) = (there.map Subtype.val).map toValue := by
    rw [List.map_map]
    rfl
  have folded : there.foldl (fun merged style => merged.merge style.1) empty = (there.foldl (· * ·) 1).1 :=
    @List.foldl_hom _ _ _ Subtype.val (· * ·) _ there 1 fun _ _ => rfl
  rw [present,← written,values,mergeAll_written,List.foldl_map,folded,List.prod_eq_foldl]

theorem Produced.written {value : Value} (produced : Produced value) : ∃ style, Orderly style ∧ value = style.toValue := by
  induction produced with
  | made source => exact ⟨_,.ofAttributes source,rfl⟩
  | @merged a b _ _ _ _ result first second =>
    by_cases left : a = absent <;> by_cases right : b = absent
    · subst left right
      obtain rfl := Except.ok.inj result
      exact ⟨empty,.empty,rfl⟩
    · obtain ⟨b,orderly,rfl⟩ := second right
      subst left
      obtain rfl := Except.ok.inj result
      exact ⟨b,orderly,rfl⟩
    · obtain ⟨a,orderly,rfl⟩ := first left
      subst right
      obtain rfl := Except.ok.inj result
      exact ⟨a,orderly,rfl⟩
    · obtain ⟨a,orderly,rfl⟩ := first left
      obtain ⟨b,orderly',rfl⟩ := second right
      rw [mergeWritten_toValue] at result
      obtain rfl := Except.ok.inj result
      exact ⟨_,orderly.merge orderly',rfl⟩
  | folded _ result ih =>
    obtain ⟨there,written⟩ := exists_there ih
    rw [mergeAll_prod written] at result
    obtain rfl := Except.ok.inj result
    exact ⟨_,there.prod.2,rfl⟩

theorem merge_scalar (orderly : Orderly b) {key : String} (listed : key ∈ scalarKeys) :
    (a.merge b).toValue.get key = (b.toValue.get key).given (a.toValue.get key) := by
  have set := scalars_ne_null.mp orderly.scalars
  simp only [scalarKeys,scalars,List.map_cons,List.map_nil,List.mem_cons,List.not_mem_nil,or_false] at listed
  rcases listed with rfl | rfl | rfl | rfl | rfl | rfl | rfl <;> rw [get_toValue rfl,get_toValue rfl,get_toValue rfl]
  · exact orElse_given set.1 _
  · exact orElse_given set.2.1 _
  · exact orElse_given set.2.2.1 _
  · exact orElse_given set.2.2.2.1 _
  · exact orElse_given set.2.2.2.2.1 _
  · exact orElse_given set.2.2.2.2.2.1 _
  · exact orElse_given set.2.2.2.2.2.2 _

-- Merging as the rest relies on it. It always gives a style: the attributes of the left one and then what only the right one
-- has, none of them twice, and of each other setting the right one's where it has one. Grouping makes no difference, the
-- empty style is neutral on both sides, and merging a style with itself gives that style. Merging a list gives nothing for
-- what is absent and a style for itself, and any list can be merged in two parts.
theorem merge_monoid (host : Host) :
    (∀ a b, Produced a → Produced b → ∃ merged, mergeWritten a b host = .ok merged ∧
      (∃ names others : List String, a.get "attrs" = list (names.map text) ∧ b.get "attrs" = list (others.map text) ∧
        merged.get "attrs" = list ((join names others).map text) ∧ (join names others).Nodup ∧
        ∀ name, name ∈ join names others ↔ name ∈ names ∨ name ∈ others) ∧
      ∀ key ∈ scalarKeys, merged.get key = (b.get key).given (a.get key)) ∧
    (∀ a b c, Produced a → Produced b → Produced c → ∃ left right whole,
      mergeWritten a b host = .ok left ∧ mergeWritten b c host = .ok right ∧
      mergeWritten left c host = .ok whole ∧ mergeWritten a right host = .ok whole) ∧
    (∀ a, Produced a → mergeWritten empty.toValue a host = .ok a ∧ mergeWritten a empty.toValue host = .ok a ∧
      mergeWritten a a host = .ok a) ∧
    mergeAll [absent] host = .ok empty ∧
    (∀ a, Produced a → ∃ alone, mergeAll [a] host = .ok alone ∧ alone.toValue = a) ∧
    ∀ xs ys, (∀ style ∈ xs ++ ys, style ≠ absent → Produced style) → ∃ left right whole,
      mergeAll xs host = .ok left ∧ mergeAll ys host = .ok right ∧ mergeAll (xs ++ ys) host = .ok whole ∧
      mergeWritten left.toValue right.toValue host = .ok whole.toValue := by
  refine ⟨?_,?_,?_,rfl,?_,?_⟩
  · intro a b produced produced'
    obtain ⟨a,first,rfl⟩ := produced.written
    obtain ⟨b,second,rfl⟩ := produced'.written
    refine ⟨_,mergeWritten_toValue a b,?_,?_⟩
    · obtain ⟨names,once,named⟩ := first.named
      obtain ⟨others,once',named'⟩ := second.named
      refine ⟨names,others,?_,?_,?_,join_nodup once once',fun _ => mem_join⟩
      · rw [get_toValue rfl,← named]
        rfl
      · rw [get_toValue rfl,← named']
        rfl
      · rw [get_toValue rfl,← union_names once once',← named,← named']
        rfl
    · exact fun key => merge_scalar second
  · intro a b c produced produced' produced''
    obtain ⟨a,first,rfl⟩ := produced.written
    obtain ⟨b,second,rfl⟩ := produced'.written
    obtain ⟨c,third,rfl⟩ := produced''.written
    refine ⟨_,_,_,mergeWritten_toValue a b,mergeWritten_toValue b c,mergeWritten_toValue _ c,?_⟩
    rw [mergeWritten_toValue,merge_assoc first second third]
  · intro a produced
    obtain ⟨a,orderly,rfl⟩ := produced.written
    simp only [mergeWritten_toValue,empty_merge orderly.toNeat,merge_empty_orderly orderly,merge_self orderly,and_self]
  · intro a produced
    obtain ⟨a,orderly,rfl⟩ := produced.written
    refine ⟨_,@mergeAll_prod [a.toValue] [⟨a,orderly⟩] rfl host,?_⟩
    rw [List.prod_singleton]
  · intro xs ys each
    have written : ∀ style ∈ xs ++ ys, style ≠ absent → ∃ a, Orderly a ∧ style = a.toValue :=
      fun style there present => (each style there present).written
    obtain ⟨left,first⟩ := exists_there fun style there => written style (List.mem_append_left ys there)
    obtain ⟨right,second⟩ := exists_there fun style there => written style (List.mem_append_right xs there)
    have both : (left ++ right).map (·.1.toValue) = (xs ++ ys).filter (!·.isAbsent) := by
      rw [List.map_append,first,second,List.filter_append]
    refine ⟨_,_,_,mergeAll_prod first host,mergeAll_prod second host,mergeAll_prod both host,?_⟩
    rw [mergeWritten_toValue,List.prod_append]
    rfl

-- Both set a colour, and one attribute is on both sides.
def banner : Value := (ofAttributes (object [("fg",text "red"), ("attrs",list [text "bold", text "dim"])])).toValue

def aside : Value := (ofAttributes (object [("fg",text "blue"), ("attrs",list [text "dim", text "italic"])])).toValue

theorem merge_monoid_banner : Produced banner ∧ Produced aside ∧
    (∃ merged, mergeWritten banner aside Host.silent = .ok merged ∧ merged.get "fg" = text "blue" ∧
      merged.get "attrs" = list [text "bold", text "dim", text "italic"]) ∧
    mergeWritten banner banner Host.silent = .ok banner ∧
    ∃ left right whole, mergeAll [banner, absent] Host.silent = .ok left ∧ mergeAll [aside, banner] Host.silent = .ok right ∧
      mergeAll [banner, absent, aside, banner] Host.silent = .ok whole ∧
      mergeWritten left.toValue right.toValue Host.silent = .ok whole.toValue := by
  have first : Produced banner := .made _
  have second : Produced aside := .made _
  obtain ⟨joins,_,same,_,_,parts⟩ := merge_monoid Host.silent
  obtain ⟨merged,gives,_,set⟩ := joins banner aside first second
  have fg : merged.get "fg" = text "blue" := set "fg" (by decide)
  have attrs : merged.get "attrs" = list [text "bold", text "dim", text "italic"] := by
    obtain rfl := Except.ok.inj ((mergeWritten_toValue _ _).symm.trans gives)
    rfl
  refine ⟨first,second,⟨merged,gives,fg,attrs⟩,(same banner first).2.2,parts [banner, absent] [aside, banner] ?_⟩
  intro style there present
  simp only [List.cons_append,List.nil_append,List.mem_cons,List.not_mem_nil,or_false] at there
  rcases there with rfl | rfl | rfl | rfl
  · exact first
  · exact absurd rfl present
  · exact second
  · exact first

end Trifold.Style
