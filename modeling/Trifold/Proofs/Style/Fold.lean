import Trifold.Proofs.Style.Registry

namespace Trifold.Style
open Value

variable {style a b : Style} {host : Host}

-- Attributes that have joined once stay as they are when they join again.
theorem joined_again (attrs : List Value) : (attrs.foldl addAttr []).foldl addAttr [] = attrs.foldl addAttr [] := by
  induction attrs using List.reverseRecOn with
  | nil => rfl
  | append_singleton before attr ih =>
    rw [List.foldl_append,List.foldl_cons,List.foldl_nil]
    by_cases among : isAmong (before.foldl addAttr []) attr = true
    · simp only [addAttr,among,if_true]
      exact ih
    · simp only [addAttr,among,Bool.false_eq_true,if_false]
      rw [List.foldl_append,ih,List.foldl_cons,List.foldl_nil,addAttr,if_neg among]

theorem union_nil (attrs : List Value) : union attrs [] = attrs.foldl addAttr [] := by rw [union,List.append_nil]

theorem nil_union (attrs : List Value) : union [] attrs = attrs.foldl addAttr [] := by rw [union,List.nil_append]

theorem scalars_ne_null : (∀ entry ∈ style.scalars, entry.2 ≠ null) ↔ style.fg ≠ null ∧ style.bg ≠ null ∧
    style.padding ≠ null ∧ style.margin ≠ null ∧ style.width ≠ null ∧ style.height ≠ null ∧ style.align ≠ null := by
  simp [scalars]

-- What the readers make: nothing is set to null, and no attribute joins twice.
structure Neat (style : Style) : Prop where
  scalars : ∀ entry ∈ style.scalars, entry.2 ≠ null
  attrs : style.attrs.foldl addAttr [] = style.attrs

theorem color_ne_null (value : Value) : color value ≠ null := by
  unfold color
  split
  · split <;> nofun
  · split <;> nofun
  · nofun

theorem size_ne_null (value : Value) : size value ≠ null := by
  unfold size
  cases Attributes.finite? value <;> nofun

theorem side_ne_null (value : Value) : side value ≠ null := by
  unfold side
  cases Attributes.oneOf? alignments value <;> nofun

theorem given_ne_null {value other : Value} (apart : value ≠ null) (apart' : other ≠ null) : value.given other ≠ null := by
  unfold Value.given
  split
  · exact apart'
  · exact apart

theorem orElse_absent {value : Value} (apart : value ≠ null) : value.orElse absent = value := by
  cases value with
  | null => exact absurd rfl apart
  | _ => rfl

theorem set_neat (neat : Neat style) (entry : String × Value) : Neat (style.set entry) := by
  obtain ⟨scalars,attrs⟩ := neat
  rw [scalars_ne_null] at scalars
  constructor
  · rw [scalars_ne_null]
    unfold set
    split <;> simp [scalars,given_ne_null,color_ne_null,size_ne_null,side_ne_null]
  · unfold set
    split
    case h_3 value => exact joined_again _
    all_goals exact attrs

theorem ofAttributes_neat (source : Value) : Neat (ofAttributes source) := by
  unfold ofAttributes
  generalize Attributes.entries source = entries
  have start : Neat empty := ⟨by simp [Style.scalars,empty],rfl⟩
  revert start
  generalize empty = style
  induction entries generalizing style with
  | nil => exact id
  | cons entry rest ih => exact fun neat => ih _ (set_neat neat entry)

theorem empty_merge (neat : Neat style) : empty.merge style = style := by
  obtain ⟨scalars,attrs⟩ := neat
  rw [scalars_ne_null] at scalars
  obtain ⟨fg,bg,padding,margin,width,height,align⟩ := scalars
  simp only [merge,empty,nil_union,attrs,orElse_absent,ne_eq,fg,bg,padding,margin,width,height,align,not_false_eq_true]

theorem merge_empty (a b : Style) : (a.merge b).merge empty = a.merge b := by
  have attrs : union (union a.attrs b.attrs) [] = union a.attrs b.attrs := by
    rw [union_nil]
    exact joined_again _
  change { a.merge b with attrs := union (union a.attrs b.attrs) [] } = a.merge b
  rw [attrs]
  rfl

theorem read_toValue (style : Style) : read style.toValue host = .ok style := by
  have attrs : (do items (← style.toValue.fetch "attrs") : Ask (List Value)) host = .ok style.attrs := by
    change (items (style.toValue.get "attrs")) host = _
    rw [get_toValue rfl]
    rfl
  unfold read
  rw [← bind_assoc,Ask.bind_ok attrs,get_toValue rfl,get_toValue rfl,get_toValue rfl,get_toValue rfl,get_toValue rfl,
    get_toValue rfl,get_toValue rfl]
  rfl

theorem mergeAll_written (styles : List Style) : mergeAll (styles.map toValue) host = .ok (styles.foldl merge empty) := by
  have there : (styles.map toValue).filter (!·.isAbsent) = styles.map toValue := by
    refine List.filter_eq_self.mpr ?_
    intro value written
    obtain ⟨style,_,rfl⟩ := List.mem_map.mp written
    rfl
  rw [mergeAll,there]
  clear there
  generalize empty = merged
  induction styles generalizing merged with
  | nil => rfl
  | cons style rest ih =>
    rw [List.map_cons,List.foldlM_cons,bind_assoc,Ask.bind_ok (read_toValue style),pure_bind,ih,List.foldl_cons]

end Trifold.Style
