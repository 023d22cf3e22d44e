import Mathlib.Logic.Relation
import Trifold.Proofs.Ask
import Trifold.Proofs.Element.Written
import Trifold.Proofs.Number.Same
import Trifold.Style.Registry

namespace Trifold
open Value
open Ask (Answers Ends)

namespace Style

-- What a colour can be: a name, or channels.
inductive Colored : Value → Prop
  | absent : Colored absent
  | name (s : String) : Colored (text s)
  | channels (xs : List Float) : Colored (list (xs.map number))

structure Made (style : Style) : Prop where
  fg : Colored style.fg
  bg : Colored style.bg
  attrs : ∀ attr ∈ style.attrs, ∃ s, attr = text s

variable {style : Style}

theorem Colored.given {value other : Value} (colored : Colored value) (colored' : Colored other) : Colored (value.given other) := by
  unfold Value.given
  split
  · exact colored'
  · exact colored

theorem Colored.orElse {value other : Value} (colored : Colored value) (colored' : Colored other) : Colored (value.orElse other) := by
  unfold Value.orElse
  split
  · exact colored'
  · exact colored

theorem number_of_finite {value : Value} (finite : (Attributes.finite? value).isSome = true) : ∃ x, value = number x := by
  unfold Attributes.finite? at finite
  cases value with
  | number x => exact ⟨x,rfl⟩
  | _ => cases finite

theorem color_colored (value : Value) : Colored (color value) := by
  unfold color
  split
  · split
    · exact .absent
    · exact .name _
  · split
    · rename_i finite
      simp only [List.all_cons,List.all_nil,Bool.and_true,Bool.and_eq_true] at finite
      obtain ⟨r,rfl⟩ := number_of_finite finite.1
      obtain ⟨g,rfl⟩ := number_of_finite finite.2.1
      obtain ⟨b,rfl⟩ := number_of_finite finite.2.2
      exact .channels [r, g, b]
    · exact .absent
  · exact .absent

theorem text_of_attr {value : Value} (attr : isAttr value = true) : ∃ s, value = text s := by
  unfold isAttr Attributes.oneOf? at attr
  cases value with
  | text s => exact ⟨s,rfl⟩
  | _ => cases attr

theorem addAttrs_texts {attrs added : List Value} (each : ∀ attr ∈ attrs, ∃ s, attr = text s)
    (each' : ∀ attr ∈ added, ∃ s, attr = text s) : ∀ attr ∈ added.foldl addAttr attrs, ∃ s, attr = text s := by
  induction added generalizing attrs with
  | nil => exact each
  | cons attr rest ih =>
    obtain ⟨here,later⟩ := List.forall_mem_cons.mp each'
    refine ih ?_ later
    unfold addAttr
    split
    · exact each
    · exact List.forall_mem_append.mpr ⟨each,List.forall_mem_singleton.mpr here⟩

theorem textAttrs_texts (value : Value) : ∀ attr ∈ textAttrs value, ∃ s, attr = text s := by
  refine addAttrs_texts (List.forall_mem_nil _) ?_
  intro attr there
  exact text_of_attr (List.mem_filter.mp there).2

theorem set_made (made : Made style) (entry : String × Value) : Made (style.set entry) := by
  unfold set
  split
  · exact ⟨(color_colored _).given made.fg,made.bg,made.attrs⟩
  · exact ⟨made.fg,(color_colored _).given made.bg,made.attrs⟩
  · exact ⟨made.fg,made.bg,textAttrs_texts _⟩
  all_goals exact ⟨made.fg,made.bg,made.attrs⟩

theorem empty_made : Made empty := ⟨.absent,.absent,List.forall_mem_nil _⟩

theorem ofAttributes_made (source : Value) : Made (ofAttributes source) := by
  unfold ofAttributes
  generalize Attributes.entries source = entries
  suffices ∀ style, Made style → Made (entries.foldl set style) from this _ empty_made
  induction entries with
  | nil => exact fun _ => id
  | cons entry rest ih => exact fun style made => ih _ (set_made made entry)

theorem merge_made {a b : Style} (first : Made a) (second : Made b) : Made (a.merge b) := by
  refine ⟨second.fg.orElse first.fg,second.bg.orElse first.bg,?_⟩
  exact addAttrs_texts (List.forall_mem_nil _) (List.forall_mem_append.mpr ⟨first.attrs,second.attrs⟩)

-- A style as it is written.
structure Written (value : Value) : Prop where
  there : value.isMissing = false
  fg : Colored (value.get "fg")
  bg : Colored (value.get "bg")
  attrs : ∃ attrs, value.get "attrs" = list attrs ∧ ∀ attr ∈ attrs, ∃ s, attr = text s

theorem get_toValue {key : String} (unanswered : inherited key = absent) :
    style.toValue.get key = (Fields.get? key (("attrs",list style.attrs) :: style.scalars)).getD absent :=
  Value.get_object_defined unanswered (by simp [Fields.keys,scalars])

theorem toValue_written (made : Made style) : Written style.toValue := by
  have fg : style.toValue.get "fg" = style.fg := get_toValue rfl
  have bg : style.toValue.get "bg" = style.bg := get_toValue rfl
  exact ⟨rfl,fg ▸ made.fg,bg ▸ made.bg,style.attrs,rfl,made.attrs⟩

end Style

namespace Registry
open Style

variable {registry unvisited : Registry} {host : Host}

theorem resolveFrom_met {walk : List Value} {name overrides : Value} {style : NamedStyle} (found : registry.find? name = some style)
    (met : unvisited.any (NamedStyle.isNamed name) = true) :
    resolveFrom registry unvisited walk name overrides =
      if style.parent.isAbsent || !registry.knows style.parent then
        pure ((ofAttributes style.attributes).merge (ofAttributes overrides))
      else do
        let base ← resolveFrom registry (unvisited.without name) (walk ++ [name]) style.parent (list [])
        return (base.merge (ofAttributes style.attributes)).merge (ofAttributes overrides) := by
  rw [resolveFrom,found]
  exact dif_pos met

-- What holds of all styles made from attributes, and of two where it holds of both, holds of what is resolved.
theorem resolveFrom_kept {P : Style → Prop} (made : ∀ source, P (ofAttributes source))
    (merged : ∀ a b, P a → P b → P (a.merge b)) {walk : List Value} {name overrides : Value} {style : Style}
    (resolved : resolveFrom registry unvisited walk name overrides host = .ok style) : P style := by
  induction unvisited, walk, name, overrides using resolveFrom.induct registry generalizing style with
  | case1 unvisited walk name overrides unknown =>
    rw [resolveFrom,unknown] at resolved
    cases resolved
    exact made _
  | case2 unvisited walk name overrides named found met alone =>
    rw [resolveFrom_met found met,if_pos alone] at resolved
    cases resolved
    exact merged _ _ (made _) (made _)
  | case3 unvisited walk name overrides named found met extends_ ih =>
    rw [resolveFrom_met found met,if_neg extends_] at resolved
    obtain ⟨base,before,resolved⟩ := Ask.ok_of_bind resolved
    cases resolved
    exact merged _ _ (merged _ _ (ih before) (made _)) (made _)
  | case4 unvisited walk name overrides named found gone =>
    rw [resolveFrom,found] at resolved
    dsimp only at resolved
    rw [dif_neg gone] at resolved
    obtain ⟨_,_,resolved⟩ := Ask.ok_of_bind resolved
    cases resolved

theorem resolveRef_kept {P : Style → Prop} (made : ∀ source, P (ofAttributes source))
    (merged : ∀ a b, P a → P b → P (a.merge b)) {ref : Value} {style : Option Style}
    (resolved : registry.resolveRef ref host = .ok style) : ∀ found ∈ style, P found := by
  unfold resolveRef at resolved
  cases given : reference ref with
  | nothing =>
    rw [given] at resolved
    cases resolved
    exact nofun
  | named name overrides =>
    rw [given] at resolved
    obtain ⟨found,told,resolved⟩ := Ask.ok_of_bind resolved
    cases resolved
    rintro _ ⟨⟩
    exact resolveFrom_kept made merged told
  | inline attributes =>
    rw [given] at resolved
    cases resolved
    rintro _ ⟨⟩
    exact made _

theorem resolveRef_made {ref : Value} {style : Option Style} (resolved : registry.resolveRef ref host = .ok style) :
    ∀ found ∈ style, Made found := resolveRef_kept ofAttributes_made (fun _ _ => merge_made) resolved

-- A style that names another as the one it extends.
def Extends (registry : Registry) (style other : NamedStyle) : Prop :=
  style.parent.isAbsent = false ∧ registry.find? style.parent = some other

def Acyclic (registry : Registry) : Prop := ∀ style, ¬ Relation.TransGen registry.Extends style style

theorem isAmong_one {a x : Value} (among : isAmong [a] x = true) :
    x = a ∨ ∃ p q, x = number p ∧ a = number q ∧ Number.same p q = true := by
  cases x <;> cases a <;>
    simp only [isAmong,List.any_cons,List.any_nil,Bool.or_false,isSame,Bool.and_eq_true,beq_iff_eq,Bool.false_eq_true,
      Value.number?,Option.any_none,Option.any_some] at among
  case number p q => exact .inr ⟨p,q,rfl,rfl,among⟩
  case symbol =>
    obtain ⟨rfl,rfl⟩ := among
    exact .inl rfl
  all_goals first | exact .inl rfl | exact .inl (congrArg _ among)

theorem isAmong_same {a x : Value} (among : isAmong [a] x = true) (items : List Value) : isAmong items x = isAmong items a := by
  rcases isAmong_one among with rfl | ⟨p,q,rfl,rfl,same⟩
  · rfl
  · have held : Number.same p = Number.same q := by
      funext z
      rw [Bool.eq_iff_iff]
      exact ⟨Number.same_trans (Number.same_symm same),Number.same_trans same⟩
    simp only [isAmong,held]

theorem isNamed_unique {name other : Value} {style : NamedStyle} (named : style.isNamed name = true) (named' : style.isNamed other = true) :
    NamedStyle.isNamed name = NamedStyle.isNamed other :=
  funext fun _ => (isAmong_same named _).trans (isAmong_same named' _).symm

theorem find?_unique {name other : Value} {style style' : NamedStyle} (found : registry.find? name = some style)
    (found' : registry.find? other = some style') (named : style'.isNamed name = true) : style = style' := by
  have named' : style'.isNamed other = true := List.find?_some found'
  rw [find?,isNamed_unique named named',← find?] at found
  exact Option.some.inj (found.symm.trans found')

theorem resolveFrom_ends (acyclic : registry.Acyclic) {walk : List Value} {name overrides : Value}
    (ahead : ∀ style, registry.find? name = some style → ∀ other, Relation.ReflTransGen registry.Extends style other →
      other ∈ unvisited) : Ends host (resolveFrom registry unvisited walk name overrides) := by
  induction unvisited, walk, name, overrides using resolveFrom.induct registry with
  | case1 unvisited walk name overrides unknown =>
    rw [resolveFrom,unknown]
    exact .pure _
  | case2 unvisited walk name overrides named found met alone =>
    rw [resolveFrom_met found met,if_pos alone]
    exact .pure _
  | case3 unvisited walk name overrides named found met extends_ ih =>
    rw [resolveFrom_met found met,if_neg extends_]
    simp only [Bool.or_eq_true,Bool.not_eq_true',not_or,Bool.not_eq_true,Bool.not_eq_false] at extends_
    refine Ends.map (ih ?_)
    intro base based other reached
    have step : registry.Extends named base := ⟨extends_.1,based⟩
    refine List.mem_filter.mpr ⟨ahead named found other (.head step reached),?_⟩
    -- A style that the walk has met would extend itself.
    by_contra again
    simp only [Bool.not_eq_true',Bool.not_eq_false] at again
    have back : named = other := by
      rcases Relation.ReflTransGen.cases_tail reached with rfl | ⟨before,_,last⟩
      · exact find?_unique found based again
      · exact find?_unique found last.2 again
    subst back
    exact acyclic named (.head' step reached)
  | case4 unvisited walk name overrides named found gone =>
    exact absurd (List.any_eq_true.mpr ⟨named,ahead named found named .refl,List.find?_some found⟩) gone

theorem mem_of_reached {style other : NamedStyle} {name : Value} (found : registry.find? name = some style)
    (reached : Relation.ReflTransGen registry.Extends style other) : other ∈ registry := by
  rcases Relation.ReflTransGen.cases_tail reached with rfl | ⟨before,_,last⟩
  · exact List.mem_of_find?_eq_some found
  · exact List.mem_of_find?_eq_some last.2

theorem resolveRef_ends (acyclic : registry.Acyclic) (ref : Value) : Ends host (registry.resolveRef ref) := by
  unfold resolveRef
  cases reference ref with
  | nothing => exact .pure _
  | named name overrides => exact Ends.map (resolveFrom_ends acyclic fun style found other reached => mem_of_reached found reached)
  | inline attributes => exact .pure _

end Registry

end Trifold
