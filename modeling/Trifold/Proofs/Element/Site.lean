import Trifold.Proofs.Element.Tree

namespace Trifold.Tree
open Element

-- What holds of a value with nothing to look into, and of an element wherever it holds of everything inside it, holds of
-- every value.
@[elab_as_elim]
theorem nested {P : Value → Prop} (foreign : ∀ value, ofValue? value = none → P value)
    (sound : ∀ value element, ofValue? value = some element → (∀ held ∈ element.contents, P held) → P value)
    (value : Value) : P value := by
  cases read : ofValue? value with
  | none => exact foreign value read
  | some element =>
    refine sound value element read ?_
    intro held listed
    have := contents_lt read
    have := List.sizeOf_lt_of_mem listed
    exact nested foreign sound held
termination_by sizeOf value

-- An element and the way to it, from outside in: the positions of what is gone into among the contents of what holds it.
structure Site where
  way : List Nat
  value : Value
  element : Element

-- The same seen from an element that holds it at some position.
def Site.within (position : Nat) (site : Site) : Site := { site with way := position :: site.way }

-- Where a way leads, if all on it are elements.
def follow : List Nat → Value → Option Value
  | [], value => some value
  | position :: rest, value => do
      let element ← ofValue? value
      let held ← element.contents[position]?
      follow rest held

-- The sites of a tree in the order in which they are visited.
mutual
def sites (order : Order) (value : Value) : List Site :=
  match _ : ofValue? value with
  | none => []
  | some element =>
      match order with
      | .parentsFirst => ⟨[],value,element⟩ :: sitesAll order 0 element.contents
      | .childrenFirst => sitesAll order 0 element.contents ++ [⟨[],value,element⟩]
termination_by sizeOf value
decreasing_by all_goals exact contents_lt (by assumption)
def sitesAll (order : Order) (position : Nat) (values : List Value) : List Site :=
  match values with
  | [] => []
  | value :: rest => (sites order value).map (Site.within position) ++ sitesAll order (position + 1) rest
termination_by sizeOf values
end

variable {α : Type} {order : Order} {value : Value} {element : Element} {site : Site}

theorem sites_foreign (foreign : ofValue? value = none) : sites order value = [] := by
  rw [sites]
  split
  · rfl
  · rename_i sound
    rw [foreign] at sound
    cases sound

theorem sites_sound (sound : ofValue? value = some element) : sites order value = match order with
    | .parentsFirst => ⟨[],value,element⟩ :: sitesAll .parentsFirst 0 element.contents
    | .childrenFirst => sitesAll .childrenFirst 0 element.contents ++ [⟨[],value,element⟩] := by
  rw [sites]
  split
  · rename_i foreign
    rw [sound] at foreign
    cases foreign
  · rename_i found same
    rw [sound] at same
    cases same
    cases order <;> rfl

theorem sites_parentsFirst (sound : ofValue? value = some element) :
    sites .parentsFirst value = ⟨[],value,element⟩ :: sitesAll .parentsFirst 0 element.contents := sites_sound sound

theorem sites_childrenFirst (sound : ofValue? value = some element) :
    sites .childrenFirst value = sitesAll .childrenFirst 0 element.contents ++ [⟨[],value,element⟩] := sites_sound sound

theorem fold_foreign (visit : Value → Element → α → α) (foreign : ofValue? value = none) (held : α) :
    fold order visit value held = held := by
  rw [fold]
  split
  · rfl
  · rename_i sound
    rw [foreign] at sound
    cases sound

theorem fold_sound (visit : Value → Element → α → α) (sound : ofValue? value = some element) (held : α) :
    fold order visit value held = match order with
      | .parentsFirst => foldAll order visit element.contents (visit value element held)
      | .childrenFirst => visit value element (foldAll order visit element.contents held) := by
  rw [fold]
  split
  · rename_i foreign
    rw [sound] at foreign
    cases foreign
  · rename_i found same
    rw [sound] at same
    cases same
    rfl

def Site.visitBy (visit : Value → Element → α → α) (held : α) (site : Site) : α := visit site.value site.element held

theorem foldAll_sites {visit : Value → Element → α → α} {values : List Value}
    (each : ∀ value ∈ values, ∀ held, fold order visit value held = (sites order value).foldl (Site.visitBy visit) held)
    (position : Nat) (held : α) :
    foldAll order visit values held = (sitesAll order position values).foldl (Site.visitBy visit) held := by
  induction values generalizing position held with
  | nil => rw [foldAll,sitesAll,List.foldl_nil]
  | cons value rest ih =>
    obtain ⟨here,later⟩ := List.forall_mem_cons.mp each
    rw [foldAll,sitesAll,List.foldl_append,List.foldl_map,here,ih later (position + 1)]
    rfl

theorem fold_sites (order : Order) (visit : Value → Element → α → α) (value : Value) (held : α) :
    fold order visit value held = (sites order value).foldl (Site.visitBy visit) held := by
  induction value using nested generalizing held with
  | foreign value foreign => rw [fold_foreign visit foreign,sites_foreign foreign,List.foldl_nil]
  | sound value element read ih =>
    rw [fold_sound visit read]
    cases order with
    | parentsFirst =>
      rw [sites_parentsFirst read,List.foldl_cons,← foldAll_sites ih]
      rfl
    | childrenFirst =>
      rw [sites_childrenFirst read,List.foldl_append,← foldAll_sites ih]
      rfl

theorem sites_inOrder (value : Value) :
    (sites .parentsFirst value).map (fun site => (site.value,site.element)) = inOrder value := by
  have listed {β : Type} (read : β → Value × Element) (found : List β) (held : List (Value × Element)) :
      found.foldl (fun held next => held ++ [read next]) held = held ++ found.map read := by
    induction found generalizing held with
    | nil => rw [List.foldl_nil,List.map_nil,List.append_nil]
    | cons next rest ih => rw [List.foldl_cons,ih,List.map_cons,List.append_assoc,List.singleton_append]
  -- One and the same walk, which lists what it visits, goes through both.
  have walked := fold_sites .parentsFirst (fun value element held => held ++ [(value,element)]) value []
  rw [fold_inOrder] at walked
  have first := listed id (inOrder value) []
  have second := listed (fun site : Site => (site.value,site.element)) (sites .parentsFirst value) []
  rw [List.nil_append,List.map_id] at first
  exact second.symm.trans (walked.symm.trans first)

theorem sitesAll_perm {values : List Value}
    (each : ∀ value ∈ values, (sites .childrenFirst value).Perm (sites .parentsFirst value)) (position : Nat) :
    (sitesAll .childrenFirst position values).Perm (sitesAll .parentsFirst position values) := by
  induction values generalizing position with
  | nil => rw [sitesAll,sitesAll]
  | cons value rest ih =>
    obtain ⟨here,later⟩ := List.forall_mem_cons.mp each
    rw [sitesAll,sitesAll]
    exact (here.map _).append (ih later _)

theorem sites_perm (value : Value) : (sites .childrenFirst value).Perm (sites .parentsFirst value) := by
  induction value using nested with
  | foreign value foreign => rw [sites_foreign foreign,sites_foreign foreign]
  | sound value element read ih =>
    rw [sites_childrenFirst read,sites_parentsFirst read]
    exact List.perm_append_comm.trans ((sitesAll_perm ih 0).cons _)

theorem mem_sitesAll {values : List Value} {position : Nat} :
    site ∈ sitesAll order position values ↔ ∃ (i : Nat) (value : Value) (inner : Site),
      values[i]? = some value ∧ inner ∈ sites order value ∧ site = inner.within (position + i) := by
  induction values generalizing position with
  | nil => simp [sitesAll]
  | cons value rest ih =>
    rw [sitesAll,List.mem_append,List.mem_map,ih]
    constructor
    · rintro (⟨inner,there,rfl⟩ | ⟨i,held,inner,listed,there,rfl⟩)
      · exact ⟨0,value,inner,rfl,there,rfl⟩
      · exact ⟨i + 1,held,inner,listed,there,by rw [Nat.add_assoc,Nat.add_comm 1]⟩
    · rintro ⟨i,held,inner,listed,there,rfl⟩
      cases i with
      | zero =>
        cases listed
        exact .inl ⟨inner,there,rfl⟩
      | succ i => exact .inr ⟨i,held,inner,listed,there,by rw [Nat.add_assoc,Nat.add_comm 1]⟩

theorem mem_sites_sound (sound : ofValue? value = some element) :
    site ∈ sites order value ↔ site = ⟨[],value,element⟩ ∨ site ∈ sitesAll order 0 element.contents := by
  cases order with
  | parentsFirst => rw [sites_parentsFirst sound,List.mem_cons]
  | childrenFirst => rw [sites_childrenFirst sound,List.mem_append,List.mem_singleton,or_comm]

theorem mem_sites : site ∈ sites order value ↔
    follow site.way value = some site.value ∧ ofValue? site.value = some site.element := by
  induction value using nested generalizing site with
  | foreign value foreign =>
    rw [sites_foreign foreign]
    refine ⟨nofun,?_⟩
    rintro ⟨led,sound⟩
    obtain ⟨way,last,element⟩ := site
    cases way with
    | nil =>
      cases led
      cases foreign.symm.trans sound
    | cons position rest => simp [follow,foreign] at led
  | sound value element read ih =>
    rw [mem_sites_sound read,mem_sitesAll]
    constructor
    · rintro (rfl | ⟨i,held,inner,listed,there,rfl⟩)
      · exact ⟨rfl,read⟩
      · obtain ⟨led,sound⟩ := (ih held (List.mem_of_getElem? listed)).mp there
        refine ⟨?_,sound⟩
        simp only [Site.within,follow,read,Nat.zero_add,listed,Option.bind_eq_bind,Option.bind_some]
        exact led
    · rintro ⟨led,sound⟩
      obtain ⟨way,last,found⟩ := site
      cases way with
      | nil =>
        cases led
        cases read.symm.trans sound
        exact .inl rfl
      | cons position rest =>
        simp only [follow,read,Option.bind_eq_bind,Option.bind_some,Option.bind_eq_some_iff] at led
        obtain ⟨held,listed,led⟩ := led
        have inside := (@ih held (List.mem_of_getElem? listed) ⟨rest,last,found⟩).mpr ⟨led,sound⟩
        exact .inr ⟨position,held,_,listed,inside,by rw [Nat.zero_add]; rfl⟩

-- Whether a way leads on from where another one ends.
def Above (way further : List Nat) : Prop := ∃ position rest, further = way ++ position :: rest

-- Whether two ways part, and the first of them goes into what stands further to the front.
inductive Before : List Nat → List Nat → Prop
  | parted {i j : Nat} (front : i < j) (way further : List Nat) : Before (i :: way) (j :: further)
  | onward {way further : List Nat} (i : Nat) (later : Before way further) : Before (i :: way) (i :: further)

-- What an order puts first: what stands in front, and of an element and what is inside it the one that it names.
def Precedes (order : Order) (way further : List Nat) : Prop :=
  Before way further ∨ match order with
    | .parentsFirst => Above way further
    | .childrenFirst => Above further way

theorem Above.onward {way further : List Nat} (above : Above way further) (i : Nat) : Above (i :: way) (i :: further) := by
  obtain ⟨position,rest,rfl⟩ := above
  exact ⟨position,rest,rfl⟩

theorem Precedes.onward {way further : List Nat} (precedes : Precedes order way further) (i : Nat) :
    Precedes order (i :: way) (i :: further) := by
  refine precedes.imp (.onward i) ?_
  cases order with
  | parentsFirst => exact (Above.onward · i)
  | childrenFirst => exact (Above.onward · i)

theorem sitesAll_ordered {values : List Value}
    (each : ∀ value ∈ values, (sites order value).Pairwise fun site later => Precedes order site.way later.way)
    (position : Nat) : (sitesAll order position values).Pairwise fun site later => Precedes order site.way later.way := by
  induction values generalizing position with
  | nil => rw [sitesAll]; exact .nil
  | cons value rest ih =>
    obtain ⟨here,later⟩ := List.forall_mem_cons.mp each
    rw [sitesAll,List.pairwise_append,List.pairwise_map]
    refine ⟨here.imp fun precedes => precedes.onward position,ih later _,?_⟩
    intro first there second listed
    obtain ⟨inner,_,rfl⟩ := List.mem_map.mp there
    obtain ⟨i,_,other,_,_,rfl⟩ := mem_sitesAll.mp listed
    exact .inl (.parted (by omega) _ _)

theorem sites_ordered (order : Order) (value : Value) :
    (sites order value).Pairwise fun site later => Precedes order site.way later.way := by
  induction value using nested with
  | foreign value foreign => rw [sites_foreign foreign]; exact .nil
  | sound value element read ih =>
    have inside := sitesAll_ordered ih 0
    have below : ∀ site ∈ sitesAll order 0 element.contents, Above [] site.way := by
      intro site there
      obtain ⟨i,_,inner,_,_,rfl⟩ := mem_sitesAll.mp there
      exact ⟨0 + i,inner.way,rfl⟩
    cases order with
    | parentsFirst =>
      rw [sites_parentsFirst read,List.pairwise_cons]
      exact ⟨fun site there => .inr (below site there),inside⟩
    | childrenFirst =>
      rw [sites_childrenFirst read,List.pairwise_append]
      refine ⟨inside,List.pairwise_singleton _ _,?_⟩
      intro site there last same
      cases List.mem_singleton.mp same
      exact .inr (below site there)

theorem Above.not_before {way further : List Nat} (above : Above way further) : ¬ Before way further ∧ ¬ Before further way := by
  obtain ⟨position,rest,rfl⟩ := above
  induction way with
  | nil => exact ⟨nofun,nofun⟩
  | cons i way ih =>
    constructor
    · intro before
      cases before with
      | parted front => exact Nat.lt_irrefl _ front
      | onward _ later => exact ih.1 later
    · intro before
      cases before with
      | parted front => exact Nat.lt_irrefl _ front
      | onward _ later => exact ih.2 later

theorem Above.longer {way further : List Nat} (above : Above way further) : way.length < further.length := by
  obtain ⟨position,rest,rfl⟩ := above
  simp

theorem Precedes.not_above {way further : List Nat} (precedes : Precedes .childrenFirst way further) : ¬ Above way further := by
  intro above
  rcases precedes with before | below
  · exact above.not_before.1 before
  · exact Nat.lt_asymm above.longer below.longer

theorem Precedes.siblings {stem : List Nat} {i j : Nat} (precedes : Precedes order (stem ++ [i]) (stem ++ [j])) : i < j := by
  have before : Before (stem ++ [i]) (stem ++ [j]) := by
    rcases precedes with before | above
    · exact before
    · cases order <;> exact absurd above.longer (by simp)
  clear precedes
  induction stem with
  | nil =>
    cases before with
    | parted front => exact front
    | onward _ later => cases later
  | cons k stem ih =>
    cases before with
    | parted front => exact absurd front (Nat.lt_irrefl _)
    | onward _ later => exact ih later

end Trifold.Tree
