import Trifold.Platform.Details
import Trifold.Proofs.Platform.Alike
import Trifold.Proofs.Value.Built

namespace Trifold.Details
open Value
open List (Forall₂)

variable {level : Value → Value → Prop} {host : Host} {a b : Value} {element element' : Element}

theorem picked_aligned (alike : Alike level a b) (names : List String) : Aligned (picked names a) (picked names b) := by
  refine Aligned.defined ?_
  induction names with
  | nil => exact .nil
  | cons name rest ih => exact .cons ⟨rfl,(alike.get name).same⟩ ih

theorem keys_picked (names : List String) (value : Value) : (Fields.keys (picked names value)).Sublist names := by
  have whole : Fields.keys (names.map fun name => (name,value.get name)) = names := by
    rw [Fields.keys,List.map_map]
    exact List.map_id names
  have shorter : (Fields.keys (picked names value)).Sublist (Fields.keys (names.map fun name => (name,value.get name))) :=
    List.filter_sublist.map Prod.fst
  rwa [whole] at shorter

theorem same_texts (names : List String) : same (texts names) (texts names) = true := by
  refine same_refl (distinctItems_iff.mpr ?_)
  intro item there
  obtain ⟨name,_,rfl⟩ := List.mem_map.mp there
  trivial

theorem derived_aligned (pair : Counterpart host a b element element') :
    Aligned (derived element.body) (derived element'.body) := by
  have bodies := pair.matched.body
  have drawn (left right : Table) (body : element.body = .table left) (body' : element'.body = .table right) :=
    pair.beside body body'
  generalize element.body = body at bodies drawn
  generalize element'.body = body' at bodies drawn
  cases bodies with
  | @table left right tables =>
    have columns := Table.shownColumns_matched (drawn left right rfl rfl)
    have names : (Table.shownColumns left).map (·.key) = (Table.shownColumns right).map (·.key) :=
      Agree.map_eq columns fun _ _ matched => matched.key
    rw [derived,derived,names,tables.data.length_eq]
    exact .cons ⟨rfl,same_texts _⟩ (.cons ⟨rfl,same_refl trivial⟩ .nil)
  | menuItem _ _ _ _ _ submenu =>
    rw [derived,derived,Agree.isSome_eq submenu]
    exact .cons ⟨rfl,same_refl trivial⟩ .nil
  | treeNode _ _ _ _ _ _ children =>
    rw [derived,derived,Agree.isSome_eq children]
    exact .cons ⟨rfl,same_refl trivial⟩ .nil
  | _ => exact .nil

-- All names that may be recorded.
def names (further : List String) (element : Element) : List String :=
  further ++ keys element.kind ++ Fields.keys (derived element.body)

theorem keys_fields (further : List String) (value : Value) (element : Element) :
    (Fields.keys (picked (further ++ keys element.kind) value ++ derived element.body)).Sublist (names further element) := by
  rw [Fields.keys,List.map_append]
  exact (keys_picked _ value).append_right _

theorem ofElement_aligned (pair : Counterpart host a b element element') (further : List String) :
    Aligned (picked (further ++ keys element.kind) a ++ derived element.body)
      (picked (further ++ keys element'.kind) b ++ derived element'.body) := by
  rw [← pair.kind]
  exact List.rel_append (picked_aligned pair.alike _) (derived_aligned pair)

theorem ofElement_built (pair : Counterpart host a b element element') (further : List String)
    (once : (names further element).Nodup) :
    Built (ofElement further a element) (ofElement further b element') :=
  .record (ofElement_aligned pair further) (once.sublist (keys_fields further a element))

end Trifold.Details
