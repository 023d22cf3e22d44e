import Trifold.Proofs.Value.Alike
import Trifold.Proofs.Value.Spread
import Trifold.Value.Assign

namespace Trifold.Value
open List (Forall₂)

abbrev SameEntry (entry other : String × Value) : Prop := entry.1 = other.1 ∧ same entry.2 other.2 = true

abbrev Aligned (fields others : Fields Value) : Prop := Forall₂ SameEntry fields others

inductive Built : Value → Value → Prop
  | record {fields others : Fields Value} (aligned : Aligned fields others) (once : (Fields.keys fields).Nodup) :
      Built (object fields) (object others)

theorem isAbsent_same {a b : Value} (equal : same a b = true) : a.isAbsent = b.isAbsent := by
  rw [same_iff] at equal
  cases equal <;> rfl

namespace Aligned

variable {fields others entries entries' : Fields Value} {a b : Value}

theorem keys (aligned : Aligned fields others) : Fields.keys fields = Fields.keys others :=
  Agree.map_eq aligned fun _ _ same => same.1

theorem defined (aligned : Aligned fields others) : Aligned (Value.defined fields) (Value.defined others) := by
  induction aligned with
  | nil => exact .nil
  | @cons entry other _ _ here rest ih =>
    rw [Value.defined,Value.defined,List.filter_cons,List.filter_cons,isAbsent_same here.2]
    cases other.2.isAbsent
    · exact .cons here ih
    · exact ih

theorem get? (aligned : Aligned fields others) (key : String) :
    Option.Rel (fun x y => same x y = true) (Fields.get? key fields) (Fields.get? key others) := by
  induction aligned with
  | nil => exact .none
  | @cons entry other _ _ here rest ih =>
    obtain ⟨name,value⟩ := entry
    obtain ⟨_,value'⟩ := other
    obtain ⟨rfl,equal⟩ := here
    rw [Fields.get?_cons,Fields.get?_cons]
    split
    · exact .some equal
    · exact ih

theorem replace (aligned : Aligned fields others) (key : String) (equal : same a b = true) :
    Aligned (Fields.replace key a fields) (Fields.replace key b others) := by
  induction aligned with
  | nil => exact .nil
  | @cons entry other _ _ here rest ih =>
    obtain ⟨name,value⟩ := entry
    obtain ⟨_,value'⟩ := other
    obtain ⟨rfl,held⟩ := here
    rw [Fields.replace,Fields.replace]
    split
    · exact .cons ⟨rfl,equal⟩ rest
    · exact .cons ⟨rfl,held⟩ ih

theorem insert (aligned : Aligned fields others) (key : String) (equal : same a b = true) :
    Aligned (Fields.insert key a fields) (Fields.insert key b others) := by
  induction aligned with
  | nil => exact .cons ⟨rfl,equal⟩ .nil
  | @cons entry other _ _ here rest ih =>
    obtain ⟨name,value⟩ := entry
    obtain ⟨_,value'⟩ := other
    obtain ⟨rfl,held⟩ := here
    rw [Fields.insert,Fields.insert]
    split
    · exact .cons ⟨rfl,held⟩ ih
    · exact .cons ⟨rfl,equal⟩ (.cons ⟨rfl,held⟩ rest)

theorem put (aligned : Aligned fields others) (key : String) (equal : same a b = true) :
    Aligned (Fields.put key a fields) (Fields.put key b others) := by
  rw [Fields.put,Fields.put,Fields.has,Fields.has,Agree.isSome_eq (aligned.get? key)]
  split
  · exact aligned.replace key equal
  · exact aligned.insert key equal

theorem putAll (aligned : Aligned fields others) (written : Aligned entries entries') :
    Aligned (Fields.putAll fields entries) (Fields.putAll others entries') := by
  induction written generalizing fields others with
  | nil => exact aligned
  | @cons entry other _ _ here rest ih =>
    obtain ⟨name,value⟩ := entry
    obtain ⟨_,value'⟩ := other
    obtain ⟨rfl,equal⟩ := here
    exact ih (aligned.put name equal)

theorem same_object (aligned : Aligned fields others) (once : (Fields.keys fields).Nodup) :
    same (object fields) (object others) = true := by
  refine same_record.mpr ⟨rfl,aligned.defined.length_eq,?_⟩
  intro entry listed there
  have met := aligned.get? entry.1
  rw [Fields.get?_of_mem once listed] at met
  generalize found : Fields.get? entry.1 others = other at met
  cases met with
  | some equal => exact ⟨_,held_eq_some.mpr ⟨found,(isAbsent_same equal).symm.trans there⟩,equal⟩

end Aligned

theorem Built.same {a b : Value} (built : Built a b) : same a b = true := by
  cases built with
  | record aligned once => exact aligned.same_object once

theorem Built.put {a b v w : Value} (built : Built a b) (key : String) (equal : Value.same v w = true) :
    Built (object (Fields.put key v (own a))) (object (Fields.put key w (own b))) := by
  cases built with
  | record aligned once => exact .record (aligned.put key equal) (Fields.nodup_put once)

theorem same_list_of_built {xs ys : List Value} (items : Forall₂ Built xs ys) : same (list xs) (list ys) = true :=
  same_list.mpr (items.imp fun _ _ built => built.same)

-- Names other than the special one are simply written.
theorem assign_named (locked : Bool) {key : String} (named : key ≠ baseName) (value : Value) (fields : Fields Value) :
    assign locked key value (object fields) = .ok (object (Fields.put key value fields)) := by
  have plain : setsBase key (object fields) = false := by rw [setsBase,beq_false_of_ne named,Bool.false_and]
  change (if setsBase key (object fields) then Except.ok (rebased locked value (object fields))
    else .ok (object (Fields.put key value fields))) = _
  rw [plain]
  rfl

theorem assignAll_named (locked : Bool) {entries : List (String × Value)} (named : ∀ entry ∈ entries, entry.1 ≠ baseName)
    (fields : Fields Value) :
    entries.foldlM (fun target entry => assign locked entry.1 entry.2 target) (object fields) =
      .ok (object (Fields.putAll fields entries)) := by
  induction entries generalizing fields with
  | nil => rfl
  | cons entry rest ih =>
    obtain ⟨here,later⟩ := List.forall_mem_cons.mp named
    rw [List.foldlM_cons,assign_named locked here]
    exact ih later _

theorem assignDefined_named {fields : Fields Value} (named : ∀ entry ∈ fields, entry.1 ≠ baseName) :
    assignDefined fields = .ok (object (Fields.putAll [] (defined fields))) := by
  refine assignAll_named false ?_ []
  intro entry there
  exact named entry (List.mem_filter.mp there).1

theorem assignDefined_aligned {fields others : Fields Value} (aligned : Aligned fields others)
    (named : ∀ entry ∈ fields, entry.1 ≠ baseName) :
    Agree.Outcome Built (assignDefined fields) (assignDefined others) := by
  have named' : ∀ entry ∈ others, entry.1 ≠ baseName := by
    intro entry there
    have listed : entry.1 ∈ Fields.keys fields := aligned.keys ▸ List.mem_map_of_mem there
    obtain ⟨other,inside,same⟩ := List.mem_map.mp listed
    exact same ▸ named other inside
  rw [assignDefined_named named,assignDefined_named named']
  have none : (Fields.keys ([] : Fields Value)).Nodup := List.nodup_nil
  exact .ok (.record (Aligned.putAll .nil aligned.defined) (Fields.nodup_putAll none _))

end Trifold.Value
