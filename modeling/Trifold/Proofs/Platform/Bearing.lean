import Trifold.Platform.Details
import Trifold.Platform.Handlers
import Trifold.Proofs.Element.Held

namespace Trifold
open Value

namespace Element

-- The handlers of an element under their event keys. That of a menu item stands under a name of the platform's own.
def handlersOf (action : String) (element : Element) : List (String × Option Value) :=
  match element.body with
  | .button it => [("onClick",it.onClick)]
  | .menuItem it => [(action,it.action)]
  | .textInput it => [("onChange",it.onChange), ("onSubmit",it.onSubmit)]
  | .table it => [("onRowSelect",it.onRowSelect), ("onSort",it.onSort)]
  | .tabs it => [("onChange",it.onChange)]
  | .treeView it => [("onSelect",it.onSelect), ("onToggle",it.onToggle)]
  | _ => []

def borne (handlers : List (String × Option Value)) : Fields Value :=
  handlers.filterMap fun (key,handler) => (handler.bind Handler.ofValue?).map fun handler => (key,handler.toValue)

-- An element is listed under its id if it bears a handler, and an input in any case.
def bearing (action : String) (element : Element) : Handlers.Found :=
  Handlers.entry (element.kind == .textInput) element.id (borne (element.handlersOf action))

end Element

namespace Element

theorem handlersOf_held {value : Value} {element : Element} (sound : ofValue? value = some element) :
    ∀ entry ∈ element.handlersOf "action", value.get entry.1 = ofOption entry.2 := by
  intro entry there
  have read {written : Value} (listed : Fields.get? entry.1 element.allFields = some written) :
      value.get entry.1 = written := get_of_sound sound listed
  obtain ⟨id,style,visible,body⟩ := element
  cases body with
  | button | menuItem | tabs =>
    cases List.mem_singleton.mp there
    exact read rfl
  | textInput | table | treeView =>
    rcases List.mem_pair.mp there with rfl | rfl
    · exact read rfl
    · exact read rfl
  | _ => cases there

end Element

namespace Handlers
open Element

variable {value details : Value} {names keys : List String}

theorem ofValue?_ofOption (handler : Option Value) : Handler.ofValue? (ofOption handler) = handler.bind Handler.ofValue? := by
  cases handler <;> rfl

theorem among_borne {handlers : List (String × Option Value)}
    (held : ∀ entry ∈ handlers, value.get entry.1 = ofOption entry.2) :
    among (handlers.map (·.1)) value = borne handlers := by
  induction handlers with
  | nil => rfl
  | cons entry rest ih =>
    obtain ⟨here,later⟩ := List.forall_mem_cons.mp held
    have first := ofValue?_ofOption entry.2
    rw [← here] at first
    rw [List.map_cons,among,List.filterMap_cons,first,borne,List.filterMap_cons]
    have others := ih later
    rw [among,borne] at others
    rw [others]

-- Of what is recorded only the recorded names can be found.
theorem among_recorded (reads : ∀ key ∈ keys, details.get key = if key ∈ names then value.get key else absent) :
    among keys details = among (keys.filter (· ∈ names)) value := by
  induction keys with
  | nil => rfl
  | cons key rest ih =>
    obtain ⟨here,later⟩ := List.forall_mem_cons.mp reads
    have others := ih later
    rw [among,among] at others
    by_cases there : key ∈ names
    · rw [if_pos there] at here
      rw [among,among,List.filterMap_cons,here,List.filter_cons_of_pos (by simpa using there),List.filterMap_cons,others]
    · rw [if_neg there] at here
      rw [among,among,List.filterMap_cons,here,List.filter_cons_of_neg (by simpa using there),others]
      rfl

end Handlers

namespace Details

variable {value : Value} {key : String}

theorem get?_picked {names : List String} (once : names.Nodup) :
    Fields.get? key (picked names value) = if key ∈ names then (value.get key).present? else none := by
  have listed : Fields.keys (names.map fun name => (name,value.get name)) = names := by
    rw [Fields.keys,List.map_map]
    exact List.map_id names
  rw [picked,get?_defined (by rwa [listed])]
  split
  · rename_i there
    have inside : (key,value.get key) ∈ names.map fun name => (name,value.get name) := List.mem_map.mpr ⟨key,there,rfl⟩
    rw [Fields.get?_of_mem (by rwa [listed]) inside]
    rfl
  · rename_i nothing
    rw [Fields.get?_eq_none.mpr (by rwa [listed])]
    rfl

theorem get?_append {fields others : Fields Value} (fresh : key ∉ Fields.keys others) :
    Fields.get? key (fields ++ others) = Fields.get? key fields := by
  induction fields with
  | nil => exact Fields.get?_eq_none.mpr fresh
  | cons entry rest ih =>
    obtain ⟨name,held⟩ := entry
    rw [List.cons_append,Fields.get?_cons,Fields.get?_cons,ih]

theorem get?_recorded {names : List String} {element : Element} (once : names.Nodup)
    (fresh : key ∉ Fields.keys (derived element.body)) :
    Fields.get? key (picked names value ++ derived element.body) =
      if key ∈ names then (value.get key).present? else none := by
  rw [get?_append fresh,get?_picked once]

end Details

namespace Handlers

theorem event_plain (body : Body) : ∀ key ∈ ["onClick", "onChange", "onSubmit", "onSelect", "onToggle", "onRowSelect", "onSort",
    "action"], key ∉ Fields.keys (Details.derived body) ∧ inherited key = absent := by
  intro key listed
  simp only [List.mem_cons,List.not_mem_nil,or_false] at listed
  rcases listed with rfl | rfl | rfl | rfl | rfl | rfl | rfl | rfl
  all_goals
    refine ⟨?_,rfl⟩
    cases body <;> simp [Details.derived,Fields.keys]

theorem among_details {value : Value} {element : Element} {names keys : List String} {fields : Fields Value}
    (once : names.Nodup) (plain : ∀ key ∈ keys, key ∉ Fields.keys (Details.derived element.body) ∧ inherited key = absent)
    (kept : ∀ key, (Fields.get? key fields).getD absent =
      (Fields.get? key (Details.picked names value ++ Details.derived element.body)).getD absent) :
    among keys (object fields) = among (keys.filter (· ∈ names)) value := by
  apply among_recorded
  intro key listed
  obtain ⟨fresh,unanswered⟩ := plain key listed
  rw [object,Value.get,if_neg Bool.false_ne_true,unanswered,kept,Details.get?_recorded once fresh]
  split
  · cases value.get key <;> rfl
  · rfl

end Handlers

end Trifold
