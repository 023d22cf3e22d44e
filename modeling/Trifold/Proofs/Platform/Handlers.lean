import Trifold.Platform.Handlers
import Trifold.Proofs.Value.Built

namespace Trifold.Handlers
open Value

variable {found : Found}

def entries (found : Found) : Fields Value := Fields.mapValues object found

theorem keys_entries (found : Found) : Fields.keys (entries found) = Fields.keys found := by
  rw [entries,Fields.keys,Fields.mapValues,List.map_map]
  rfl

theorem toValue_named (named : baseName ∉ Fields.keys found) :
    toValue found = .ok (object (Fields.putAll [] (entries found))) := by
  refine assignAll_named true ?_ []
  intro entry there same
  exact named (keys_entries found ▸ same ▸ List.mem_map_of_mem there)

theorem get?_entries (id : String) (found : Found) : Fields.get? id (entries found) = (Fields.get? id found).map object := by
  induction found with
  | nil => rfl
  | cons entry rest ih =>
    obtain ⟨name,handlers⟩ := entry
    change Fields.get? id ((name,object handlers) :: entries rest) = _
    rw [Fields.get?_cons,Fields.get?_cons,ih]
    split <;> rfl

theorem get?_toValue (once : (Fields.keys found).Nodup) (id : String) :
    Fields.get? id (Fields.putAll [] (entries found)) = (Fields.get? id found).map object := by
  rw [Fields.get?_putAll id (keys_entries found ▸ once),get?_entries]
  exact Option.or_none

end Trifold.Handlers
