import Trifold.Number.Basic
import Trifold.Value.Basic

namespace Trifold

class OfValue (α : Type) where
  ofValue : Value → α

class ToValue (α : Type) where
  toValue : α → Value

export OfValue (ofValue)

export ToValue (toValue)

variable {α β : Type}

instance : OfValue Value := ⟨id⟩
instance : OfValue String := ⟨fun value => value.text?.getD ""⟩
instance : OfValue Float := ⟨fun value => value.number?.getD Number.nan⟩
instance : OfValue Bool := ⟨fun value => value.bool?.getD false⟩
instance : OfValue Nat := ⟨fun value => ((value.number?.bind Number.truncated?).map Int.toNat).getD 0⟩
instance [OfValue α] : OfValue (List α) := ⟨fun value => (value.list?.getD []).map ofValue⟩
instance [OfValue α] : OfValue (Option α) := ⟨fun value => value.present?.map ofValue⟩
instance : OfValue (Option String) := ⟨Value.text?⟩
instance : OfValue (Option Float) := ⟨Value.number?⟩
instance : OfValue (Option (List Value)) := ⟨Value.list?⟩
instance : OfValue (Fields Value) := ⟨fun value => value.fields?.getD []⟩

instance : ToValue Value := ⟨id⟩
instance : ToValue Bool := ⟨.bool⟩
instance : ToValue Nat := ⟨Value.ofNat⟩
instance : ToValue Float := ⟨.number⟩
instance : ToValue String := ⟨.text⟩
instance [ToValue α] : ToValue (List α) := ⟨fun all => .list (all.map toValue)⟩
instance [ToValue α] : ToValue (Option α) := ⟨fun a => Value.ofOption (a.map toValue)⟩
instance [ToValue α] [ToValue β] : ToValue (α × β) := ⟨fun (a,b) => .list [toValue a, toValue b]⟩

def Value.at [OfValue α] (value : Value) (key : String) : α := ofValue (value.get key)

end Trifold
