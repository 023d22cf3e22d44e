import Trifold.Element.Basic
import Trifold.Value.Same
import Trifold.Value.Text

namespace Trifold.Tree

inductive Order where
  | parentsFirst
  | childrenFirst
  deriving DecidableEq

variable {α : Type}

mutual
def fold (order : Order) (visit : Value → Element → α → α) (value : Value) (held : α) : α :=
  match _ : Element.ofValue? value with
  | none => held
  | some element =>
      match order with
      | .parentsFirst => foldAll order visit element.contents (visit value element held)
      | .childrenFirst => visit value element (foldAll order visit element.contents held)
termination_by sizeOf value
decreasing_by all_goals exact Element.contents_lt (by assumption)
def foldAll (order : Order) (visit : Value → Element → α → α) (values : List Value) (held : α) : α :=
  match values with
  | [] => held
  | value :: rest => foldAll order visit rest (fold order visit value held)
termination_by sizeOf values
end

mutual
def first? (holds : Element → Bool) (value : Value) : Option Value :=
  match _ : Element.ofValue? value with
  | none => none
  | some element => if holds element then some value else firstAmong? holds element.contents
termination_by sizeOf value
decreasing_by exact Element.contents_lt (by assumption)
def firstAmong? (holds : Element → Bool) (values : List Value) : Option Value :=
  match values with
  | [] => none
  | value :: rest => (first? holds value).orElse fun _ => firstAmong? holds rest
termination_by sizeOf values
end

-- An element without an id answers to the absent one.
def isNamed (id : Value) (element : Element) : Bool := Value.isSame (Value.ofText? element.id) id

def find? (id root : Value) : Option Value := first? (isNamed id) root

def get (id root : Value) : Ask Value := do
  match find? id root with
  | some value => return value
  | none => throw (.missingElement (← id.shown))

def gather (root : Value) (answer : Element → Option α) : List α :=
  fold .parentsFirst (fun _ element held => held ++ (answer element).toList) root []

def styles (root : Value) : List Value := gather root (·.style)

def count (root : Value) : Nat := fold .parentsFirst (fun _ _ n => n + 1) root 0

def countByKind (root : Value) : Fields Nat :=
  fold .parentsFirst (fun _ element counts =>
    Fields.put element.kind.name ((Fields.get? element.kind.name counts).getD 0 + 1) counts) root []

def ids (root : Value) : List String := gather root (·.id)

def any (root : Value) (holds : Element → Bool) : Bool :=
  fold .parentsFirst (fun _ element found => found || holds element) root false

end Trifold.Tree
