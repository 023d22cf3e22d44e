import Trifold.Attributes
import Trifold.Value.Numeric

namespace Trifold
open Attributes

-- What is inside: entities, or something that is none and may still have a length, or nothing that could be asked.
mutual
inductive Entity where
  | mk (name : Option String) (attributes : Value) (inside : Entity.Inside) (written : Value)
inductive Entity.Inside where
  | entities (all : List Entity)
  | other (length : Value)
  | nothing
end

namespace Entity

def name : Entity → Option String
  | ⟨name,_,_,_⟩ => name

def attributes : Entity → Value
  | ⟨_,attributes,_,_⟩ => attributes

def inside : Entity → Inside
  | ⟨_,_,inside,_⟩ => inside

def written : Entity → Value
  | ⟨_,_,_,written⟩ => written

def camelChars : List Char → List Char
  | [] => []
  | '_' :: c :: rest =>
      if 'a' ≤ c && c ≤ 'z' then c.toUpper :: camelChars rest else '_' :: camelChars (c :: rest)
  | c :: rest => c :: camelChars rest

def camel (name : String) : String := String.ofList (camelChars name.toList)

def camelOf (name : Value) : Ask String := do return camel (← name.textOf "name.replace")

def normalized (source : Value) : Value :=
  .list ((entries source).map fun (key,value) => .list [.text (camel key), value])

def made (name attributes entities : Value) : Value :=
  .object [("name",name), ("attrs",normalized attributes), ("entities",entities)]

def make (name attributes entities : Value) : Value :=
  made name (attributes.given (.object [])) (entities.given (.list []))

-- A record with a name is an entity; its attributes may be anything, its entities one or many.
mutual
def parse (value : Value) : List Value :=
  match value with
  | .list items => parseAll items
  | .absent => []
  | value => (parseOne value).toList
termination_by (sizeOf value,1)
def parseAll (values : List Value) : List Value :=
  match values with
  | [] => []
  | value :: rest => (parseOne value).toList ++ parseAll rest
termination_by (sizeOf values,0)
def parseOne (value : Value) : Option Value :=
  match (value.get "name").text? with
  | none => none
  | some name =>
      if !value.isPlain || name.isEmpty then none
      else
        let inside := if _ : (value.get "entities").isAbsent then [] else parse (value.get "entities")
        some (made (.text name) (value.get "attrs") (.list inside))
termination_by (sizeOf value,0)
decreasing_by
  have there : value.get "entities" ≠ .absent := fun missing => by simp_all [Value.isAbsent]
  have := Value.sizeOf_get_lt (by decide) value there
  exact Prod.Lex.left _ _ (by omega)
end

def nameless (value : Value) : Entity := ⟨none,.absent,.nothing,value⟩

mutual
def ofValue (value : Value) : Entity :=
  let inside := match _ : value.get "entities" with
    | .list items => Inside.entities (ofValues items)
    | .text s => .entities ((Value.characters s).map nameless)
    | .absent | .null => .nothing
    | other => .other (other.get "length")
  ⟨(value.get "name").text?,value.get "attrs",inside,value⟩
termination_by sizeOf value
decreasing_by exact Value.sizeOf_listed_lt "entities" (by decide) (by assumption)
def ofValues (values : List Value) : List Entity :=
  match values with
  | [] => []
  | value :: rest => ofValue value :: ofValues rest
termination_by sizeOf values
end

def all (values : Value) : Ask (List Entity) := do return ofValues (← values.items)

def contents (entity : Entity) : Ask (List Entity) :=
  match entity.inside with
  | .entities all => return all
  | _ => .misuse (.notIterable "entity.entities")

def isFilled (entity : Entity) : Ask Bool :=
  match entity.inside with
  | .entities all => return !all.isEmpty
  | .other length => length.isAbove (.number 0)
  | .nothing => .misuse (.readOfAbsent "length")

def isNamed (name : String) (wanted : Value) : Bool := Value.isSame (.text name) wanted

def opens (child : Entity) (name : String) (collection : Value) : Ask Bool :=
  if isNamed name collection then child.isFilled else return false

-- What a child adds to a named collection: a child named after the collection gives what it holds, and a child of
-- the wanted kind gives itself. Without a wanted kind an empty child of that name gives itself.
def share (collection wanted : Value) (child : Entity) : Ask (List Entity) := do
  match child.name with
  | none => .misuse (.notCallable "name.replace")
  | some name =>
      let name := camel name
      if ← child.opens name collection then child.contents
      else return if isNamed name (wanted.given collection) then [child] else []

def nestedFrom (collection wanted : Value) : List Entity → Ask (List Entity)
  | [] => return []
  | child :: rest => do
      let here ← share collection wanted child
      return here ++ (← nestedFrom collection wanted rest)

def nested (entity : Entity) (collection wanted : Value) : Ask (List Entity) := do
  nestedFrom collection wanted (← entity.contents)

theorem sizeOf_append {α : Type} [SizeOf α] (xs ys : List α) : sizeOf (xs ++ ys) + 1 = sizeOf xs + sizeOf ys := by
  induction xs with
  | nil => simp +arith
  | cons x xs ih => simp only [List.cons_append,List.cons.sizeOf_spec]; omega

theorem sizeOf_contents {entity : Entity} {host : Host} {inside : List Entity}
    (held : entity.contents host = .ok inside) : sizeOf inside < sizeOf entity := by
  obtain ⟨name,attributes,contents,written⟩ := entity
  cases contents with
  | entities all =>
    cases held
    simp only [mk.sizeOf_spec,Inside.entities.sizeOf_spec]
    omega
  | other length => cases held
  | nothing => cases held

theorem sizeOf_share {collection wanted : Value} {child : Entity} {host : Host} {here : List Entity}
    (given : share collection wanted child host = .ok here) : sizeOf here ≤ sizeOf child + 2 := by
  unfold share at given
  cases named : child.name with
  | none => simp only [named] at given; cases given
  | some name =>
    simp only [named] at given
    obtain ⟨filled,_,given⟩ := Ask.ok_of_bind given
    cases filled with
    | true =>
      have := sizeOf_contents given
      omega
    | false =>
      cases given
      split <;> simp only [List.cons.sizeOf_spec,List.nil.sizeOf_spec] <;> omega

theorem sizeOf_nestedFrom {collection wanted : Value} {host : Host} {children found : List Entity}
    (given : nestedFrom collection wanted children host = .ok found) : sizeOf found ≤ sizeOf children := by
  induction children generalizing found with
  | nil => cases given; exact Nat.le_refl _
  | cons child rest ih =>
    obtain ⟨here,first,given⟩ := Ask.ok_of_bind given
    obtain ⟨there,second,given⟩ := Ask.ok_of_bind given
    cases given
    have := sizeOf_share first
    have := ih second
    have := sizeOf_append here there
    simp only [List.cons.sizeOf_spec]
    omega

theorem sizeOf_nested {entity : Entity} {collection wanted : Value} {host : Host} {found : List Entity}
    (given : entity.nested collection wanted host = .ok found) : sizeOf found < sizeOf entity := by
  obtain ⟨inside,first,given⟩ := Ask.ok_of_bind given
  have := sizeOf_contents first
  have := sizeOf_nestedFrom given
  omega

end Entity

end Trifold
