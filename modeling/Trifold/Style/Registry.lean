import Trifold.Style.Basic
import Trifold.Text.Units

namespace Trifold
open Attributes

structure NamedStyle where
  name : Value
  parent : Value
  attributes : Value
  written : Value

abbrev Registry := List NamedStyle

inductive StyleRef where
  | nothing
  | named (name : String) (overrides : Value)
  | inline (attributes : Value)

namespace NamedStyle

def read (written : Value) : Ask NamedStyle := do
  return { name := ← written.fetch "name",
           parent := written.get "extends",
           attributes := written.get "attributes",
           written }

def isNamed (name : Value) (style : NamedStyle) : Bool := Value.isAmong [style.name] name

end NamedStyle

namespace Registry
open Value

-- A later definition of a name takes the place of the earlier one.
def add (registry : Registry) (style : NamedStyle) : Registry :=
  if registry.any (·.isNamed style.name) then
    registry.map fun old => if old.isNamed style.name then { style with name := old.name } else old
  else registry ++ [style]

def ofStyles (styles : List NamedStyle) : Registry := styles.foldl add []

def ofDefinitions (definitions : Value) : Ask Registry := do
  let definitions := definitions.given (list [])
  if isSame (← definitions.fetch "length") (number 0) then return []
  return ofStyles (← (← items definitions).mapM NamedStyle.read)

def find? (registry : Registry) (name : Value) : Option NamedStyle := List.find? (·.isNamed name) registry

def knows (registry : Registry) (name : Value) : Bool := (find? registry name).isSome

def without (registry : Registry) (name : Value) : Registry := registry.filter fun style => !style.isNamed name

theorem without_shorter {registry : Registry} {name : Value}
    (met : registry.any (NamedStyle.isNamed name) = true) : (registry.without name).length < registry.length := by
  obtain ⟨style,there,named⟩ := List.any_eq_true.mp met
  exact List.length_filter_lt_length_iff_exists.mpr ⟨style,there,by simp_all⟩

def walkText : Value → Ask String
  | absent | null => return ""
  | name => shown name

def circular {α : Type} (walk : List Value) : Ask α := do throw (.circularStyle (← walk.mapM walkText))

-- `unvisited` holds the definitions the walk has not met yet, so it grows shorter with every step. A name that
-- is registered but no longer there has come up before.
def resolveFrom (registry unvisited : Registry) (walk : List Value) (name overrides : Value) : Ask Style :=
  match registry.find? name with
  | none => return Style.ofAttributes overrides
  | some style =>
      if _ : unvisited.any (NamedStyle.isNamed name) = true then
        let inner := Style.ofAttributes style.attributes
        let outer := Style.ofAttributes overrides
        if style.parent.isAbsent || !registry.knows style.parent then return inner.merge outer
        else do
          let base ← resolveFrom registry (unvisited.without name) (walk ++ [name]) style.parent (list [])
          return (base.merge inner).merge outer
      else circular (walk ++ [name])
termination_by unvisited.length
decreasing_by exact without_shorter (by assumption)

def resolve (registry : Registry) (name overrides : Value) : Ask Style :=
  resolveFrom registry registry [] name overrides

def styleKeys : List String :=
  ["fg", "bg", "attrs", "padding", "margin", "width", "height", "align", "spacing"]

def pairsOf (items : List Value) : Value := list (items.filter isPair)

-- A list headed by a name refers to that style, with pairs that override it; a list headed by a style attribute
-- is one inline pair.
def reference : Value → StyleRef
  | text name => .named name (list [])
  | list (text head :: rest) =>
      if styleKeys.contains head then .inline (pairsOf [list (text head :: rest)])
      else .named head (pairsOf rest)
  | list (item :: rest) => .inline (pairsOf (item :: rest))
  | value => if value.isPlain then .inline value else .nothing

def resolveRef (registry : Registry) (ref : Value) : Ask (Option Style) :=
  match reference ref with
  | .nothing => return none
  | .named name overrides => do return some (← registry.resolve (text name) overrides)
  | .inline attributes => return some (Style.ofAttributes attributes)

def dangles (registry : Registry) (ref : Value) : Bool :=
  match reference ref with
  | .named name _ => !registry.knows (text name)
  | _ => false

-- Styles in the order of the texts of their names, absent names last. A name on its own is not asked for a text.
def sortedByName (styles : Registry) : Ask Registry := do
  let (missing,present) := styles.partition (·.name.isAbsent)
  if present.length < 2 then return present ++ missing
  let keyed ← present.mapM fun style => do return (← shown style.name,style)
  return (keyed.mergeSort fun a b => !Text.before b.1 a.1).map (·.2) ++ missing

-- A registered style with its ancestors. A name that is an object is found by nothing else, so its style is taken
-- as it is.
def resolveOwn (registry : Registry) (style : NamedStyle) : Ask Style :=
  if registry.knows style.name then registry.resolve style.name (list [])
  else
    let inner := Style.ofAttributes style.attributes
    if style.parent.isAbsent || !registry.knows style.parent then return inner.merge .empty
    else do
      let base ← resolveFrom registry registry [style.name] style.parent (list [])
      return (base.merge inner).merge .empty

def resolveAll (registry : Registry) : Ask (List (Value × Style)) := do
  (← sortedByName registry).mapM fun style => do return (style.name,← registry.resolveOwn style)

end Registry

end Trifold
