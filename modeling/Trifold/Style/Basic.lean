import Trifold.Attributes
import Trifold.Value.Items
import Trifold.Value.Numeric
import Trifold.Value.Same

namespace Trifold
open Attributes

structure Style where
  fg : Value
  bg : Value
  attrs : List Value
  padding : Value
  margin : Value
  width : Value
  height : Value
  align : Value

namespace Style
open Value

def attrNames : List String := ["bold", "dim", "italic", "underline", "blink", "reverse", "strikethrough"]

def alignments : List String := ["left", "center", "right"]

def empty : Style := ⟨absent,absent,[],absent,absent,absent,absent,absent⟩

-- A colour is a name, though not the empty one, or three finite channels.
def color : Value → Value
  | text name => if name.isEmpty then absent else text name
  | list [red, green, blue] =>
      if [red, green, blue].all fun channel => (finite? channel).isSome then list [red, green, blue] else absent
  | _ => absent

def addAttr (attrs : List Value) (attr : Value) : List Value :=
  if isAmong attrs attr then attrs else attrs ++ [attr]

def union (first second : List Value) : List Value := (first ++ second).foldl addAttr []

def isAttr (value : Value) : Bool := (oneOf? attrNames value).isSome

def textAttrs (value : Value) : List Value := ((value.list?.getD [value]).filter isAttr).foldl addAttr []

def size (value : Value) : Value := ofNumber? (finite? value)

def side (value : Value) : Value := ofText? (oneOf? alignments value)

-- Unknown names and unusable values change nothing.
def set (style : Style) : String × Value → Style
  | ("fg",value) => { style with fg := (color value).given style.fg }
  | ("bg",value) => { style with bg := (color value).given style.bg }
  | ("attrs",value) => { style with attrs := textAttrs value }
  | ("padding",value) => { style with padding := (size value).given style.padding }
  | ("margin",value) => { style with margin := (size value).given style.margin }
  | ("width",value) => { style with width := (size value).given style.width }
  | ("height",value) => { style with height := (size value).given style.height }
  | ("align",value) => { style with align := (side value).given style.align }
  | _ => style

def ofAttributes (source : Value) : Style := (Attributes.entries source).foldl set empty

-- Every scalar comes from the second where it is set; the attributes are the ordered union.
def merge (a b : Style) : Style :=
  { fg := b.fg.orElse a.fg,
    bg := b.bg.orElse a.bg,
    attrs := union a.attrs b.attrs,
    padding := b.padding.orElse a.padding,
    margin := b.margin.orElse a.margin,
    width := b.width.orElse a.width,
    height := b.height.orElse a.height,
    align := b.align.orElse a.align }

def scalars (style : Style) : List (String × Value) :=
  [("fg",style.fg), ("bg",style.bg), ("padding",style.padding), ("margin",style.margin), ("width",style.width),
    ("height",style.height), ("align",style.align)]

def toValue (style : Style) : Value := object (defined (("attrs",list style.attrs) :: style.scalars))

-- A style as it is written. Only its attributes have to be there, as something to go through.
def read (value : Value) : Ask Style := do
  let attrs ← items (← value.fetch "attrs")
  return { fg := value.get "fg",
           bg := value.get "bg",
           attrs,
           padding := value.get "padding",
           margin := value.get "margin",
           width := value.get "width",
           height := value.get "height",
           align := value.get "align" }

def mergeWritten (a b : Value) : Ask Value :=
  match a, b with
  | absent, b => return b.orElse empty.toValue
  | a, absent => return a
  | a, b => do return (merge (← read a) (← read b)).toValue

def mergeAll (styles : List Value) : Ask Style :=
  (styles.filter (!·.isAbsent)).foldlM (fun merged style => do return merged.merge (← read style)) empty

def scalarKeys : List String := empty.scalars.map (·.1)

def isEmptyWritten (value : Value) : Ask Bool := do
  if value.isAbsent then return true
  if ← isAbove (← (← value.fetch "attrs").fetch "length") (number 0) then return false
  return scalarKeys.all fun key => (value.get key).isAbsent

end Style

end Trifold
