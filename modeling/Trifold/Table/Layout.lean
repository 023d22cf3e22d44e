import Trifold.Element.Basic
import Trifold.Table.Order
import Trifold.Text.Case
import Trifold.Text.Repeat
import Trifold.Value.Numeric

namespace Trifold.Table
open Value

def widthCap : Float := 999

def noColumns : String := "No columns defined"

def sortGlyph (direction : Value) : String := if isAscending direction then "↑" else "↓"

def columnValue (key : String) : Value :=
  object [("type",text "column"), ("key",text key), ("header",text (Text.capitalize key)),
    ("sortable",bool true), ("align",text "left"), ("visible",bool true)]

def unique (names : List String) : List String :=
  names.foldl (fun seen name => if seen.contains name then seen else seen ++ [name]) []

def columnsOf (row : Value) : List Value :=
  (Text.sorted (unique ((Attributes.entries row).map (·.1)))).map columnValue

-- Declared columns, else those of the first row.
def columnsShown (table : Value) : Ask Value := do
  let declared ← table.fetch "columns"
  if ← isAbove (← declared.fetch "length") (number 0) then return declared
  return list (columnsOf (← (← table.fetch "data").fetch "0"))

def column (value : Value) : Column :=
  { key := (value.get "key").text?.getD "",
    header := (value.get "header").text?.getD "",
    sortable := (value.get "sortable").bool?.getD false,
    formatter := (value.get "formatter").function?,
    width := (value.get "width").number?,
    align := (value.get "align").text?.getD "" }

def shownValues (table : Table) : List Value :=
  if table.columns.isEmpty then (table.data.head?.map columnsOf).getD [] else table.columns

def shownColumns (table : Table) : List Column := (shownValues table).map column

def rows (table : Value) : Ask Value := do
  sortRows (← table.fetch "data") (table.get "sortColumn") (table.get "sortDirection")

def plainCell (value : Value) : Ask String := do
  if value.isMissing then return ""
  else if value.isObject then return (← json? value).getD ""
  else value.toText

-- What a cell shows. A formatter may answer with anything.
def cell (column row : Value) : Ask Value := do
  let value ← Attributes.readBy (← column.fetch "key") row
  match column.get "formatter" with
  | function formatter => formatter.apply [value]
  | formatter => if formatter.isTrue then .misuse (.notCallable "column.formatter") else return text (← plainCell value)

def length (shown : Value) : Ask Float := do
  match shown with
  | text s => return Float.ofNat s.length
  | list items => return Float.ofNat items.length
  | _ => .misuse (.notIterable "text")

def repeated (s : String) (count : Float) : Ask String := .ofMisuse (Text.repeat? s count)

-- The content goes beside blanks, which have to be there before it is asked for its text.
def align (shown width side : Value) : Ask String := do
  let free ← difference width (number (← length shown))
  let padding := Number.larger 0 (← toNumber free)
  let content : Ask String := do scalarText (← toScalar .either shown)
  if isSame side (text "right") then
    let before ← repeated " " padding
    return before ++ (← content)
  else if isSame side (text "center") then
    let left := Number.floor (padding / 2)
    let before ← repeated " " left
    return before ++ (← content) ++ (← repeated " " (padding - left))
  else
    let after ← repeated " " padding
    return (← content) ++ after

structure Layout where
  columns : Value
  widths : List Float
  rows : Value

def width (rows : Value) (column : Value) : Ask Float := do
  let longest ← (← listItems "rows.reduce" rows).foldlM (fun widest row => do
    return Number.larger widest (← length (← cell column row))) 0
  let header ← length (column.get "header")
  return Number.smaller (Number.larger header longest) (← toNumber ((column.get "width").orElse (number widthCap)))

def layout (table : Value) : Ask Layout := do
  let columns ← columnsShown table
  let rows ← rows table
  let widths ← (← listItems "columns.map" columns).mapM (width rows)
  return { columns, widths, rows }

def separator (widths : List Float) : Ask String := do
  return "+" ++ "+".intercalate (← widths.mapM fun w => repeated "-" (w + 2)) ++ "+"

def framed (cells : List String) : String := "| " ++ " | ".intercalate cells ++ " |"

def headerCell (table column : Value) (width : Float) : Ask String := do
  let glyph :=
    if isSame (table.get "sortColumn") (column.get "key") then " " ++ sortGlyph (table.get "sortDirection") else ""
  return (← align (column.get "header") (number width) (column.get "align")) ++ glyph

def bodyLine (shown : List (Value × Float)) (row : Value) : Ask String := do
  return framed (← shown.mapM fun (column,width) => do
    align (← cell column row) (number width) (column.get "align"))

def lines (table : Value) : Ask (List String) := do
  let layout ← layout table
  let columns ← listItems "columns.map" layout.columns
  if columns.isEmpty then return [noColumns]
  let shown := columns.zip layout.widths
  let separator ← separator layout.widths
  let header ← shown.mapM fun (column,width) => headerCell table column width
  let body ← (← listItems "rows.map" layout.rows).mapM (bodyLine shown)
  return [separator, framed header, separator] ++ body ++ [separator]

def drawn (table : Value) : Ask String := do return "\n".intercalate (← lines table)

end Trifold.Table
