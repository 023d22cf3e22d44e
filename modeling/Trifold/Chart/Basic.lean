import Trifold.Text.Repeat
import Trifold.Value.Items
import Trifold.Value.Numeric
import Trifold.Value.Same

namespace Trifold.Chart
open Value

def gaugeWidth : Float := 20

def barWidth : Float := 20

def barLabelWidth : Nat := 10

def verticalLevels : Nat := 5

def maxVerticalBars : Nat := 10

def lineHeight : Nat := 5

def noData : String := "No data"

def ramp : List String := ["_", ".", "-", "~", "o", "O", "@", "#"]

structure Extent where
  min : Value
  max : Value

-- Smallest and largest value. Values that compare with nothing count for neither.
def extent (values : List Value) : Ask Extent :=
  values.foldlM (fun held value => do
    return { min := if ← isBelow value held.min then value else held.min,
             max := if ← isAbove value held.max then value else held.max })
    ⟨number Number.infinity,number (-Number.infinity)⟩

def filled (value min max : Float) : Float :=
  let clamped := Number.smaller (Number.larger value min) max
  let range := max - min
  let part := if 0 < range then (clamped - min) / range else 0
  Number.round (part * gaugeWidth)

def gaugeFill (value min max : Value) : Ask Float := do
  return filled (← toNumber value) (← toNumber min) (← toNumber max)

def repeated (s : String) (count : Float) : Ask String := .ofMisuse (Text.repeat? s count)

def gaugeText (gauge : Value) : Ask String := do
  let fill ← gaugeFill (← gauge.fetch "value") (gauge.get "min") (gauge.get "max")
  let bar := "[" ++ (← repeated "=" fill) ++ (← repeated " " (gaugeWidth - fill)) ++ "]"
  let label := gauge.get "label"
  let lead ← if label.isAbsent then pure "" else do pure ((← shown label) ++ ": ")
  return lead ++ bar ++ " " ++ (← shown (gauge.get "value")) ++ "/" ++ (← shown (gauge.get "max"))

def rampGlyph (index : Float) : String :=
  match Number.truncated? index with
  | some n => if n < 0 then "" else (ramp[n.toNat]?).getD ""
  | none => ""

def onScale (least range value steps : Value) : Ask Float := do
  toNumber (← product (← quotient (← difference value least) range) steps)

def sparkGlyph (least range value : Value) : Ask String := do
  if !(← isAbove range (number 0)) then return rampGlyph 0
  let place ← onScale least range value (ofNat ramp.length)
  return rampGlyph (Number.smaller (Number.truncate place) (Float.ofNat (ramp.length - 1)))

def sparklineText (data : Value) : Ask String := do
  if ← isBelow (← data.fetch "length") (number 2) then return ""
  let held ← extent (← items data)
  let range ← difference held.max held.min
  return String.join (← (← listItems "data.map" data).mapM (sparkGlyph held.min range))

def horizontalBar (largest : Float) (datum : Value) : Ask String := do
  let value ← datum.fetch "value"
  let width ← if 0 < largest then do
      let part ← product (← quotient value (number largest)) (number barWidth)
      pure (Number.larger 0 (Number.round (← toNumber part)))
    else pure 0
  let label ← textOf "d.label.padEnd" (datum.get "label")
  return Text.padEnd barLabelWidth label ++ " [" ++ (← repeated "=" width) ++ "] " ++ (← shown value)

def verticalCell (largest threshold : Float) (datum : Value) : Ask String := do
  let value ← datum.fetch "value"
  if 0 < largest then return if ← isAtLeast value (number threshold) then "|" else " "
  else return " "

def verticalRow (largest : Float) (shown : List Value) (level : Nat) : Ask String := do
  let threshold := Float.ofNat level * largest / Float.ofNat verticalLevels
  let cells ← shown.mapM (verticalCell largest threshold)
  return Text.padStart 4 (toString (level * (100 / verticalLevels))) ++ " |" ++ " ".intercalate cells ++ "|"

def fromTop (height : Nat) : List Nat := (List.range height).reverse

def barLines (chart : Value) : Ask (List String) := do
  let data ← chart.fetch "data"
  if isSame (← data.fetch "length") (number 0) then return [noData]
  let data ← listItems "data.map" data
  let held ← extent (← data.mapM (fetch "value"))
  let largest := Number.larger 0 (← toNumber held.max)
  if isSame (chart.get "orientation") (text "horizontal") then data.mapM (horizontalBar largest)
  else
    let shown := data.take maxVerticalBars
    let rows ← (fromTop verticalLevels).mapM fun level => verticalRow largest shown (level + 1)
    return rows ++ ["      " ++ " ".intercalate (shown.map fun _ => "--")]

def barText (chart : Value) : Ask String := do return "\n".intercalate (← barLines chart)

def axisLabel (datum : Value) : Ask String := do
  let label ← textOf "d.label.slice" (← datum.fetch "label")
  return Text.padEnd 4 (String.ofList (Text.takeUnits 3 label.toList))

def lineLevel (least range value : Value) : Ask Float := do
  if ← isAbove range (number 0) then return Number.round (← onScale least range value (ofNat (lineHeight - 1)))
  else return 0

def lineText (chart : Value) : Ask String := do
  let data ← chart.fetch "data"
  if ← isBelow (← data.fetch "length") (number 2) then return noData
  let data ← listItems "data.map" data
  let values ← data.mapM (fetch "value")
  let held ← extent values
  let range ← difference held.max held.min
  let levels ← values.mapM (lineLevel held.min range)
  let mark := if (chart.get "showDots").isTrue then "o" else "*"
  let rows := (fromTop lineHeight).map fun y =>
    String.join (levels.map fun level => if level == Float.ofNat y then mark else " ")
  return "\n".intercalate rows ++ "\n" ++ String.join (← data.mapM axisLabel)

end Trifold.Chart
