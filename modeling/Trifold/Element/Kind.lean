namespace Trifold

inductive Kind where
  | text | button | label | textInput | gauge | sparkline | barChart | lineChart | table | column | menu | menuItem
  | contextMenu | tabs | tab | treeView | treeNode | vbox | hbox
  deriving DecidableEq, Repr

namespace Kind

def name : Kind → String
  | text => "text"
  | button => "button"
  | label => "label"
  | textInput => "textInput"
  | gauge => "gauge"
  | sparkline => "sparkline"
  | barChart => "barChart"
  | lineChart => "lineChart"
  | table => "table"
  | column => "column"
  | menu => "menu"
  | menuItem => "menuItem"
  | contextMenu => "contextMenu"
  | tabs => "tabs"
  | tab => "tab"
  | treeView => "treeView"
  | treeNode => "treeNode"
  | vbox => "vbox"
  | hbox => "hbox"

def all : List Kind :=
  [text, button, label, textInput, gauge, sparkline, barChart, lineChart, table, column, menu, menuItem,
    contextMenu, tabs, tab, treeView, treeNode, vbox, hbox]

def ofName? (s : String) : Option Kind := all.find? (·.name == s)

theorem ofName?_name (kind : Kind) : ofName? kind.name = some kind := by
  cases kind <;> decide

theorem name_injective (a b : Kind) (same : a.name = b.name) : a = b := by
  have left := ofName?_name a
  rw [same,ofName?_name b] at left
  exact (Option.some.inj left).symm

end Kind

end Trifold
