import Trifold.Number.Written
import Trifold.Value.Basic

namespace Trifold.Value

-- An object goes by its constructor, if both its text and its constructor are the usual ones.
def objectSketch (kind : String) (value : Value) : String :=
  match value.get "toString", value.get "constructor" with
  | function (.member .record "toString"), function f => if f.label.isEmpty then kind else s!"#<{f.label}>"
  | _, _ => kind

def sketch : Value → String
  | absent => "undefined"
  | null => "null"
  | bool truth => if truth then "true" else "false"
  | number x => Number.written x
  | text s => s
  | bigint n => toString n
  | symbol name _ => s!"Symbol({name})"
  | function f => f.source
  | list _ => "[object Array]"
  | date => "[object Date]"
  | pattern .. => "[object RegExp]"
  | value => objectSketch "[object Object]" value

def pointed : Value → String
  | text s => s!"string \"{s}\""
  | number x => "number " ++ Number.written x
  | bool truth => if truth then "boolean true" else "boolean false"
  | null => "object null"
  | value => value.sort

end Trifold.Value
