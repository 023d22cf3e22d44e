namespace Trifold

inductive Owner where
  | record | list | text | number | truth | bigint | symbol | function | pattern | date | foreign
  deriving DecidableEq, Repr

namespace Owner

def all : List Owner := [record, list, text, number, truth, bigint, symbol, function, pattern, date, foreign]

def recordNames : List String :=
  ["constructor", "__defineGetter__", "__defineSetter__", "hasOwnProperty", "__lookupGetter__",
    "__lookupSetter__", "isPrototypeOf", "propertyIsEnumerable", "toString", "valueOf", "toLocaleString"]

def listNames : List String :=
  ["constructor", "at", "concat", "copyWithin", "fill", "find", "findIndex", "findLast", "findLastIndex",
    "lastIndexOf", "pop", "push", "reverse", "shift", "unshift", "slice", "sort", "splice", "includes", "indexOf",
    "join", "keys", "entries", "values", "forEach", "filter", "flat", "flatMap", "map", "every", "some", "reduce",
    "reduceRight", "toLocaleString", "toReversed", "toSorted", "toSpliced", "toString", "with"]

def textNames : List String :=
  ["constructor", "anchor", "at", "big", "blink", "bold", "charAt", "charCodeAt", "codePointAt", "concat",
    "endsWith", "fontcolor", "fontsize", "fixed", "includes", "indexOf", "isWellFormed", "italics", "lastIndexOf",
    "link", "localeCompare", "match", "matchAll", "normalize", "padEnd", "padStart", "repeat", "replace",
    "replaceAll", "search", "slice", "small", "split", "startsWith", "strike", "sub", "substr", "substring", "sup",
    "toLocaleLowerCase", "toLocaleUpperCase", "toLowerCase", "toString", "toUpperCase", "toWellFormed", "trim",
    "trimEnd", "trimLeft", "trimRight", "trimStart", "valueOf"]

def dateNames : List String :=
  ["constructor", "toString", "toDateString", "toTimeString", "toISOString", "toUTCString", "toGMTString",
    "getDate", "setDate", "getDay", "getFullYear", "setFullYear", "getHours", "setHours", "getMilliseconds",
    "setMilliseconds", "getMinutes", "setMinutes", "getMonth", "setMonth", "getSeconds", "setSeconds", "getTime",
    "setTime", "getTimezoneOffset", "getYear", "setYear", "getUTCDate", "setUTCDate", "getUTCDay",
    "getUTCFullYear", "setUTCFullYear", "getUTCHours", "setUTCHours", "getUTCMilliseconds", "setUTCMilliseconds",
    "getUTCMinutes", "setUTCMinutes", "getUTCMonth", "setUTCMonth", "getUTCSeconds", "setUTCSeconds", "valueOf",
    "toJSON", "toLocaleString", "toLocaleDateString", "toLocaleTimeString"]

def names : Owner → List String
  | record => recordNames
  | list => listNames
  | text => textNames
  | number => ["constructor", "toExponential", "toFixed", "toPrecision", "toString", "valueOf", "toLocaleString"]
  | truth => ["constructor", "toString", "valueOf"]
  | bigint => ["constructor", "toLocaleString", "toString", "valueOf"]
  | symbol => ["constructor", "toString", "valueOf"]
  | function => ["constructor", "apply", "bind", "call", "toString"]
  | pattern => ["constructor", "exec", "compile", "toString", "test"]
  | date => dateNames
  | foreign => ["constructor"]

def holder? (owner : Owner) (key : String) : Option Owner :=
  if key ∈ owner.names then some owner else if key ∈ recordNames then some record else none

def constructorName : Owner → String
  | record => "Object"
  | list => "Array"
  | text => "String"
  | number => "Number"
  | truth => "Boolean"
  | bigint => "BigInt"
  | symbol => "Symbol"
  | function => "Function"
  | pattern => "RegExp"
  | date => "Date"
  | foreign => "Opaque"

def label (owner : Owner) : String → String
  | "constructor" => owner.constructorName
  | "trimLeft" => "trimStart"
  | "trimRight" => "trimEnd"
  | "toGMTString" => "toUTCString"
  | name => name

end Owner

-- A function is known by name. `shown` gives the text of another function's answer; `member` stands for a
-- standard member.
inductive Function where
  | host (name : String) (parameters : Nat) (source : String)
  | member (owner : Owner) (name : String)
  | shown (shownFunction : Function)
  deriving DecidableEq, Repr

namespace Function

def source : Function → String
  | host _ _ source => source
  | member owner name => "function " ++ owner.label name ++ "() \x7b [native code] \x7d"
  | shown _ => "(cell) => String(value(cell))"

def label : Function → String
  | host name _ _ => name
  | member owner name => owner.label name
  | shown _ => ""

-- Members declare what they need, most of them one argument.
def parameters : Function → Nat
  | host _ parameters _ => parameters
  | member _ name =>
      if name ∈ ["__defineGetter__", "__defineSetter__"] then 2
      else if name ∈ ["toString", "valueOf", "toLocaleString"] then 0
      else 1
  | shown _ => 1

end Function

end Trifold
