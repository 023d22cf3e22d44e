import Trifold.Platform.Detect
import Trifold.Platform.Renderer
import Trifold.Value.Items

namespace Trifold

inductive ShowError where
  | invalidPlatform
  | timeout
  | render (error : RenderError)
  deriving DecidableEq, Repr

def ShowError.name : ShowError → String
  | invalidPlatform => "invalid_platform"
  | timeout => "timeout"
  | render error => error.name

abbrev Shown := Except ShowError State

namespace Fanout

abbrev Renderers := Platform → Renderer

structure Request where
  renderers : Renderers
  value : Value
  config : Value

-- A name a tree is asked for: the key its answer stands under, and the platform it means. Only a text means one, and
-- what has no text has no key.
structure Name where
  key : Option String
  platform : Option Platform
  deriving DecidableEq, Repr

namespace Name

def ofText (s : String) : Name := ⟨some s,Platform.ofName? s⟩

def ofPlatform (platform : Platform) : Name := ⟨some platform.name,some platform⟩

def ofValue (value : Value) : Ask Name := do return ⟨← value.toKey,Platform.ofValue? value⟩

end Name

def area : String := warningArea "coordinator"

def select (renderers : Renderers) (name : Value) : Except ShowError Renderer :=
  match Platform.ofValue? name with
  | some platform => .ok (renderers platform)
  | none => .error .invalidPlatform

def selectEach (renderers : Renderers) (names : List Value) : Except ShowError (List Renderer) :=
  names.mapM (select renderers)

def selectAll (renderers : Renderers) (names : Value) : Ask (Except ShowError (List Renderer)) := do
  return selectEach renderers (← names.items)

def Request.show (request : Request) (name : Name) : Run Shown :=
  match name.platform with
  | none => return .error .invalidPlatform
  | some platform => do
      return (← (request.renderers platform).render request.value request.config).mapError .render

def Request.showAll (request : Request) : List Name → Run (List (Option String × Shown))
  | [] => return []
  | name :: rest => do
      let shown ← request.show name
      return (name.key,shown) :: (← showAll request rest)

def lockedNames : List String := ["ok", "error"]

-- Answers by name, the last one of a name at the place of its first. The base name makes no entry; from then on
-- the record inherits the fields of a failed answer.
def collectFrom (based : Bool) (shows : Fields Shown) : List (Option String × Shown) → Except Misuse (Fields Shown)
  | [] => .ok shows
  | (none,_) :: rest => collectFrom based shows rest
  | (some name,shown) :: rest =>
      if name == Value.baseName then collectFrom true shows rest
      else if based && lockedNames.contains name && !Fields.has name shows then .error (.lockedKey name)
      else collectFrom based (Fields.put name shown shows) rest

def collect (entries : List (Option String × Shown)) : Except Misuse (Fields Shown) := collectFrom false [] entries

def failure? (name : String) (shown : Shown) : Option String :=
  match shown with
  | .ok _ => none
  | .error error => some (area ++ s!" render on \"{name}\" failed: {error.name}")

def failures (shows : Fields Shown) : List String := shows.filterMap fun (name,shown) => failure? name shown

def report (shows : Fields Shown) : Run (Fields Shown) := ⟨failures shows,.ok shows⟩

-- Renders one after the other. A renderer that stops on its own stops the whole request.
def renderOn (request : Request) (names : List Name) : Run (Fields Shown) := do
  let entries ← request.showAll names
  report (← Run.ofMisuse (collect entries))

def renderAll (request : Request) : Run (Fields Shown) := renderOn request (Platform.all.map Name.ofPlatform)

end Fanout

end Trifold
