import Trifold.Host
import Trifold.Platform.Name
import Trifold.Value.Assign
import Trifold.Value.Same
import Trifold.Value.Text

namespace Trifold

-- `root` is null before anything was rendered. `widgets` holds native widgets by id.
structure State where
  platform : Platform
  root : Value
  config : Fields Value
  version : Nat
  metadata : Fields Value
  widgets : Value

structure Step where
  state : State
  same : Bool

namespace State
open Value

def make (platform : Platform) (root : Value) (config metadata : Fields Value) : State :=
  { platform, root := root.orElse null, config, version := 0, metadata, widgets := object [] }

def start (platform : Platform) (given : Value) : Ask State := do
  let given := given.given (object [])
  return make platform (← given.fetch "root") (own (given.get "config")) (own (given.get "metadata"))

def toValue (state : State) : Value :=
  object [("platform",text state.platform.name), ("root",state.root), ("config",object state.config),
    ("version",ofNat state.version), ("metadata",object state.metadata),
    ("widgets",object (own state.widgets))]

def putRoot (state : State) (root : Value) : State := { state with root }

def rootOrFail (state : State) : Except Fault Value :=
  match state.root with
  | .null => .error (.missingRoot state.platform)
  | root => .ok root

def bumpVersion (state : State) : State := { state with version := state.version + 1 }

-- A name is given as a value; one without a text names no field that is ever seen.
def stored (key held : Value) (fields : Fields Value) : Ask (Fields Value) := do
  return (← toKey key).elim fields (Fields.put · held fields)

def lookup (fields : Fields Value) (key fallback : Value) : Ask Value := do
  return (← fetchBy key (object fields)).given fallback

def getConfig (state : State) (key fallback : Value) : Ask Value := lookup state.config key fallback

def putConfig (state : State) (key held : Value) : Ask State := do
  return { state with config := ← stored key held state.config }

def getMetadata (state : State) (key fallback : Value) : Ask Value := lookup state.metadata key fallback

def putMetadata (state : State) (key held : Value) : Ask State := do
  return { state with metadata := ← stored key held state.metadata }

def hasWidget (state : State) (id : Value) : Ask Bool := do return (← toKey id).any (hasOwn · state.widgets)

def putWidget (state : State) (id widget : Value) : Ask State := do
  return { state with widgets := object (← stored id widget (own state.widgets)) }

def getWidget (state : State) (id : Value) : Ask Value := do
  if ← state.hasWidget id then fetchBy id state.widgets else return absent

-- The other widgets are assigned one by one to a new record. Only a text is the name of a widget; another id that
-- stands for one leaves it where it is.
def deleteWidget (state : State) (id : Value) : Ask Step := do
  if ← state.hasWidget id then
    let kept ← .ofMisuse (assignAll false ((own state.widgets).filter fun entry => !isSame (text entry.1) id))
    return ⟨{ state with widgets := kept },false⟩
  else return ⟨state,true⟩

def widgetIds (state : State) : List String := Fields.keys (own state.widgets)

def widgetCount (state : State) : Nat := state.widgetIds.length

def isOn (state : State) (platform : Value) : Bool := isSame platform (text state.platform.name)

end State

end Trifold
