import Trifold.Platform.Name
import Trifold.Text.Blank
import Trifold.Text.Case
import Trifold.Value.Convert
import Trifold.Value.Items
import Trifold.Value.Same

namespace Trifold

instance : ToValue Platform := ⟨fun platform => .text platform.name⟩

namespace Platform
open Value

def ofValue? (value : Value) : Option Platform := value.text?.bind ofName?

def isNamed (value : Value) : Bool := (ofValue? value).isSome

def forcedKey : String := "UNIFIED_UI_PLATFORM"

def webKey : String := "UNIFIED_UI_WEB"

def sessionKeys : List String :=
  ["DISPLAY", "WAYLAND_DISPLAY", "XDG_CURRENT_DESKTOP", "XDG_SESSION_TYPE", "GNOME_DESKTOP_SESSION_ID",
    "KDE_FULL_SESSION", "SESSION_MANAGER"]

def setting (value : Value) : Ask String := do return Text.lower (Text.trim (← textOf "trim" value))

def forced? (environment : Value) : Ask (Option Platform) := do
  let given ← environment.fetch forcedKey
  if given.isMissing then return none else return ofName? (← setting given)

def isWebOn (environment : Value) : Ask Bool := do
  let given := environment.get webKey
  if given.isAbsent then return false
  let flag ← setting given
  return flag == "1" || flag == "true"

-- Anything but the empty text is a sign.
def isSet (value : Value) : Bool := !value.isAbsent && !isSame value (text "")

def detect (environment : Value) : Ask Platform := do
  let environment := environment.given (object [])
  if let some forced ← forced? environment then return forced
  if ← isWebOn environment then return web
  return if sessionKeys.any fun key => isSet (environment.get key) then desktop else terminal

def isHost (platform : Platform) (environment : Value) : Ask Bool := do return (← detect environment) == platform

end Platform

end Trifold
