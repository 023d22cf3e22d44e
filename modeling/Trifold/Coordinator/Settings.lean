import Trifold.Fanout.Race
import Trifold.Platform.Detect
import Trifold.Signal.Basic

namespace Trifold

structure Settings where
  timeout : Float
  platforms : List Platform
  domain : String
  environment : Value

namespace Settings

def bad {α : Type} (problem : BadSetting) : Ask α := throw (.badSetting problem)

def timeoutOf : Value → Ask Float
  | .absent => return Fanout.defaultTimeout
  | .number x => if Number.isInteger x && 0 < x then return x else bad (.timeout (Number.written x))
  | value => do bad (.timeout (← value.toText))

-- Known names only; a repeated name counts once, where it came first.
def platformsFrom (chosen : List Platform) : List Value → Ask (List Platform)
  | [] => return chosen
  | value :: rest =>
      match Platform.ofValue? value with
      | some platform => platformsFrom (if platform ∈ chosen then chosen else chosen ++ [platform]) rest
      | none => do bad (.unknownPlatform (← value.toText))

def platformsOf : Value → Ask (List Platform)
  | .absent => return Platform.all
  | .list (first :: rest) => platformsFrom [] (first :: rest)
  | _ => bad .noPlatforms

def domainOf : Value → Ask String
  | .absent => return Signal.defaultDomain
  | .text s => if Signal.isSegment s then return s else bad (.namespaceForm s)
  | value => do bad (.namespaceForm (← value.toText))

def resolve (own config : Value) : Ask Settings := do
  let config := config.given (.object [])
  let timeout ← timeoutOf (← config.fetch "timeoutMs")
  let platforms ← platformsOf (config.get "platforms")
  let domain ← domainOf (config.get "namespace")
  return ⟨timeout,platforms,domain,(config.get "env").orElse own⟩

end Settings

end Trifold
