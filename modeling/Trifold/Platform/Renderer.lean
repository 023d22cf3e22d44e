import Trifold.Platform.State
import Trifold.Run
import Trifold.Value.Same

namespace Trifold

inductive RenderError where
  | renderFailed
  deriving DecidableEq, Repr

def RenderError.name : RenderError → String
  | renderFailed => "render_failed"

abbrev Conversion := Value → Option State → Run Value

structure Renderer where
  platform : Platform
  conversion : Conversion
  render : Value → Value → Run (Except RenderError State)
  update : Value → State → Value → Run (Except RenderError Step)
  destroy : State → Step

namespace Renderer

def lastKey : String := "lastIur"

def convert (renderer : Renderer) (value : Value) : Run Value := renderer.conversion value none

def tryConvert (platform : Platform) (converted : Run Value) : Run (Except RenderError Value) := do
  match ← converted.attempt with
  | .ok root => return .ok root
  | .error fault =>
      Run.warn (warningArea platform.name ++ " conversion failed: " ++ fault.message)
      return .error .renderFailed

def firstRender (platform : Platform) (conversion : Conversion) (value options : Value) :
    Run (Except RenderError State) := do
  let base := State.make platform .null (Value.own options) []
  return (← tryConvert platform (conversion value (some base))).map fun root =>
    State.make platform root (Value.own options) [(lastKey,value)]

def lastShown (state : State) : Value := (Value.object state.metadata).get lastKey

-- The same state when neither the merged configuration nor the value changed. Else the root is replaced if it
-- came out different, and the version counts a different root or configuration.
def nextRender (platform : Platform) (conversion : Conversion) (value : Value) (state : State)
    (options : Value) : Run (Except RenderError Step) := do
  let config := Value.spread state.config (Value.own options)
  let configChanged := !Value.same (.object config) (.object state.config)
  let valueChanged := !Value.same value (lastShown state)
  if !configChanged && !valueChanged then return .ok ⟨state,true⟩
  return (← tryConvert platform (conversion value (some { state with config }))).map fun root =>
    let rootChanged := !Value.same root state.root
    let next : State :=
      { state with
        config,
        root := if rootChanged then root else state.root,
        version := if rootChanged || configChanged then state.version + 1 else state.version }
    ⟨{ next with metadata := Fields.put lastKey value next.metadata },false⟩

-- `release` is what remains of a state that is done with; without one the state stays as it is.
def ofConversion (platform : Platform) (conversion : Conversion) (release : Option (State → State)) : Renderer :=
  { platform,
    conversion,
    render := firstRender platform conversion,
    update := nextRender platform conversion,
    destroy := fun state =>
      match release with
      | some release => ⟨release state,false⟩
      | none => ⟨state,true⟩ }

def make (platform : Platform) (convert : Value → Run Value) (release : Option (State → State)) : Renderer :=
  ofConversion platform (fun value _ => convert value) release

end Renderer

end Trifold
