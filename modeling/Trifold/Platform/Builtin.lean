import Trifold.Desktop.Convert
import Trifold.Platform.Renderer
import Trifold.Terminal.Convert
import Trifold.Terminal.Handlers
import Trifold.Web.Convert
import Trifold.Web.Handlers

namespace Trifold

def Backend.converted {ρ : Type} (backend : Backend ρ) (host : Host) (show_ : ρ → Value) (value : Value) :
    Run Value := do
  return ((← backend.convert host value).map show_).getD .null

namespace Renderer

def terminal (host : Host) : Renderer := make .terminal (Terminal.backend.converted host id) none

def desktop (host : Host) : Renderer :=
  make .desktop (Desktop.backend.converted host id) (some fun state => state.putRoot .null)

def web (host : Host) : Renderer :=
  make .web (Web.backend.converted host fun markup => .text markup.written) none

def builtin (host : Host) : Platform → Renderer
  | .terminal => terminal host
  | .desktop => desktop host
  | .web => web host

end Renderer

def Platform.handlers (platform : Platform) (root : Value) : Ask Value :=
  match root with
  | .null => return .object []
  | root => do
      let found ← match platform with
        | .terminal => Terminal.Node.handlers root
        | .desktop => Desktop.Widget.handlers root
        | .web => Web.handlersOf root
      .ofMisuse (Handlers.toValue found)

end Trifold
