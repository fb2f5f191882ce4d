import Outband.Config.Basic
import Outband.Ipmi
import Outband.Plan.Run
/-! What the settings make of the world: the credentials for every device, and the drivers and the
gallery behind the calls. -/

namespace Outband

structure Engine (σ : Type) where
  world : World σ
  credentials : Credentials

namespace Engine

/-- Runs a plan, with nothing to bound its time. -/
def run (engine : Engine σ) (plan : Plan) (s : Scene σ) : RunReport × Scene σ :=
  plan.run engine.world engine.credentials none s

end Engine

namespace Config

def ipmiSettings (c : Config) (searchPath : List String) : Ipmi.Settings :=
  { binary := c.ipmi.binary, interface := c.ipmi.interface, searchPath := searchPath }

/-- The engine for the settings, on a machine where programs are looked for on the search path. -/
def engine (c : Config) (searchPath : List String) (tool : Ipmi.Tool τ) :
    Except Error (Engine (Ipmi.Machine τ)) := do
  let gallery ← c.gallery
  return ⟨Ipmi.world (c.ipmiSettings searchPath) gallery tool, c.credentials⟩

end Config

end Outband
