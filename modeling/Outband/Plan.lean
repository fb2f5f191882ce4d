import Outband.Classification
import Outband.Endpoint
import Outband.Target
/-! Action sequences compiled for one target. Every token is checked before anything is done, so
that a slip at the end of a sequence never leaves a device half-handled. -/

namespace Outband

/-- What a token stands for, `ω` being the operations of the target. -/
inductive Work (ω : Type) where
  | sleep (nanos : Nat)
  | operate (op : ω)
  deriving DecidableEq, Repr

structure Step (ω : Type) where
  token : String
  work : Work ω
  deriving DecidableEq, Repr

/-- The operations that each family of targets has. -/
inductive Plan where
  | server (address : String) (steps : List (Step ServerWork))
  | chassis (address : String) (steps : List (Step ChassisOp))
  | blade (address : String) (locator : Locator) (steps : List (Step BladeOp))
  | sleep (steps : List (Step Empty))

namespace Step

/-- The step for a token, if targets of the kind can take it. -/
def ofToken (kind : Kind) (supported : Action → Option ω) (token : String) :
    Except Error (Step ω) :=
  match classify token with
  | .known action =>
    match supported action with
    | some op => .ok ⟨token, .operate op⟩
    | none => .error (.unsupportedAction token kind)
  | .sleep (.ok nanos) => .ok ⟨token, .sleep nanos⟩
  | .sleep (.error cause) => .error (.invalidAction token cause)
  | .unknown => .error (.unknownAction token)

/-- The steps for a sequence, up to the first token that has none. -/
def ofTokens (kind : Kind) (supported : Action → Option ω) :
    List String → Except Error (List (Step ω))
  | [] => .ok []
  | token :: rest => do
    let step ← ofToken kind supported token
    return step :: (← ofTokens kind supported rest)

end Step

namespace Plan

def ofTarget (target : Target) (tokens : List String) : Except Error Plan :=
  match target with
  | .host address => .server address <$> Step.ofTokens .host Action.serverWork? tokens
  | .chassis address => .chassis address <$> Step.ofTokens .chassis Action.chassisOp? tokens
  | .bladeByPosition address slot =>
    .blade address (.position slot) <$> Step.ofTokens .bladeByPosition Action.bladeOp? tokens
  | .bladeBySerial address serial =>
    .blade address (.serial serial) <$> Step.ofTokens .bladeBySerial Action.bladeOp? tokens

/-- Reads the target from the parameters, then the tokens from the left. The first fault is
reported. -/
def compile (kind : Kind) (params : Params) (tokens : List String) : Except Error Plan := do
  match ← Target.ofParams kind params with
  | some target => ofTarget target tokens
  | none => .sleep <$> Step.ofTokens .sleep (fun _ => none) tokens

def kind : Plan → Kind
  | .server .. => .host
  | .chassis .. => .chassis
  | .blade _ (.position _) _ => .bladeByPosition
  | .blade _ (.serial _) _ => .bladeBySerial
  | .sleep _ => .sleep

def tokens : Plan → List String
  | .server _ steps => steps.map (·.token)
  | .chassis _ steps => steps.map (·.token)
  | .blade _ _ steps => steps.map (·.token)
  | .sleep steps => steps.map (·.token)

def describe (p : Plan) : String :=
  describeRecord "ExecutionPlan"
    [("target", p.kind.label), ("actions", Text.quotedList p.tokens)]

end Plan

/-- The outcome of one action. -/
structure ActionResult where
  token : String
  /-- The state that the driver reported. -/
  status : Bool
  /-- A word on the outcome, or where the screenshot is. -/
  message : String
  error? : Option Error
  deriving DecidableEq, Repr

namespace ActionResult

def succeeded (token : String) (status : Bool) (message : String := "ok") : ActionResult :=
  ⟨token, status, message, none⟩

def failed (token : String) (cause : Error) : ActionResult := ⟨token, false, "failed", some cause⟩

def ofStatus (token : String) : Except DriverError Bool → ActionResult
  | .ok status => succeeded token status
  | .error cause => failed token (.driver cause)

/-- A failed action stops the plan. That a device is off is no failure. -/
def isFailure (r : ActionResult) : Bool := r.error?.isSome

def toJson (r : ActionResult) : Json :=
  .object ([("action", .text r.token), ("status", .bool r.status), ("message", .text r.message)] ++
    match r.error? with
    | some cause => [("error", .text cause.message)]
    | none => [])

end ActionResult

end Outband
