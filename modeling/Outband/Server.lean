import Outband.Task
/-! Operations on a standalone server. The first one opens the session. When the native driver does
not know the hardware, the fallback driver is asked instead and serves every later operation. -/

namespace Outband

/-- Why a driver refuses an operation without a call, if it does: it has no such way to boot. -/
def Driver.refusal? (d : Driver) : ServerOp → Option DriverError
  | .pxeOnceMbr => if d.legacyBoot then none else some (.notSupported "pxeoncembr")
  | .pxeOnceEfi => if d.uefiBoot then none else some (.notSupported "pxeonceefi")
  | _ => none

/-- Asks the driver for an operation that it does not refuse. -/
def ServerSession.perform (s : ServerSession) (op : ServerOp) : Job (Except DriverError Bool) :=
  match s.driver.refusal? op with
  | none => Job.call (.server s op)
  | some cause => .done (.error cause)

/-- A captured console image, with the type of hardware that it shows. -/
structure Screenshot where
  capture : Capture
  hardware : String
  deriving DecidableEq, Repr

/-- An operation on a server that can fail. -/
abbrev ServerTask (α : Type) := Task ServerSession (Except DriverError α)

namespace Server

def connect (e : Endpoint) : Job (Except DriverError ServerSession) :=
  .ask (.connectHost e) fun
    | .ok driver => .done (.ok ⟨.native, e, driver⟩)
    | .error err =>
      if err.isUnsupported then
        .ask (.connectFallback e) fun
          | .ok driver => .done (.ok ⟨.fallback, e, driver⟩)
          | .error err => .done (.error err)
      else .done (.error err)

/-- The session, opened if there is none. -/
def session (e : Endpoint) : ServerTask ServerSession := .enter (connect e) .done

def operate (e : Endpoint) (op : ServerOp) : ServerTask Bool :=
  .enter (connect e) fun
    | .ok session => .work (session.perform op) .done
    | .error err => .done (.error err)

/-- Only the native driver can capture the console. The fallback driver is not asked. -/
def capture (e : Endpoint) : ServerTask Screenshot :=
  .enter (connect e) fun
    | .ok session =>
      match session.backend with
      | .native => .work (Job.call (.capture session)) fun
        | .ok capture => .done (.ok ⟨capture, session.driver.hardware⟩)
        | .error err => .done (.error err)
      | .fallback =>
        .done (.error (.notSupported "screenshot is not supported by the IPMI fallback driver"))
    | .error err => .done (.error err)

/-- Releases the session if there is one. -/
def close : ServerTask Unit :=
  .detach fun
    | some session => .work (Job.call (.closeServer session)) .done
    | none => .done (.ok ())

end Server

end Outband
