import Outband.Proofs.Backends
import Outband.Proofs.Course
import Outband.Proofs.Fallback
/-! What each step of a run on a server does and comes to, with the session that the run holds by
then, when no call crashes. -/

namespace Outband

/-- The call that stores an image of the session's server. -/
def Call.keep (e : Endpoint) (session : ServerSession) (shot : Capture) (seconds : Int) : Call :=
  .store (Screenshot.fileName e.host session.driver.hardware shot.extension seconds) shot.payload

namespace Server

def noScreenshot : DriverError :=
  .notSupported "screenshot is not supported by the IPMI fallback driver"

/-- What an action does with the open session, and comes to. -/
inductive Serving (e : Endpoint) (seconds : Int → Prop) (session : ServerSession) (token : String) :
    ServerWork → List Event → ActionResult → Prop
  | refused {op : ServerOp} {cause : DriverError} (h : session.driver.refusal? op = some cause) :
    Serving e seconds session token (.operate op) [] (.failed token (.driver cause))
  | operated {op : ServerOp} (h : session.driver.refusal? op = none)
      (answer : Except DriverError Bool) :
    Serving e seconds session token (.operate op)
      [.called (.server session op), .ended (.server session op) (.returns answer)]
      (.ofStatus token answer)
  | unpictured (h : session.backend = .fallback) :
    Serving e seconds session token .screenshot [] (.failed token (.driver noScreenshot))
  | uncaptured (h : session.backend = .native) (cause : DriverError) :
    Serving e seconds session token .screenshot
      [.called (.capture session), .ended (.capture session) (.returns (.error cause))]
      (.failed token (.driver cause))
  | unstored (h : session.backend = .native) (shot : Capture) {n : Int} (hn : seconds n)
      (cause : StoreError) :
    Serving e seconds session token .screenshot
      [.called (.capture session), .ended (.capture session) (.returns (.ok shot)),
        .called (.keep e session shot n),
        .ended (.keep e session shot n) (.returns (.error cause))]
      (.failed token (.store cause))
  | stored (h : session.backend = .native) (shot : Capture) {n : Int} (hn : seconds n)
      (reference : String) :
    Serving e seconds session token .screenshot
      [.called (.capture session), .ended (.capture session) (.returns (.ok shot)),
        .called (.keep e session shot n),
        .ended (.keep e session shot n) (.returns (.ok reference))]
      (.succeeded token true reference)

/-- There is nothing to be known of a server but its session. -/
def manner (e : Endpoint) : Manner ServerSession Unit ServerWork where
  Attempted := Attempted e
  Serving seconds session _ token work events result _ :=
    Serving e seconds session token work events result
  token_eq h := by
    cases h with
    | operated h answer => exact token_ofStatus _ answer
    | _ => rfl

section Following

variable (world : World σ) (e : Endpoint)

theorem connect_attempted (s : Scene σ) :
    Concludes world (Attempted e) s ((connect e).carry world none s) := by
  refine concludes_ask fun answer => ?_
  cases answer with
  | ok driver => exact concludes_done (.native driver)
  | error unknown =>
    dsimp only
    cases hunsupported : unknown.isUnsupported with
    | false => exact concludes_done (.refused unknown hunsupported)
    | true =>
      rw [if_pos rfl]
      refine concludes_ask fun answer => ?_
      cases answer with
      | ok driver => exact concludes_done (.fallback unknown hunsupported driver)
      | error cause => exact concludes_done (.failed unknown hunsupported cause)

/-- An action that finds the session open. -/
theorem comes_serving (token : String) (work : ServerWork) {c : Connection σ ServerSession}
    {session : ServerSession} {origin : Int} {start : Time}
    (hphase : c.link.phase = .connected session) (horigin : c.scene.origin = origin)
    (hstart : start ≤ c.scene.now) :
    Comes world (fun result events d => d.link.phase = .connected session ∧
        ∀ stop, d.scene.now ≤ stop →
          Serving e (SecondIn origin start stop) session token work events result) c
      (((Executor.server e).perform token work).carry world 0 none c) := by
  cases work with
  | operate op =>
    rw [server_perform world none token op hphase]
    rcases session.perform_cases op with ⟨hasked, hcall⟩ | ⟨cause, hrefusal, hrefused⟩
    · rw [hcall]
      exact comes_call fun answer => comes_done ⟨hphase, fun stop _ => .operated hasked answer⟩
    · rw [hrefused]
      exact comes_done ⟨hphase, fun stop _ => .refused hrefusal⟩
  | screenshot =>
    rw [show (Executor.server e).perform token .screenshot = .enter (Server.connect e) _ from rfl,
      carry_enter_connected _ _ hphase]
    obtain ⟨backend, endpoint, driver⟩ := session
    cases backend with
    | fallback => exact comes_done ⟨hphase, fun stop _ => .unpictured rfl⟩
    | native =>
      refine comes_call fun answer => ?_
      cases answer with
      | error cause => exact comes_done ⟨hphase, fun stop _ => .uncaptured rfl cause⟩
      | ok shot =>
        -- The clock is read when the image is there, and storing it takes time from then on.
        have hcaptured := c.scene.leads_after world (.capture ⟨.native, endpoint, driver⟩)
        have hsecond : ∀ {other stop}, ((c.after world _).after world other).scene.now ≤ stop →
            SecondIn origin start stop (c.after world _).scene.unixSeconds := fun hstop =>
          secondIn_of_leads hcaptured horigin hstart
            (Nat.le_trans (Scene.leads_after world _ _).now hstop)
        refine comes_call fun answer => ?_
        cases answer with
        | ok reference =>
          exact comes_done ⟨hphase, fun stop hstop => .stored rfl shot (hsecond hstop) reference⟩
        | error cause =>
          exact comes_done ⟨hphase, fun stop hstop => .unstored rfl shot (hsecond hstop) cause⟩

theorem follows : (Executor.server e).Follows world (connect e) (manner e) fun _ _ => True where
  enters := server_perform_enters e
  attempts := connect_attempted world e
  serves token work c session known origin start hphase _ horigin hstart := by
    refine (comes_serving world e token work hphase horigin hstart).mono fun result events d h => ?_
    exact ⟨h.1, (), trivial, h.2⟩
  closes hphase := (server_keeps e).comes_close hphase

end Following

end Server

end Outband
