import Outband.Proofs.Repertoire
import Outband.Rehearsal
/-! Whether the call that closes a session comes to its end. A run that is dropped finishes it in the
background, unless it is dropped while it waits for that very call. -/

namespace Outband

/-- The session that a call has released by returning. -/
def Event.released? : Event → Option OpenSession
  | .ended (.closeServer session) (.returns _) => some (.server session)
  | .ended (.closeChassis session) (.returns _) => some (.chassis session)
  | _ => none

/-- The sessions whose release has come to its end, in order. -/
def releasedOf (events : List Event) : List OpenSession := events.filterMap Event.released?

@[simp] theorem releasedOf_append (events more : List Event) :
    releasedOf (events ++ more) = releasedOf events ++ releasedOf more :=
  List.filterMap_append

variable {base : List Event}

/-- No session is closed. -/
abbrev Quiet : List Event → Prop := About fun call => call.isClose = false

section Quiet

variable {events : List Event}

theorem Quiet.releasedOf (h : Quiet events) : releasedOf events = [] := by
  refine List.filterMap_eq_nil_iff.mpr fun event hmem => ?_
  have hcall := h event hmem
  cases event with
  | called call => rfl
  | ended call outcome => cases call <;> first | rfl | cases hcall

theorem Quiet.crashesOf (h : Quiet events) : ∀ call ∈ crashesOf events, call.isClose = false := by
  intro call hmem
  obtain ⟨event, hevent, hcrash⟩ := List.mem_filterMap.mp hmem
  have hcall := h event hevent
  cases event with
  | called other => cases hcrash
  | ended other outcome =>
    cases outcome with
    | returns answer => cases hcrash
    | crashes =>
      cases hcrash
      exact hcall

theorem Quiet.not_ended (h : Quiet events) (s : OpenSession) (outcome : Outcome s.close.Answer) :
    .ended s.close outcome ∉ events := by
  intro hmem
  have hcall : s.close.isClose = false := h _ hmem
  rw [s.isClose_close] at hcall
  cases hcall

end Quiet

/-- One session was opened, and this has happened of the call that closes it. -/
def Parting (s : OpenSession) (closing events : List Event) : Prop :=
  ∃ before, events = before ++ closing ∧ sessionsOf before = [s] ∧ Quiet before

/-- How the release of the session of a run went. -/
inductive Release (abandoned : Prop) (events : List Event) : Prop
  | unopened (sessions : sessionsOf events = []) (quiet : Quiet events) (h : ¬abandoned)
  | returned (s : OpenSession) (answer : s.close.Answer)
      (parting : Parting s [.called s.close, .ended s.close (.returns answer)] events)
      (h : ¬abandoned)
  | crashed (s : OpenSession)
      (parting : Parting s [.called s.close, .ended s.close .crashes] events) (h : ¬abandoned)
  | abandoned (s : OpenSession) (parting : Parting s [.called s.close] events) (h : abandoned)

theorem releasedOf_returned (s : OpenSession) (answer : s.close.Answer) :
    releasedOf [.called s.close, .ended s.close (.returns answer)] = [s] := by
  cases s <;> rfl

/-- The release comes to its end just when it is not abandoned and does not crash. -/
theorem Release.releasedOf_iff {abandoned : Prop} {events : List Event}
    (h : Release abandoned events) :
    releasedOf events = sessionsOf events ↔
      ¬abandoned ∧ ∀ call ∈ crashesOf events, call.isClose = false := by
  cases h with
  | unopened sessions quiet h => simpa [sessions, quiet.releasedOf, h] using quiet.crashesOf
  | returned s answer parting h =>
    obtain ⟨before, rfl, hsess, quiet⟩ := parting
    have hclosed := sessionsOf_ended [] s.close (.returns answer) s.isConnect_close
    simpa [hsess, quiet.releasedOf, releasedOf_returned, hclosed, h] using quiet.crashesOf
  | crashed s parting h =>
    obtain ⟨before, rfl, hsess, quiet⟩ := parting
    have hnone : releasedOf [.called s.close, .ended s.close .crashes] = [] := by cases s <;> rfl
    simp [hsess, quiet.releasedOf, hnone, s.isClose_close]
  | abandoned s parting h =>
    obtain ⟨before, rfl, hsess, quiet⟩ := parting
    have hnone : releasedOf [.called s.close] = [] := rfl
    simp [hsess, quiet.releasedOf, hnone, h]

/-- An abandoned release has been begun. -/
theorem Release.not_ended {abandoned : Prop} {events : List Event} (h : Release abandoned events)
    (ha : abandoned) : ∃ s, sessionsOf events = [s] ∧ s.close ∈ callsOf events ∧
      ∀ outcome, .ended s.close outcome ∉ events := by
  cases h with
  | abandoned s parting _ =>
    obtain ⟨before, rfl, hsess, quiet⟩ := parting
    refine ⟨s, by simp [hsess], by simp, fun outcome => ?_⟩
    simp [quiet.not_ended s outcome]
  | unopened _ _ h => exact absurd ha h
  | returned _ _ _ h => exact absurd ha h
  | crashed _ _ h => exact absurd ha h


/-- What is promised of the call that closes a session. -/
def parting (base : List Event) (s : OpenSession) : Job.Contract α where
  waiting := Since base (Parting s [.called s.close])
  broken call log := call = s.close ∧
    Since base (Parting s [.called s.close, .ended s.close .crashes]) log
  final _ log := ∃ answer,
    Since base (Parting s [.called s.close, .ended s.close (.returns answer)]) log

theorem parting_keeps {s : OpenSession} {job : Job α} (ha : job.Asks s.close) {log : List Event}
    (hlog : Since base (fun events => sessionsOf events = [s] ∧ Quiet events) log) :
    job.Keeps (parting base s) log := by
  obtain ⟨next, rfl, hnext⟩ := ha
  obtain ⟨before, rfl, hbefore⟩ := hlog
  have hsince : ∀ closing, Since base (Parting s closing) (base ++ before ++ closing) := by
    intro closing
    rw [List.append_assoc]
    exact since_append.mpr ⟨before, rfl, hbefore⟩
  refine ⟨hsince _, ⟨rfl, hsince _⟩, fun answer => ?_⟩
  obtain ⟨value, hv⟩ := hnext answer
  rw [hv]
  exact ⟨answer, hsince _⟩

/-- What closing leaves that began with an open session. -/
def Parted (base : List Event) (s : OpenSession) (limit : Limit) : Task H α × Connection σ H → Prop
  | (.done _, c) => ∃ answer,
    Since base (Parting s [.called s.close, .ended s.close (.returns answer)]) c.scene.log
  | (.crashed _, c) => c.link.phase = .idle ∧
    Since base (Parting s [.called s.close, .ended s.close .crashes]) c.scene.log
  | (_, c) => limit.isSome ∧ c.link.phase = .idle ∧
    Since base (Parting s [.called s.close]) c.scene.log

theorem Since.quietly {Q R : List Event → Prop} {log : List Event} (h : Since base Q log)
    (hquiet : Since base Quiet log) (hR : ∀ events, Q events → R events) :
    Since base (fun events => R events ∧ Quiet events) log := by
  obtain ⟨events, rfl, hq⟩ := h
  exact ⟨events, rfl, hR events hq, since_append.mp hquiet⟩

theorem Used.sessions {connects crashed closing : List Call} {s : OpenSession} {events : List Event}
    (h : Used connects crashed closing s events) : sessionsOf events = [s] := by
  obtain ⟨⟨before, after, operations, rfl, -, hone, -, hnone, -⟩, -⟩ := h
  simp [hone, hnone]

/-- Without a limit closing is not left waiting. -/
theorem Parted.unbounded {s : OpenSession} {r : Task H α × Connection σ H}
    (h : Parted base s none r) : Since base (Release False) r.2.scene.log := by
  obtain ⟨task, c⟩ := r
  cases task with
  | done _ =>
    obtain ⟨answer, events, hlog, hparting⟩ := h
    exact ⟨events, hlog, .returned s answer hparting id⟩
  | crashed _ =>
    obtain ⟨-, events, hlog, hparting⟩ := h
    exact ⟨events, hlog, .crashed s hparting id⟩
  | _ => cases h.1

section Closing

variable {t : Trade H} {ex : Executor H ω} (hk : ex.Keeps t) (world : World σ) (limit : Limit)
  {c : Connection σ H}

theorem parted_work (t : Trade H) {h : H} (hidle : c.link.phase = .idle)
    (hlog : Since base (fun events => sessionsOf events = [t.session h] ∧ Quiet events)
      c.scene.log) :
    Parted base (t.session h) limit
      ((Task.work (t.close h) (fun r => .done r)).carry world 0 limit c) := by
  have hjob := Job.carry_holds world limit (s := c.scene) (parting_keeps (t.close_asks h) hlog)
  rw [Task.carry]
  generalize (t.close h).carry world limit c.scene = carried at hjob ⊢
  obtain ⟨job, s⟩ := carried
  cases job with
  | done value => exact hjob
  | crashed cause =>
    obtain ⟨call, -, -, hlog⟩ := hjob
    exact ⟨hidle, hlog⟩
  | _ => exact ⟨hjob.1, hidle, hjob.2.1⟩

/-- The report of a run and the log that it leaves, of a run that abandons the release of its
session just when it is dropped after it has begun it. -/
def Releases (base : List Event) (r : RunReport × Scene σ) : Prop :=
  Since base (Release (r.1.halt = .dropped ∧ r.1.cleanups = 2)) r.2.log

/-- A release in the background is not abandoned. -/
theorem cutOff_releases {start : Time} {results : List ActionResult}
    (h : Since base (Release False)
      (ex.release world { c with scene := c.scene.moveTo (limit.getD start) }).log) :
    Releases base (ex.cutOff world limit start 1 results c) := by
  have hfalse : (Halt.dropped = .dropped ∧ (1 : Nat) = 2) = False := by simp
  rw [Executor.cutOff, Releases, hfalse]
  exact h

include hk

theorem parted_close {h : H} (hphase : c.link.phase = .connected h)
    (hlog : Since base (fun events => sessionsOf events = [t.session h] ∧ Quiet events)
      c.scene.log) :
    Parted base (t.session h) limit (ex.close.carry world 0 limit c) := by
  rw [hk.close, Task.carry, Link.detach, hphase]
  exact parted_work world limit t rfl hlog


theorem finish_releases {h : H} {start : Time} {results : List ActionResult} {halt : Halt}
    (hhalt : halt ≠ .dropped) (hphase : c.link.phase = .connected h)
    (hlog : Since base (fun events => sessionsOf events = [t.session h] ∧ Quiet events)
      c.scene.log) :
    Releases base (ex.finish world limit start results halt c) := by
  have hclose := parted_close hk world limit hphase hlog
  rw [Executor.finish]
  generalize ex.close.carry world 0 limit c = carried at hclose ⊢
  obtain ⟨task, c⟩ := carried
  cases task with
  | done _ =>
    obtain ⟨answer, events, hlog, hparting⟩ := hclose
    exact ⟨events, hlog, .returned _ answer hparting fun hd => hhalt hd.1⟩
  | crashed cause =>
    obtain ⟨hidle, events, hlog, hparting⟩ := hclose
    refine ⟨events, ?_, .crashed _ hparting (by simp)⟩
    dsimp only
    rw [release_of_idle hk world hidle, hlog]
  | _ =>
    obtain ⟨-, hidle, events, hlog, hparting⟩ := hclose
    refine ⟨events, ?_, .abandoned _ hparting ⟨rfl, rfl⟩⟩
    dsimp only [Executor.cutOff]
    rw [release_of_idle hk world (by exact hidle)]
    exact hlog

theorem finish_releases_of_idle {start : Time} {results : List ActionResult} {halt : Halt}
    (hhalt : halt ≠ .dropped) (hphase : c.link.phase = .idle)
    (hlog : Since base (fun events => sessionsOf events = [] ∧ Quiet events) c.scene.log) :
    Releases base (ex.finish world limit start results halt c) := by
  obtain ⟨events, hlog, hsess, hquiet⟩ := hlog
  rw [Executor.finish, close_of_idle hk world limit hphase]
  exact ⟨events, hlog, .unopened hsess hquiet fun hd => hhalt hd.1⟩

/-- A session that is still being opened when the run is dropped is opened first, then closed. -/
theorem release_of_connecting (hc : Connecting t base c)
    (honly : c.Only (fun call => call.isClose = false) base) :
    Since base (Release False) (ex.release world c).log := by
  obtain ⟨job, hphase, hattempts, hkeeps⟩ := hc
  have hopen := Job.carry_holds world none (s := c.scene) hkeeps
  have hquiet := (Job.carry_only world none (honly.link 0 job (by simp [hattempts])) honly.log).2
  rw [Executor.release, hk.close, Task.carry]
  simp only [Connection.release, Connection.setLock, Link.detach, hphase, Connection.advance,
    Link.advance, hattempts, List.getElem?_cons_zero]
  generalize job.carry world none c.scene = carried at hopen hquiet ⊢
  obtain ⟨job, s⟩ := carried
  cases job with
  | done outcome =>
    cases outcome with
    | ok h =>
      have hused : Since base (Used t.connects [] [] (t.session h)) s.log := hopen
      exact (parted_work world none t rfl (hused.quietly hquiet fun _ hu => hu.sessions)).unbounded
    | error err =>
      have hun : Since base (Unopened t.connects []) s.log := hopen
      obtain ⟨events, hlog, hsess, hq⟩ := hun.quietly hquiet fun _ hu => hu.sessions
      exact ⟨events, hlog, .unopened hsess hq id⟩
  | crashed cause =>
    obtain ⟨call, -, hun⟩ := hopen
    obtain ⟨events, hlog, hsess, hq⟩ := hun.quietly hquiet fun _ hu => hu.2.sessions
    exact ⟨events, hlog, .unopened hsess hq id⟩
  | _ => cases hopen.1

/-- A run finishes the release of its session, unless it is dropped while it waits for it. -/
theorem Executor.Keeps.run_releases (hquiet : t.connect.Only fun call => call.isClose = false)
    (steps : List (Step ω)) (scene : Scene σ) :
    Releases scene.log (ex.run world limit steps scene) := by
  have hready : Ready t scene.log ({ scene := scene } : Connection σ H) none := Or.inl ⟨rfl, rfl⟩
  have hstop := runSteps_stopped hk world limit steps hready rfl
  have hstart : ({ scene := scene } : Connection σ H).Only (fun call => call.isClose = false)
      scene.log := ⟨fun _ _ h => by simp at h, [], by simp, by simp [About]⟩
  have honly := runSteps_only hk hquiet (fun _ _ h => h.isConnect_isClose.2) world limit steps hstart
  rw [Executor.run]
  generalize runSteps world limit ex steps { scene := scene } = stopped at hstop honly ⊢
  obtain ⟨results, halt, c⟩ := stopped
  change Stopped t scene.log limit halt c at hstop
  cases halt with
  | finished =>
    rcases hstop with (⟨hlink, hlog⟩ | ⟨h, hphase, hused⟩) | ⟨hidle, hun⟩
    · refine finish_releases_of_idle hk world limit (by simp) (by rw [hlink]) ?_
      exact ⟨[], by simp [hlog], rfl, by simp [About]⟩
    · exact finish_releases hk world limit (by simp) hphase
        (hused.quietly honly.log fun _ hu => hu.sessions)
    · exact finish_releases_of_idle hk world limit (by simp) hidle
        (hun.quietly honly.log fun _ hu => hu.sessions)
  | crashed cause =>
    obtain ⟨call, -, ⟨-, -, h, hphase, hused⟩ | hs⟩ := hstop
    · exact finish_releases hk world limit (by simp) hphase
        (hused.quietly honly.log fun _ hu => hu.sessions)
    · obtain ⟨d, hd, hidle, hscene⟩ := close_of_stranded hk world limit hs
      obtain ⟨-, -, -, hun⟩ := hs
      obtain ⟨events, hlog, hsess, hq⟩ := hun.quietly honly.log fun _ hu => hu.sessions
      refine ⟨events, ?_, .unopened hsess hq ?_⟩
      · simp only [Executor.finish, hd, release_of_idle hk world hidle, hscene, hlog]
      · simp [Executor.finish, hd]
  | dropped =>
    obtain ⟨-, (⟨hlink, hlog⟩ | ⟨h, hphase, hused⟩) | hc⟩ := hstop
    · refine cutOff_releases world limit ?_
      rw [release_of_idle hk world (by simp [hlink])]
      exact ⟨[], by simp [Scene.moveTo, hlog], .unopened rfl (by simp [About]) id⟩
    · have hopen := hused.quietly honly.log fun _ hu => hu.sessions
      exact cutOff_releases world limit (parted_close hk world none
        (c := Connection.release { c with scene := c.scene.moveTo (limit.getD scene.now) } 0)
        hphase hopen).unbounded
    · exact cutOff_releases world limit
        (release_of_connecting hk world hc ⟨honly.link, honly.log⟩)

end Closing

/-- Where nothing happens there is nothing to release. -/
theorem releases_of_log_eq {r : RunReport × Scene σ} (hlog : r.2.log = base)
    (h : ¬(r.1.halt = .dropped ∧ r.1.cleanups = 2)) : Releases base r :=
  ⟨[], by simp [hlog], .unopened rfl (by simp [About]) h⟩

theorem Executor.sleep_releases (world : World σ) (limit : Limit) (steps : List (Step Empty))
    (scene : Scene σ) :
    Releases scene.log (Executor.sleep.run world limit steps scene) := by
  obtain ⟨d, hlog, hd, hhalt⟩ :=
    runSteps_sleep world limit steps ({ scene := scene } : Connection σ Unit)
  rw [Executor.run]
  generalize runSteps world limit Executor.sleep steps { scene := scene } = stopped at hd hhalt ⊢
  obtain ⟨results, halt, c⟩ := stopped
  obtain rfl : c = d := hd
  rcases hhalt with hhalt | ⟨hhalt, -⟩ <;> cases hhalt
  · exact releases_of_log_eq hlog fun h => by cases h.1
  · exact releases_of_log_eq hlog (by simp [Executor.cutOff])

namespace Plan

theorem run_release (plan : Plan) (world : World σ) (credentials : Credentials) (limit : Limit)
    (scene : Scene σ) : Releases scene.log (plan.run world credentials limit scene) := by
  have hquiet : ∀ call : Call, call.isConnect → call.isClose = false :=
    fun _ => Call.isClose_of_isConnect
  cases plan with
  | server address steps =>
    exact (server_keeps _).run_releases world limit ((server_connect_only _).mono hquiet) steps scene
  | chassis address steps =>
    exact (chassis_keeps _).run_releases world limit ((chassis_connect_only _).mono hquiet) steps
      scene
  | blade address locator steps =>
    exact (blade_keeps _ _).run_releases world limit ((chassis_connect_only _).mono hquiet) steps
      scene
  | sleep steps => exact Executor.sleep_releases world limit steps scene

/-- However a run ends, the session that it opened is released to the end, unless the call that
closes it crashes or the run is dropped while it waits for that call. Dropped there, the run leaves
the call unfinished, and the release in the background finds nothing to close. -/
theorem run_finishes_release_iff (plan : Plan) (world : World σ) (credentials : Credentials)
    (limit : Limit) (scene : Scene σ) :
    ∃ events, (plan.run world credentials limit scene).2.log = scene.log ++ events ∧
      let report := (plan.run world credentials limit scene).1
      let abandoned := report.halt = .dropped ∧ report.cleanups = 2
      (releasedOf events = sessionsOf events ↔
        ¬abandoned ∧ ∀ call ∈ crashesOf events, call.isClose = false) ∧
      (abandoned → ∃ s, sessionsOf events = [s] ∧ s.close ∈ callsOf events ∧
        ∀ outcome, .ended s.close outcome ∉ events) := by
  obtain ⟨events, hlog, hrelease⟩ := plan.run_release world credentials limit scene
  exact ⟨events, hlog, hrelease.releasedOf_iff, hrelease.not_ended⟩

/-- A server asked for its state, whose driver takes a while to close. The run is dropped while it
waits for the driver. -/
theorem run_abandons_release :
    let endpoint : Endpoint := ⟨"10.0.0.1", ⟨"admin", "secret"⟩⟩
    let plan := Plan.server endpoint.host [⟨"ison", .operate (.operate .isOn)⟩]
    let rehearsal : Scene Script := { world := { delays := [("native.close", 100)] } }
    let session : ServerSession := ⟨.native, endpoint, ⟨"rehearsed", true, true⟩⟩
    let (report, scene) := plan.run Script.world endpoint.credentials (some 50) rehearsal
    compile .host [("host", .text endpoint.host)] ["ison"] = .ok plan ∧
      report.halt = .dropped ∧ crashesOf scene.log = [] ∧
      sessionsOf scene.log = [.server session] ∧ releasedOf scene.log = [] ∧
      callsOf scene.log =
        [.connectHost endpoint, .server session .isOn, .closeServer session] := by
  refine ⟨rfl, ?_, ?_, ?_, ?_, ?_⟩ <;> decide +kernel

end Plan

end Outband
