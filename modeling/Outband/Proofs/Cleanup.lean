import Outband.Proofs.Discipline
import Outband.Rehearsal
/-! How often a run begins to release its session when calls crash, and with which crash it ends. -/

namespace Outband

/-- A run that is not cut off stops with the crash of its step, or with one that it met while it
released the session. -/
theorem Account.not_dropped {halt : Halt} {cleanups : Nat} {crashed : List Call}
    (h : Account none halt cleanups crashed) : halt ≠ .dropped := by
  intro hd
  cases h with
  | dropped hlimit => cases hlimit
  | _ => cases hd

/-- The session is released once when no call crashed that connects or closes. -/
theorem Account.once {halt : Halt} {cleanups : Nat} {crashed : List Call}
    (h : Account none halt cleanups crashed)
    (hcalls : ∀ call ∈ crashed, call.isConnect = false ∧ call.isClose = false) :
    cleanups = 1 ∧ (crashed = [] ∧ halt = .finished ∨
      ∃ call, crashed = [call] ∧ halt = .crashed (.call call)) := by
  cases h with
  | finished => exact ⟨rfl, Or.inl ⟨rfl, rfl⟩⟩
  | step _ _ => exact ⟨rfl, Or.inr ⟨_, rfl, rfl⟩⟩
  | @connect call hconnect =>
    have hcall := (hcalls call (List.mem_singleton.mpr rfl)).1
    rw [hconnect] at hcall
    cases hcall
  | @close call crashed hclose _ =>
    have hcall := (hcalls call (List.mem_append_right crashed (List.mem_singleton.mpr rfl))).2
    rw [hclose] at hcall
    cases hcall
  | dropped hlimit => cases hlimit

/-- Whoever releases the session after a crashed attempt crashes on it in turn. -/
theorem Account.of_connect {halt : Halt} {cleanups : Nat} {crashed : List Call} {call : Call}
    (h : Account none halt cleanups crashed) (hconnect : call.isConnect) (hmem : call ∈ crashed) :
    cleanups = 2 ∧ halt = .crashed (.attempt 0) := by
  cases h with
  | finished => cases hmem
  | step hother _ =>
    rw [List.mem_singleton.mp hmem, hother] at hconnect
    cases hconnect
  | connect _ => exact ⟨rfl, rfl⟩
  | close hclose hsteps =>
    rcases List.mem_append.mp hmem with hmem | hmem
    · rw [hsteps call hmem] at hconnect
      cases hconnect
    · rw [← List.mem_singleton.mp hmem, Call.isClose_of_isConnect hconnect] at hclose
      cases hclose
  | dropped hlimit => cases hlimit

theorem Account.not_once {halt : Halt} {cleanups : Nat} {crashed : List Call}
    (h : Account none halt cleanups crashed) {call : Call} (hmem : call ∈ crashed)
    (hcall : call.isConnect ∨ call.isClose) : cleanups ≠ 1 := by
  cases h with
  | finished => cases hmem
  | step hconnect hclose =>
    rw [List.mem_singleton.mp hmem, hconnect, hclose] at hcall
    rcases hcall with hcall | hcall <;> cases hcall
  | connect _ => exact Nat.succ_ne_self 1
  | close _ _ => exact Nat.succ_ne_self 1
  | dropped hlimit => cases hlimit

namespace Plan

/-- A run that is not cut off comes to its end, unless a call crashes. -/
theorem run_finishes (plan : Plan) (world : World σ) (credentials : Credentials)
    (scene : Scene σ) :
    ∃ events, (plan.run world credentials none scene).2.log = scene.log ++ events ∧
      (crashesOf events = [] → (plan.run world credentials none scene).1.halt = .finished) := by
  obtain ⟨crashed, ha, events, hlog, hsettled⟩ := plan.run_account world credentials none scene
  obtain rfl : crashesOf events = crashed := hsettled.crashes
  refine ⟨events, hlog, fun hnone => ?_⟩
  obtain ⟨-, ⟨-, hhalt⟩ | ⟨call, hone, -⟩⟩ := ha.once (by simp [hnone])
  · exact hhalt
  · rw [hnone] at hone
    cases hone

/-- A run that is not cut off releases its session once, and crashes with the crash of its step, just
when no call crashed that connects or closes. After a crashed attempt to connect it begins the
release twice, and crashes with the dead attempt in place of the call. -/
theorem run_releases_once_iff (plan : Plan) (world : World σ) (credentials : Credentials)
    (scene : Scene σ) :
    ∃ events, (plan.run world credentials none scene).2.log = scene.log ++ events ∧
      let report := (plan.run world credentials none scene).1
      report.halt ≠ .dropped ∧
      ((report.cleanups = 1 ∧ ∀ call ∈ crashesOf events, report.halt = .crashed (.call call)) ↔
        ∀ call ∈ crashesOf events, call.isConnect = false ∧ call.isClose = false) ∧
      (crashesOf events = [] → report.cleanups = 1 ∧ report.halt = .finished) ∧
      ∀ call ∈ crashesOf events, call.isConnect →
        report.cleanups = 2 ∧ report.halt = .crashed (.attempt 0) := by
  obtain ⟨crashed, ha, events, hlog, hsettled⟩ := plan.run_account world credentials none scene
  obtain rfl : crashesOf events = crashed := hsettled.crashes
  refine ⟨events, hlog, ha.not_dropped, ?_, ?_, ?_⟩
  · constructor
    · rintro ⟨honce, -⟩ call hmem
      by_contra hcall
      refine ha.not_once hmem ?_ honce
      cases hconnect : call.isConnect <;> simp_all
    · intro hcalls
      obtain ⟨honce, ⟨hnone, -⟩ | ⟨call, hone, hhalt⟩⟩ := ha.once hcalls
      · exact ⟨honce, by simp [hnone]⟩
      · refine ⟨honce, fun other hmem => ?_⟩
        rw [hone] at hmem
        rw [List.mem_singleton.mp hmem, hhalt]
  · intro hnone
    obtain ⟨honce, ⟨-, hhalt⟩ | ⟨call, hone, -⟩⟩ := ha.once (by simp [hnone])
    · exact ⟨honce, hhalt⟩
    · rw [hnone] at hone
      cases hone
  · intro call hmem hconnect
    exact ha.of_connect hconnect hmem

/-- One step on a server, to whose controller the attempt to connect crashes. -/
theorem run_releases_twice :
    let endpoint : Endpoint := ⟨"10.0.0.1", ⟨"admin", "secret"⟩⟩
    let plan := Plan.server endpoint.host [⟨"ison", .operate (.operate .isOn)⟩]
    let rehearsal : Scene Script := { world := { cues := [("connect_host", [.crash])] } }
    let (report, scene) := plan.run Script.world endpoint.credentials none rehearsal
    compile .host [("host", .text endpoint.host)] ["ison"] = .ok plan ∧
      crashesOf scene.log = [.connectHost endpoint] ∧ report.cleanups = 2 ∧
      report.halt = .crashed (.attempt 0) ∧
      report.halt ≠ .crashed (.call (.connectHost endpoint)) := by
  refine ⟨rfl, ?_, ?_, ?_, ?_⟩ <;> decide +kernel

end Plan

end Outband
