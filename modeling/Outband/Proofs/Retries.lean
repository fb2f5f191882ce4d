import Outband.Proofs.BladeSession
import Outband.Proofs.Fallback
/-! Callers who use one connection one after the other, each to its end. While attempts to connect
fail, each caller makes its own, and the first one that brings a session is the last one. An attempt
that crashes is not forgotten: every caller after it crashes on it. -/

namespace Outband

/-- The task goes on without the link. -/
inductive Task.Spends {H α : Type} : Task H α → Prop
  | done (answer : α) : Spends (.done answer)
  | work {job : Job β} {next : β → Task H α} (h : ∀ value, ∃ answer, next value = .done answer) :
    Spends (.work job next)

theorem Task.Spends.carry_link {task : Task H α} (h : task.Spends) (world : World σ)
    (owner : Nat) (limit : Limit) (c : Connection σ H) :
    (task.carry world owner limit c).2.link = c.link := by
  cases h with
  | done answer => rfl
  | @work β job next hnext =>
    rw [Task.carry]
    generalize job.carry world limit c.scene = carried
    obtain ⟨job, s⟩ := carried
    cases job with
    | done value =>
      obtain ⟨answer, hanswer⟩ := hnext value
      simp only [hanswer, Task.carry]
    | _ => rfl

/-- An operation that needs the session before anything else. An error of the attempt to connect is
its own error. -/
structure Operation (H : Type) {α : Type} (error? : α → Option DriverError) where
  connect : Job (Except DriverError H)
  next : Except DriverError H → Task H α
  failed : ∀ err, ∃ answer, next (.error err) = .done answer ∧ error? answer = some err
  opened : ∀ session, (next (.ok session)).Spends

/-- An operation that had its turn: the connection that it found, how it ended, and the connection
that it left. -/
structure Turn (σ H : Type) {α : Type} (error? : α → Option DriverError) where
  operation : Operation H error?
  found : Connection σ H
  ended : Task H α
  left : Connection σ H

namespace Operation

variable {error? : α → Option DriverError}

def task (op : Operation H error?) : Task H α := .enter op.connect op.next

def turn (world : World σ) (op : Operation H error?) (c : Connection σ H) : Turn σ H error? :=
  let (ended, left) := op.task.carry world 0 none c
  ⟨op, c, ended, left⟩

/-- Operations on one connection, each after the end of the one before it. -/
def inTurn (world : World σ) :
    List (Operation H error?) → Connection σ H → List (Turn σ H error?)
  | [], _ => []
  | op :: rest, c => op.turn world c :: inTurn world rest (op.turn world c).left

end Operation

namespace Turn

variable {error? : α → Option DriverError}

/-- The operation went on with that session from there. -/
def Uses (world : World σ) (t : Turn σ H error?) (session : H) (c : Connection σ H) : Prop :=
  (t.ended, t.left) = (t.operation.next (.ok session)).carry world 0 none c

/-- The operation made an attempt of its own, and used the session or ended as the attempt did. -/
inductive Tries (world : World σ) (t : Turn σ H error?) : Prop
  | opened {session : H} {s : Scene σ}
    (ran : t.operation.connect.carry world none t.found.scene = (.done (.ok session), s))
    (link : t.left.link = ⟨.connected session, t.found.link.attempts ++ [.ended (.ok session)]⟩)
    (used : t.Uses world session { t.found with link := t.left.link, scene := s })
  | failed {err : DriverError} {answer : α} {s : Scene σ}
    (ran : t.operation.connect.carry world none t.found.scene = (.done (.error err), s))
    (link : t.left.link = ⟨.idle, t.found.link.attempts ++ [.ended (.error err)]⟩)
    (ended : t.ended = .done answer) (error : error? answer = some err) (scene : t.left.scene = s)
  | crashed {cause : Crash} {s : Scene σ}
    (ran : t.operation.connect.carry world none t.found.scene = (.crashed cause, s))
    (link : t.left.link =
      ⟨.connecting t.found.link.attempts.length, t.found.link.attempts ++ [.crashed]⟩)
    (ended : t.ended = .crashed cause) (scene : t.left.scene = s)

/-- The operation made no attempt and used the session that it found. -/
structure Reuses (world : World σ) (t : Turn σ H error?) (session : H) : Prop where
  link : t.left.link = t.found.link
  used : t.Uses world session t.found

/-- What was attempted before does not count unless it brought a session. -/
structure Retries (world : World σ) (number : Nat) (t : Turn σ H error?) : Prop where
  reuses : ∀ session, .ended (.ok session) ∈ t.found.link.attempts → t.Reuses world session
  tries : (∀ session, .ended (.ok session) ∉ t.found.link.attempts) →
    t.found.link.attempts.length = number ∧ t.Tries world

/-- The operation crashed on an attempt of an earlier one, and did nothing else. -/
structure Stumbles (t : Turn σ H error?) : Prop where
  ended : ∃ number, t.found.link.attempts[number]? = some .crashed ∧
    t.ended = .crashed (.attempt number)
  link : t.left.link = t.found.link
  scene : t.left.scene = t.found.scene

end Turn

/-- Attempts that failed so. -/
def failures (errs : List DriverError) : List (Attempt H) := errs.map fun err => .ended (.error err)

/-- The link after that many turns. -/
inductive Link.After : Nat → Link H → Prop
  | idle (errs : List DriverError) : After errs.length ⟨.idle, failures errs⟩
  | connected (turns : Nat) (errs : List DriverError) (session : H) :
    After turns ⟨.connected session, failures errs ++ [.ended (.ok session)]⟩
  | stuck (turns : Nat) (errs : List DriverError) :
    After turns ⟨.connecting errs.length, failures errs ++ [.crashed]⟩

section Turns

variable {error? : α → Option DriverError} {op : Operation H error?} {c : Connection σ H}
  {t : Turn σ H error?} {turns : Nat} (world : World σ)

theorem Operation.turn_idle (h : c.link.phase = .idle) : (op.turn world c).Tries world := by
  have hcarry := carry_enter_idle world none 0 op.connect op.next h
  have hended := op.connect.carry_none world c.scene
  unfold Operation.turn Operation.task
  rw [hcarry]
  generalize hran : op.connect.carry world none c.scene = carried at hended ⊢
  obtain ⟨job, s⟩ := carried
  rcases hended with ⟨outcome, rfl⟩ | ⟨cause, rfl⟩
  · cases outcome with
    | ok session =>
      have hlink := (op.opened session).carry_link world 0 none
        { c with
          link := ⟨.connected session, c.link.attempts ++ [.ended (.ok session)]⟩
          scene := s }
      exact .opened hran (by simp [hlink]) (by simp [Turn.Uses, hlink])
    | error err =>
      obtain ⟨answer, hanswer, herror⟩ := op.failed err
      simp only [hanswer, Task.carry]
      exact .failed hran rfl rfl herror rfl
  · exact .crashed hran rfl rfl rfl

theorem Operation.turn_connected {session : H} (h : c.link.phase = .connected session) :
    (op.turn world c).Reuses world session := by
  have hcarry : op.task.carry world 0 none c = (op.next (.ok session)).carry world 0 none c :=
    carry_enter_connected op.connect op.next h
  unfold Operation.turn
  rw [hcarry]
  exact ⟨(op.opened session).carry_link world 0 none c, rfl⟩

theorem Operation.turn_stuck {number : Nat} (h : c.link.phase = .connecting number)
    (hcrashed : c.link.attempts[number]? = some .crashed) : (op.turn world c).Stumbles := by
  have hcarry : op.task.carry world 0 none c = (.crashed (.attempt number), c.release 0) := by
    simp only [Operation.task, Task.carry, h, Connection.advance, Link.advance, hcrashed]
  unfold Operation.turn
  rw [hcarry]
  exact ⟨⟨number, hcrashed, rfl⟩, rfl, rfl⟩

/-- Attempts that failed brought no session and did not crash. -/
theorem not_mem_failures {errs : List DriverError} {attempt : Attempt H}
    (h : ∀ err, attempt ≠ .ended (.error err)) : attempt ∉ failures errs := by
  rintro hmem
  obtain ⟨err, -, rfl⟩ := List.mem_map.mp hmem
  exact h err rfl

theorem failures_concat (errs : List DriverError) (err : DriverError) :
    (failures errs ++ [.ended (.error err)] : List (Attempt H)) = failures (errs ++ [err]) := by
  simp [failures]

theorem failures_length (errs : List DriverError) :
    (failures errs : List (Attempt H)).length = errs.length := List.length_map _

theorem Turn.Tries.attempts (h : t.Tries world) :
    t.left.link.attempts.length = t.found.link.attempts.length + 1 := by
  cases h <;> simp [*]

/-- Who makes no attempt of its own, though none before it brought a session, does not retry. -/
theorem Turn.not_retries (hsame : t.left.link.attempts.length = t.found.link.attempts.length)
    (hno : ∀ session, .ended (.ok session) ∉ t.found.link.attempts) : ¬ t.Retries world turns := by
  intro hretries
  have hmore := (hretries.tries hno).2.attempts
  omega

theorem Turn.Tries.retries (h : t.Tries world) (hcount : t.found.link.attempts.length = turns)
    (hno : ∀ session, .ended (.ok session) ∉ t.found.link.attempts) : t.Retries world turns :=
  ⟨fun session hmem => absurd hmem (hno session), fun _ => ⟨hcount, h⟩⟩

theorem Turn.Reuses.retries {session : H} (h : t.Reuses world session)
    (hone : ∀ other, .ended (.ok other) ∈ t.found.link.attempts ↔ other = session) :
    t.Retries world turns where
  reuses other hmem := by
    obtain rfl := (hone other).mp hmem
    exact h
  tries hno := absurd ((hone session).mpr rfl) (hno session)

/-- A turn leaves the link as so many turns do. -/
theorem Link.After.turn (op : Operation H error?) (h : c.link.After turns) :
    (op.turn world c).left.link.After (turns + 1) := by
  have hfound : (op.turn world c).found.link = c.link := rfl
  generalize hlink : c.link = link at h
  rw [hlink] at hfound
  cases h with
  | idle errs =>
    have hphase : c.link.phase = .idle := by rw [hlink]
    cases op.turn_idle world hphase with
    | opened _ hleft _ =>
      rw [hleft, hfound]
      exact .connected _ errs _
    | @failed err _ _ _ hleft _ _ _ =>
      rw [hleft, hfound, failures_concat]
      simpa using Link.After.idle (errs ++ [err])
    | crashed _ hleft _ _ =>
      rw [hleft, hfound, failures_length]
      exact .stuck _ errs
  | connected _ errs session =>
    have hphase : c.link.phase = .connected session := by rw [hlink]
    rw [(op.turn_connected world hphase).link, hfound]
    exact .connected _ errs session
  | stuck _ errs =>
    have hphase : c.link.phase = .connecting errs.length := by rw [hlink]
    rw [(op.turn_stuck world hphase (by simp [hlink, failures])).link, hfound]
    exact .stuck _ errs

/-- A turn retries, unless an attempt before it crashed. -/
theorem Link.After.retries (op : Operation H error?) (h : c.link.After turns) :
    (op.turn world c).Retries world turns ∧ .crashed ∉ c.link.attempts ∨
      (op.turn world c).Stumbles ∧ ¬ (op.turn world c).Retries world turns ∧
        .crashed ∈ c.link.attempts := by
  have hfound : (op.turn world c).found.link = c.link := rfl
  generalize hlink : c.link = link at h
  rw [hlink] at hfound
  cases h with
  | idle errs =>
    have htries := op.turn_idle world (c := c) (by rw [hlink])
    refine Or.inl ⟨htries.retries world ?_ ?_, not_mem_failures (by simp)⟩
    · rw [hfound, failures_length]
    · rw [hfound]
      exact fun session => not_mem_failures (by simp)
  | connected _ errs session =>
    have hphase : c.link.phase = .connected session := by rw [hlink]
    refine Or.inl ⟨(op.turn_connected world hphase).retries world fun other => ?_, ?_⟩
    · rw [hfound, List.mem_append, or_iff_right (not_mem_failures (by simp))]
      simp
    · simpa using not_mem_failures (by simp)
  | stuck _ errs =>
    -- The attempt that crashed is still the one that the link waits for.
    have hphase : c.link.phase = .connecting errs.length := by rw [hlink]
    have hstumbles := op.turn_stuck world hphase (by simp [hlink, failures])
    refine Or.inr ⟨hstumbles, Turn.not_retries world (by rw [hstumbles.link]) ?_, by simp⟩
    rw [hfound]
    exact fun session => by simpa using not_mem_failures (by simp)

/-- Every turn is one after those before it. -/
theorem Operation.inTurn_after {ops : List (Operation H error?)} (h : c.link.After turns) {i : Nat}
    (hi : (inTurn world ops c)[i]? = some t) :
    t.found.link.After (turns + i) ∧ t = t.operation.turn world t.found := by
  induction ops generalizing c turns i with
  | nil => simp [inTurn] at hi
  | cons op rest ih =>
    cases i with
    | zero =>
      obtain rfl : op.turn world c = t := by simpa [inTurn] using hi
      exact ⟨h, rfl⟩
    | succ i =>
      obtain ⟨hafter, ht⟩ := ih (h.turn world op) (by simpa [inTurn] using hi)
      rw [Nat.add_right_comm] at hafter
      exact ⟨hafter, ht⟩

end Turns

/-- The error of an operation that returns no more than what it came to. -/
def failure? : Except DriverError α → Option DriverError
  | .ok _ => none
  | .error err => some err

/-- Opens the session if there is none, and returns it. -/
def Operation.opening (connect : Job (Except DriverError H)) : Operation H (failure? (α := H)) where
  connect := connect
  next := .done
  failed err := ⟨.error err, rfl, rfl⟩
  opened session := Task.Spends.done (Except.ok session)

namespace Server

def operation (e : Endpoint) (op : ServerOp) : Operation ServerSession (failure? (α := Bool)) where
  connect := connect e
  next outcome :=
    match outcome with
    | .ok session => .work (session.perform op) .done
    | .error err => .done (.error err)
  failed err := ⟨.error err, rfl, rfl⟩
  opened _ := .work fun value => ⟨value, rfl⟩

theorem Using.spends {session : ServerSession} {task : Task ServerSession Answer}
    (h : Using session task) : task.Spends := by
  cases h with
  | done answer => exact .done answer
  | work hjob hnext => exact .work hnext

/-- Whatever callers do with the connection of a server needs the session, but for its release and
the question whether there is one. -/
theorem Request.operation {e : Endpoint} {task : Task ServerSession Answer} (h : Request e task) :
    (∃ op : Operation ServerSession Answer.error?, op.connect = Server.connect e ∧ op.task = task) ∨
      task = .detach release ∨ task = backend := by
  rcases h.cases with ⟨next, rfl, hserves⟩ | hother
  · have hspends := fun session => (hserves.opened session).spends
    exact Or.inl ⟨⟨Server.connect e, next, hserves.failed, hspends⟩, rfl, rfl⟩
  · exact Or.inr hother

end Server

namespace Operation

/-- Each of any number of operations, one after the other, makes an attempt of its own and ends as
that does, until an attempt brings the session that all later ones use: this holds of all of them
just when no attempt crashed but that of the last one. After an attempt that crashed every operation
crashes on it, and makes neither an attempt nor a call. -/
theorem inTurn_retries_iff {error? : α → Option DriverError} (world : World σ) (scene : Scene σ)
    (ops : List (Operation H error?)) :
    let turns := inTurn world ops { scene := scene }
    ((∀ (i : Nat) (t : Turn σ H error?), turns[i]? = some t → t.Retries world i) ↔
      ∀ t ∈ turns, .crashed ∉ t.found.link.attempts) ∧
    (∀ t ∈ turns, .crashed ∈ t.found.link.attempts → t.Stumbles) ∧
    (∀ connect : Job (Except DriverError H), (opening connect).task = .enter connect .done) ∧
    ∀ e task, Server.Request e task →
      (∃ op : Operation ServerSession Server.Answer.error?,
        op.connect = Server.connect e ∧ op.task = task) ∨
      task = .detach Server.release ∨ task = Server.backend := by
  intro turns
  have hcases : ∀ (i : Nat) (t : Turn σ H error?), turns[i]? = some t →
      t.Retries world i ∧ .crashed ∉ t.found.link.attempts ∨
        t.Stumbles ∧ ¬ t.Retries world i ∧ .crashed ∈ t.found.link.attempts := by
    intro i t hi
    have hfresh : ({ scene := scene } : Connection σ H).link.After 0 := .idle []
    obtain ⟨hafter, ht⟩ := inTurn_after world hfresh hi
    have hturn := hafter.retries world t.operation
    rwa [← ht, Nat.zero_add] at hturn
  refine ⟨⟨fun hall t hmem => ?_, fun hnone i t hi => ?_⟩, fun t hmem hcrashed => ?_,
    fun connect => rfl, fun e task h => h.operation⟩
  · obtain ⟨i, hi⟩ := List.mem_iff_getElem?.mp hmem
    rcases hcases i t hi with ⟨-, hno⟩ | ⟨-, hno, -⟩
    · exact hno
    · exact absurd (hall i t hi) hno
  · rcases hcases i t hi with ⟨hretries, -⟩ | ⟨-, -, hcrashed⟩
    · exact hretries
    · exact absurd hcrashed (hnone t (List.mem_of_getElem? hi))
  · obtain ⟨i, hi⟩ := List.mem_iff_getElem?.mp hmem
    rcases hcases i t hi with ⟨-, hno⟩ | ⟨hstumbles, -, -⟩
    · exact absurd hcrashed hno
    · exact hstumbles

/-- The second question whether a server is on, after an attempt to connect that crashed. The next
attempt would go well. -/
theorem second_turn_stumbles :
    let e : Endpoint := ⟨"10.0.0.1", ⟨"admin", "secret"⟩⟩
    let isOn := Server.operation e .isOn
    let rehearsal : Scene Script := { world := { cues := [("connect_host", [.crash, .plain])] } }
    let turns := inTurn Script.world [isOn, isOn] { scene := rehearsal }
    isOn.task = Server.operate e .isOn ∧
    (∃ t, turns[1]? = some t ∧ t.ended = .crashed (.attempt 0) ∧
      t.left.link.attempts.length = 1 ∧ callsOf t.left.scene.log = [.connectHost e]) ∧
    ¬ ∀ (i : Nat) (t : Turn Script ServerSession failure?), turns[i]? = some t →
      t.Retries Script.world i := by
  intro e isOn rehearsal turns
  refine ⟨?_, ⟨_, rfl, rfl, rfl, ?_⟩, fun hall => ?_⟩
  · rfl
  · decide +kernel
  · refine Turn.not_retries Script.world rfl (fun session hmem => ?_) (hall 1 _ rfl)
    cases List.mem_singleton.mp hmem

end Operation

end Outband
