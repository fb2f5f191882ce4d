import Outband.Ipmi
import Mathlib.Data.List.Basic
/-! What an operation on a server tries with the IPMI tool: which commands, which of them wait for
what another one told, and that none is tried after one that failed. -/

namespace Outband

namespace ServerOp

/-- The commands of an operation that goes well. -/
def commands : ServerOp → List Ipmi.Command
  | .isOn => [.status]
  | .powerOn => [.status, .on]
  | .powerOff => [.status, .off]
  | .powerCycle => [.reset]
  | .powerCycleBmc => [.coldReset]
  | .pxeOnce | .pxeOnceEfi => [.bootUefi, .reset]
  | .pxeOnceMbr => [.bootLegacy, .reset]

end ServerOp

namespace Ipmi

/-- The power state in which alone a command is sent. -/
def Command.needs? : Command → Option Bool
  | .on => some false
  | .off => some true
  | _ => none

/-- The output of a command holds one of these phrases when the command went well. -/
def Command.phrases : Command → List String
  | .status => [Command.status.phrase, offPhrase]
  | c => [c.phrase]

/-- A command that was tried, and what came of it. -/
structure Trial where
  session : Session
  command : Command
  outcome : Except String Execution

namespace Trial

def invocation (t : Trial) : Invocation := t.session.invocation t.command

/-- The tool came to run, whatever it did then. -/
def isStarted (t : Trial) : Bool := t.outcome.isOk

/-- The tool could not be started, or did not end well, or printed none of the phrases of the
command. -/
inductive Failed (t : Trial) : Prop
  | unstarted (reason : String) (h : t.outcome = .error reason)
  | ended (execution : Execution) (h : t.outcome = .ok execution)
      (badly : execution.ending ≠ .exited 0)
  | wordless (execution : Execution) (h : t.outcome = .ok execution)
      (lacks : ∀ phrase ∈ t.command.phrases, mentions execution.output phrase = false)

/-- The tool told this power state. -/
def Reports (t : Trial) (on : Bool) : Prop :=
  t.command = .status ∧ ∃ execution, t.outcome = .ok execution ∧
    execution.ending = .exited 0 ∧ powerState execution.output = .ok on

/-- What an operation learns from a trial. -/
def finding (t : Trial) : Except DriverError Bool :=
  match Session.reading t.command t.outcome with
  | .error cause => .error cause
  | .ok output =>
    if t.command = .status then powerState output else expect t.command.phrase output

variable {t : Trial}

theorem finding_of_unstarted {reason : String} (h : t.outcome = .error reason) :
    t.finding = .error (.commandFailed t.command.text reason "") := by
  rw [finding, h]
  rfl

theorem finding_of_badly_ended {execution : Execution} (h : t.outcome = .ok execution)
    (badly : execution.ending ≠ .exited 0) :
    t.finding = .error
      (.commandFailed t.command.text execution.ending.describe execution.output) := by
  have hfails : execution.isSuccess = false := by simpa [Execution.isSuccess] using badly
  rw [finding, h]
  simp [Session.reading, hfails]

theorem finding_of_well_ended {execution : Execution} (h : t.outcome = .ok execution)
    (well : execution.ending = .exited 0) :
    t.finding = if t.command = .status then powerState execution.output
      else expect t.command.phrase execution.output := by
  have hsuccess : execution.isSuccess := by simp [Execution.isSuccess, well]
  rw [finding, h]
  simp [Session.reading, hsuccess]

/-- An output without any of the phrases is all that there is to report. -/
theorem finding_of_wordless {execution : Execution} (h : t.outcome = .ok execution)
    (well : execution.ending = .exited 0) :
    (∀ phrase ∈ t.command.phrases, mentions execution.output phrase = false) ∧
        t.finding = .error (unexpected execution.output) ∨
      (∃ phrase ∈ t.command.phrases, mentions execution.output phrase = true) ∧
        ∃ state, t.finding = .ok state := by
  rw [finding_of_well_ended h well]
  by_cases hstatus : t.command = .status
  · rw [if_pos hstatus, hstatus, powerState]
    cases hon : mentions execution.output Command.status.phrase with
    | true => exact Or.inr ⟨⟨_, List.mem_cons_self, hon⟩, true, by simp⟩
    | false =>
      cases hoff : mentions execution.output offPhrase with
      | true => exact Or.inr ⟨⟨offPhrase, by simp [Command.phrases], hoff⟩, false, by simp⟩
      | false => exact Or.inl ⟨by simp [Command.phrases, hon, hoff], by simp⟩
  · have hphrases : t.command.phrases = [t.command.phrase] := by
      cases hcommand : t.command <;> first | rfl | exact absurd hcommand hstatus
    rw [if_neg hstatus, hphrases, expect]
    cases hword : mentions execution.output t.command.phrase with
    | true => exact Or.inr ⟨⟨_, List.mem_cons_self, hword⟩, true, by simp⟩
    | false => exact Or.inl ⟨by simp [hword], by simp⟩

/-- An operation learns nothing from a trial just when the trial failed. -/
theorem failed_iff : t.Failed ↔ ∃ cause, t.finding = .error cause := by
  constructor
  · intro h
    cases h with
    | unstarted reason h => exact ⟨_, finding_of_unstarted h⟩
    | ended execution h badly => exact ⟨_, finding_of_badly_ended h badly⟩
    | wordless execution h lacks =>
      by_cases well : execution.ending = .exited 0
      · rcases finding_of_wordless h well with ⟨-, hfinding⟩ | ⟨⟨phrase, hmem, hword⟩, -⟩
        · exact ⟨_, hfinding⟩
        · rw [lacks phrase hmem] at hword
          cases hword
      · exact ⟨_, finding_of_badly_ended h well⟩
  · rintro ⟨cause, hcause⟩
    cases houtcome : t.outcome with
    | error reason => exact .unstarted reason houtcome
    | ok execution =>
      by_cases well : execution.ending = .exited 0
      · rcases finding_of_wordless houtcome well with ⟨lacks, -⟩ | ⟨-, state, hstate⟩
        · exact .wordless execution houtcome lacks
        · rw [hstate] at hcause
          cases hcause
      · exact .ended execution houtcome well

theorem not_failed {state : Bool} (h : t.finding = .ok state) : ¬ t.Failed := by
  rw [failed_iff]
  rintro ⟨cause, hcause⟩
  rw [h] at hcause
  cases hcause

theorem reports_of_finding {state : Bool} (hcommand : t.command = .status)
    (h : t.finding = .ok state) : t.Reports state := by
  refine ⟨hcommand, ?_⟩
  cases houtcome : t.outcome with
  | error reason =>
    rw [finding_of_unstarted houtcome] at h
    cases h
  | ok execution =>
    by_cases well : execution.ending = .exited 0
    · rw [finding_of_well_ended houtcome well, if_pos hcommand] at h
      exact ⟨execution, rfl, well, h⟩
    · rw [finding_of_badly_ended houtcome well] at h
      cases h

end Trial

/-- These trials, one after another, take the machine from one state to another. Each is made with
the tool where it is found then. -/
inductive Tried (settings : Settings) (tool : Tool τ) (e : Endpoint) :
    Machine τ → List Trial → Machine τ → Prop
  | nothing (m : Machine τ) : Tried settings tool e m [] m
  | next {m after : Machine τ} {s : Session} {trials : List Trial}
      (h : connect settings m.files e = .ok s) (c : Command)
      (rest : Tried settings tool e (m.run tool s.binary (s.invocation c)).2 trials after) :
      Tried settings tool e m
        (⟨s, c, (m.run tool s.binary (s.invocation c)).1⟩ :: trials) after

section Machines

variable {settings : Settings} {tool : Tool τ} {e : Endpoint} {m after : Machine τ}
  {trials more : List Trial}

theorem run_files (program : String) (invocation : Invocation) :
    (m.run tool program invocation).2.files = m.files := by
  simp only [Machine.run]
  split
  · rfl
  · split
    · rfl
    · split <;> rfl

/-- A run is on record just when it was started. -/
theorem run_invocations (program : String) (invocation : Invocation) :
    (m.run tool program invocation).2.invocations = m.invocations ++
      if (m.run tool program invocation).1.isOk then [invocation] else [] := by
  simp only [Machine.run]
  split
  · simp [Except.isOk, Except.toBool]
  · split
    · simp [Except.isOk, Except.toBool]
    · split <;> simp [Except.isOk, Except.toBool]

theorem Tried.append {last : Machine τ} (h : Tried settings tool e m trials after)
    (hmore : Tried settings tool e after more last) :
    Tried settings tool e m (trials ++ more) last := by
  induction h with
  | nothing m => exact hmore
  | next h c _ ih => exact .next h c (ih hmore)

theorem Tried.files (h : Tried settings tool e m trials after) : after.files = m.files := by
  induction h with
  | nothing m => rfl
  | next h c rest ih => rw [ih, run_files]

/-- What is on record are the trials that were started. -/
theorem Tried.invocations (h : Tried settings tool e m trials after) :
    after.invocations =
      m.invocations ++ (trials.filter (·.isStarted)).map (·.invocation) := by
  induction h with
  | nothing m => simp
  | @next m after s trials h c rest ih =>
    rw [ih, run_invocations, List.append_assoc, List.filter_cons, Trial.isStarted]
    cases (m.run tool s.binary (s.invocation c)).1.isOk <;> simp [Trial.invocation]

end Machines

/-- Why an operation is refused that does not find the power state it starts from. -/
def refusal (needed : Bool) : DriverError :=
  .operation (if needed then "server is already off" else "server is already on")

/-- The trials of an operation, and what it answers. It goes on to a second command only when the
first one went well and told the power state that the second one needs. -/
inductive Conducts : ServerOp → List Trial → Except DriverError Bool → Prop
  | single {op : ServerOp} {t : Trial} (h : op.commands = [t.command]) : Conducts op [t] t.finding
  | broken {op : ServerOp} {t : Trial} {c : Command} {cause : DriverError}
      (h : op.commands = [t.command, c]) (failed : t.finding = .error cause) :
      Conducts op [t] (.error cause)
  | refused {op : ServerOp} {t : Trial} {c : Command} {needed : Bool}
      (h : op.commands = [t.command, c]) (needs : c.needs? = some needed)
      (told : t.finding = .ok !needed) : Conducts op [t] (.error (refusal needed))
  | pair {op : ServerOp} {t u : Trial} {state : Bool} (h : op.commands = [t.command, u.command])
      (told : t.finding = .ok state) (needs : ∀ needed, u.command.needs? = some needed →
        state = needed) : Conducts op [t, u] u.finding

namespace Conducts

variable {op : ServerOp} {trials : List Trial} {answer : Except DriverError Bool}

theorem commands_prefix (h : Conducts op trials answer) :
    trials.map (·.command) <+: op.commands := by
  cases h with
  | single h => simp [h]
  | broken h _ => simp [h]
  | refused h _ _ => simp [h]
  | pair h _ _ => simp [h]

theorem commands_eq {state : Bool} (h : Conducts op trials (.ok state)) :
    trials.map (·.command) = op.commands := by
  generalize hanswer : (Except.ok state : Except DriverError Bool) = answer at h
  cases h with
  | single h => simp [h]
  | pair h _ _ => simp [h]
  | broken _ _ => cases hanswer
  | refused _ _ _ => cases hanswer

theorem earlier_well (h : Conducts op trials answer) :
    ∀ trial ∈ trials.dropLast, ¬ trial.Failed := by
  cases h with
  | @pair t u state h told needs =>
    intro trial hmem
    obtain rfl : trial = t := by simpa using hmem
    exact Trial.not_failed told
  | _ => simp

theorem all_well {state : Bool} (h : Conducts op trials (.ok state)) :
    ∀ trial ∈ trials, ¬ trial.Failed := by
  generalize hanswer : (Except.ok state : Except DriverError Bool) = answer at h
  cases h with
  | @single t h =>
    intro trial hmem
    obtain rfl : trial = t := by simpa using hmem
    exact Trial.not_failed hanswer.symm
  | @pair t u other h told needs =>
    intro trial hmem
    have hcases : trial = t ∨ trial = u := by simpa using hmem
    rcases hcases with rfl | rfl
    · exact Trial.not_failed told
    · exact Trial.not_failed hanswer.symm
  | broken _ _ => cases hanswer
  | refused _ _ _ => cases hanswer

/-- No operation starts with a command that needs a power state. -/
theorem needs_first {c : Command} {rest : List Command} (h : op.commands = c :: rest) :
    c.needs? = none := by
  cases op <;> cases h <;> rfl

theorem status_first {c d : Command} {needed : Bool} (h : op.commands = [c, d])
    (needs : d.needs? = some needed) : c = .status := by
  cases op <;> cases h <;> first | rfl | cases needs

/-- Commands are left out only after a trial that failed, or that told a power state in which the
next command is not sent. -/
theorem stops_short (h : Conducts op trials answer)
    (hshort : trials.map (·.command) ≠ op.commands) :
    ∃ trial, trials = [trial] ∧ (trial.Failed ∨ ∃ on c, op.commands = [.status, c] ∧
      c.needs? = some !on ∧ trial.Reports on) := by
  cases h with
  | single h => exact absurd h.symm hshort
  | @broken t c cause h failed => exact ⟨t, rfl, Or.inl (Trial.failed_iff.mpr ⟨cause, failed⟩)⟩
  | @refused t c needed h needs told =>
    have hstatus := status_first h needs
    rw [hstatus] at h
    exact ⟨t, rfl, Or.inr ⟨!needed, c, h, by simpa using needs,
      Trial.reports_of_finding hstatus told⟩⟩
  | pair h _ _ => exact absurd h.symm hshort

/-- A command that needs a power state comes directly after one that told it. -/
theorem guarded {before after : List Trial} {trial : Trial} {needed : Bool}
    (h : Conducts op (before ++ trial :: after) answer)
    (needs : trial.command.needs? = some needed) :
    ∃ earlier status, before = earlier ++ [status] ∧ status.Reports needed := by
  have hlone : ∀ {t : Trial} {rest : List Command}, [t] = before ++ trial :: after →
      op.commands = t.command :: rest →
      ∃ earlier status, before = earlier ++ [status] ∧ status.Reports needed := by
    intro t rest hsplit hcommands
    have htrial : trial = t := by
      have hmem : trial ∈ [t] := hsplit ▸ List.mem_append_right before List.mem_cons_self
      simpa using hmem
    rw [htrial, needs_first hcommands] at needs
    cases needs
  generalize hsplit : before ++ trial :: after = trials at h
  cases h with
  | single h => exact hlone hsplit.symm h
  | broken h _ => exact hlone hsplit.symm h
  | refused h _ _ => exact hlone hsplit.symm h
  | @pair t u state h told hneeds =>
    cases before with
    | nil =>
      obtain ⟨rfl, -⟩ := List.cons.inj hsplit
      rw [needs_first h] at needs
      cases needs
    | cons first earlier =>
      obtain ⟨rfl, hrest⟩ := List.cons.inj hsplit
      cases earlier with
      | nil =>
        obtain ⟨rfl, -⟩ := List.cons.inj hrest
        obtain rfl := hneeds needed needs
        exact ⟨[], first, rfl, Trial.reports_of_finding (status_first h needs) told⟩
      | cons second earlier => simp at hrest

end Conducts

/-- A way to run commands: a run ends somehow, or cannot be started. -/
abbrev Runner (μ : Type) := Command → μ → Except String Execution × μ

/-- The tool in its place, with the arguments of the session. -/
def Session.runner (tool : Tool τ) (s : Session) : Runner (Machine τ) :=
  fun c m => m.run tool s.binary (s.invocation c)

namespace Runner

variable (runner : Runner μ)

def read (c : Command) : ExceptT DriverError (StateM μ) String := fun m =>
  let (outcome, m) := runner c m
  (Session.reading c outcome, m)

def command (c : Command) : ExceptT DriverError (StateM μ) Bool := do
  let output ← runner.read c
  ExceptT.mk (pure (expect c.phrase output))

def isOn : ExceptT DriverError (StateM μ) Bool := do
  let output ← runner.read .status
  ExceptT.mk (pure (powerState output))

def powerOn : ExceptT DriverError (StateM μ) Bool := do
  if ← runner.isOn then throw (.operation "server is already on") else runner.command .on

def powerOff : ExceptT DriverError (StateM μ) Bool := do
  if ← runner.isOn then runner.command .off else throw (.operation "server is already off")

def bootOnce (choice : Command) : ExceptT DriverError (StateM μ) Bool := do
  let _ ← runner.command choice
  runner.command .reset

/-- The operations of a session, with whatever runs its commands. -/
def operate : ServerOp → ExceptT DriverError (StateM μ) Bool
  | .isOn => runner.isOn
  | .powerOn => runner.powerOn
  | .powerOff => runner.powerOff
  | .powerCycle => runner.command .reset
  | .powerCycleBmc => runner.command .coldReset
  | .pxeOnce | .pxeOnceEfi => runner.bootOnce .bootUefi
  | .pxeOnceMbr => runner.bootOnce .bootLegacy

end Runner

theorem Session.operate_eq_runner (tool : Tool τ) (s : Session) (op : ServerOp) :
    s.operate tool op = (s.runner tool).operate op := by
  cases op <;> rfl

/-- These trials of a session, one after another, take the runner from one state to another. -/
inductive Sent (runner : Runner μ) (s : Session) : μ → List Trial → μ → Prop
  | nothing (m : μ) : Sent runner s m [] m
  | next {m after : μ} {trials : List Trial} (c : Command)
      (rest : Sent runner s (runner c m).2 trials after) :
      Sent runner s m (⟨s, c, (runner c m).1⟩ :: trials) after

/-- Trials are made with the tool where it was found first, since they leave the files alone. -/
theorem Sent.tried {settings : Settings} {tool : Tool τ} {e : Endpoint} {s : Session}
    {m after : Machine τ} {trials : List Trial} (h : Sent (s.runner tool) s m trials after)
    (hfound : connect settings m.files e = .ok s) : Tried settings tool e m trials after := by
  induction h with
  | nothing m => exact .nothing m
  | @next m after trials c rest ih =>
    have hfiles : (m.run tool s.binary (s.invocation c)).2.files = m.files := run_files _ _
    exact .next hfound c (ih (by rwa [Session.runner, hfiles]))

section Running

variable (runner : Runner μ) (s : Session)

/-- The trial of a command in a state of its runner. -/
def Runner.trial (c : Command) (m : μ) : Trial := ⟨s, c, (runner c m).1⟩

/-- What fails goes no further. -/
theorem run_bind {α β : Type} (x : ExceptT DriverError (StateM μ) α)
    (next : α → ExceptT DriverError (StateM μ) β) (m : μ) :
    (x >>= next).run m = match x.run m with
      | (.ok a, m) => (next a).run m
      | (.error cause, m) => (.error cause, m) := by
  have hstep : (x >>= next).run m = (ExceptT.bindCont next (x.run m).1) (x.run m).2 := rfl
  rw [hstep]
  rcases x.run m with ⟨result, after⟩
  cases result <;> rfl

/-- A command comes to what its trial told, judged by the phrases of the command. -/
theorem Runner.run_judged (c : Command) (m : μ) {judge : String → Except DriverError Bool}
    (h : ∀ output, judge output =
      if c = .status then powerState output else expect c.phrase output) :
    (runner.read c >>= fun output => ExceptT.mk (pure (judge output))).run m =
      ((runner.trial s c m).finding, (runner c m).2) := by
  have hread : (runner.read c).run m =
      (Session.reading c (runner.trial s c m).outcome, (runner c m).2) := rfl
  have hfinding : (runner.trial s c m).finding =
      match Session.reading c (runner.trial s c m).outcome with
      | .error cause => .error cause
      | .ok output => judge output := by
    simp only [h]
    rfl
  rw [run_bind, hread, hfinding]
  cases Session.reading c (runner.trial s c m).outcome <;> rfl

theorem Runner.run_isOn (m : μ) :
    runner.isOn.run m = ((runner.trial s .status m).finding, (runner .status m).2) :=
  runner.run_judged s .status m fun _ => rfl

theorem Runner.run_command {c : Command} (hc : c ≠ .status) (m : μ) :
    (runner.command c).run m = ((runner.trial s c m).finding, (runner c m).2) :=
  runner.run_judged s c m fun _ => (if_neg hc).symm

/-- What an operation ran are these trials, and its answer comes from them. -/
def Runner.Conducted (op : ServerOp) (m : μ) (ended : Except DriverError Bool × μ) : Prop :=
  ∃ trials, Sent runner s m trials ended.2 ∧ Conducts op trials ended.1

variable {op : ServerOp} {c d : Command} {m : μ}

theorem Runner.conducted_single (hop : op.commands = [c]) :
    runner.Conducted s op m ((runner.trial s c m).finding, (runner c m).2) :=
  ⟨[runner.trial s c m], .next c (.nothing _), .single hop⟩

/-- The second command of an operation is sent unless the first one failed, or told that the power
is not as the second one needs it. -/
theorem Runner.conducted_pair (hop : op.commands = [c, d]) (hd : d ≠ .status)
    {first : ExceptT DriverError (StateM μ) Bool}
    {second : Bool → ExceptT DriverError (StateM μ) Bool}
    (hfirst : first.run m = ((runner.trial s c m).finding, (runner c m).2))
    (hsecond : ∀ state m, (second state).run m =
      if d.needs? = some !state then (.error (refusal !state), m)
      else (runner.command d).run m) :
    runner.Conducted s op m ((first >>= second).run m) := by
  have hsent : Sent runner s m [runner.trial s c m] (runner c m).2 := .next c (.nothing _)
  rw [run_bind, hfirst]
  cases hfinding : (runner.trial s c m).finding with
  | error cause => exact ⟨_, hsent, .broken hop hfinding⟩
  | ok state =>
    dsimp only
    rw [hsecond]
    by_cases hneeds : d.needs? = some !state
    · rw [if_pos hneeds]
      exact ⟨_, hsent, .refused hop hneeds (by simpa using hfinding)⟩
    · rw [if_neg hneeds, runner.run_command s hd]
      refine ⟨[runner.trial s c m, runner.trial s d (runner c m).2],
        .next c (.next d (.nothing _)), .pair hop hfinding fun needed hneeded => ?_⟩
      by_contra hne
      have hother : needed = !state := by cases needed <;> cases state <;> simp_all
      exact hneeds (hother ▸ hneeded)

theorem Runner.operate_conducted (op : ServerOp) (m : μ) :
    runner.Conducted s op m ((runner.operate op).run m) := by
  have hboot : ∀ {op : ServerOp} {choice : Command}, choice ≠ .status →
      op.commands = [choice, .reset] →
      runner.Conducted s op m ((runner.bootOnce choice).run m) :=
    fun hchoice hop =>
      runner.conducted_pair s hop (by decide) (runner.run_command s hchoice m) fun _ _ => rfl
  cases op with
  | isOn =>
    rw [operate, runner.run_isOn s]
    exact runner.conducted_single s rfl
  | powerOn =>
    refine runner.conducted_pair s rfl (by decide) (runner.run_isOn s m) fun state m => ?_
    cases state <;> rfl
  | powerOff =>
    refine runner.conducted_pair s rfl (by decide) (runner.run_isOn s m) fun state m => ?_
    cases state <;> rfl
  | powerCycle =>
    rw [operate, runner.run_command s (by decide)]
    exact runner.conducted_single s rfl
  | powerCycleBmc =>
    rw [operate, runner.run_command s (by decide)]
    exact runner.conducted_single s rfl
  | pxeOnce => exact hboot (by decide) rfl
  | pxeOnceMbr => exact hboot (by decide) rfl
  | pxeOnceEfi => exact hboot (by decide) rfl

end Running

/-- What an operation did to the machine are its trials, and its answer comes from them. -/
def Accounted (settings : Settings) (tool : Tool τ) (e : Endpoint) (op : ServerOp) (m : Machine τ)
    (ended : Except DriverError Bool × Machine τ) : Prop :=
  ∃ trials, Tried settings tool e m trials ended.2 ∧ Conducts op trials ended.1

theorem operate_accounted {settings : Settings} {tool : Tool τ} {e : Endpoint} {s : Session}
    {m : Machine τ} (h : connect settings m.files e = .ok s) (op : ServerOp) :
    Accounted settings tool e op m ((s.operate tool op).run m) := by
  rw [s.operate_eq_runner tool op]
  obtain ⟨trials, hsent, hconducts⟩ := (s.runner tool).operate_conducted s op m
  exact ⟨trials, hsent.tried h, hconducts⟩

end Ipmi

end Outband
