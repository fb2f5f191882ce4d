import Outband.Proofs.Occurrences
import Outband.Proofs.Trials
/-! What the answer of an operation with the IPMI tool means: which commands were sent, how they
ended and what they printed. -/

namespace Outband

namespace ServerOp

variable {op : ServerOp} {c d : Ipmi.Command}

theorem commands_status_iff : op.commands = [.status] ↔ op = .isOn := by
  cases op <;> simp [commands]

/-- The status is asked for first, if at all, and no command is sent twice. -/
theorem of_commands_pair (h : op.commands = [c, d]) : d ≠ .status ∧ d ≠ c ∧ op ≠ .isOn := by
  cases op <;> cases h <;> decide

theorem choice_ne_status (h : op.commands = [c, .reset]) : c ≠ .status := by
  cases op <;> cases h <;> decide

end ServerOp

namespace Ipmi

namespace Trial

/-- The run of the command ended well and printed the phrase. -/
def Prints (t : Trial) (phrase : String) : Prop :=
  ∃ execution, t.outcome = .ok execution ∧ execution.ending = .exited 0 ∧
    phrase.toList <:+: execution.output.toList

variable {t : Trial} {execution : Execution} {cause : DriverError}

theorem prints_iff (h : t.outcome = .ok execution) (well : execution.ending = .exited 0)
    (phrase : String) : t.Prints phrase ↔ mentions execution.output phrase := by
  rw [mentions_iff_isInfix]
  constructor
  · rintro ⟨other, hother, -, hphrase⟩
    rw [h] at hother
    cases hother
    exact hphrase
  · exact fun hphrase => ⟨execution, h, well, hphrase⟩

/-- A trial that told nothing printed nothing that counts. -/
theorem not_prints (h : ∀ execution, t.outcome = .ok execution → execution.ending ≠ .exited 0)
    (phrase : String) : ¬ t.Prints phrase := by
  rintro ⟨execution, hok, well, -⟩
  exact h execution hok well

/-- What a trial told, by how its run ended and what that printed. -/
theorem finding_cases (t : Trial) :
    (∃ execution, t.outcome = .ok execution ∧ execution.ending = .exited 0) ∨
      (∃ cause, t.finding = .error cause) ∧ ∀ phrase, ¬ t.Prints phrase := by
  cases h : t.outcome with
  | error reason =>
    exact Or.inr ⟨⟨_, finding_of_unstarted h⟩, not_prints (by simp [h])⟩
  | ok execution =>
    by_cases well : execution.ending = .exited 0
    · exact Or.inl ⟨execution, rfl, well⟩
    · refine Or.inr ⟨⟨_, finding_of_badly_ended h well⟩, not_prints fun other hother => ?_⟩
      rw [h] at hother
      cases hother
      exact well

theorem finding_true_iff : t.finding = .ok true ↔ t.Prints t.command.phrase := by
  rcases t.finding_cases with ⟨execution, h, well⟩ | ⟨⟨cause, hcause⟩, hno⟩
  · rw [prints_iff h well, finding_of_well_ended h well, powerState, expect]
    by_cases hstatus : t.command = .status
    · rw [if_pos hstatus, hstatus]
      split <;> [simp [*]; (split <;> simp [*])]
    · rw [if_neg hstatus]
      split <;> simp [*]
  · exact iff_of_false (by simp [hcause]) (hno _)

theorem finding_false_iff : t.finding = .ok false ↔
    t.command = .status ∧ t.Prints offPhrase ∧ ¬ t.Prints t.command.phrase := by
  rcases t.finding_cases with ⟨execution, h, well⟩ | ⟨⟨cause, hcause⟩, hno⟩
  · rw [prints_iff h well, prints_iff h well, finding_of_well_ended h well, powerState, expect]
    by_cases hstatus : t.command = .status
    · rw [if_pos hstatus, hstatus]
      split <;> [simp [*]; (split <;> simp [*])]
    · rw [if_neg hstatus]
      split <;> simp [*]
  · exact iff_of_false (by simp [hcause]) fun hprints => hno _ hprints.2.1

/-- A run that ended well fails for want of a phrase only. -/
theorem cause_of_well_ended (h : t.outcome = .ok execution) (well : execution.ending = .exited 0)
    (hcause : t.finding = .error cause) : cause = unexpected execution.output := by
  rcases finding_of_wordless h well with ⟨-, hfinding⟩ | ⟨-, state, hfinding⟩
  · rw [hfinding] at hcause
    exact (Except.error.inj hcause).symm
  · rw [hfinding] at hcause
    cases hcause

end Trial

/-- What an operation ran, and what that makes of its answer. `power` is what the question for the
power state comes to when it is asked instead. -/
structure Means (op : ServerOp) (power : Except DriverError Bool) (trials : List Trial)
    (answer : Except DriverError Bool) : Prop where
  sent : trials ≠ [] ∧ trials.map (·.command) <+: op.commands
  guarded : ∀ c ∈ op.commands, ∀ needed, c.needs? = some needed →
    (c ∈ trials.map (·.command) ↔ power = .ok needed)
  booted : ∀ choice, op.commands = [choice, .reset] →
    (.reset ∈ trials.map (·.command) ↔
      ∃ first, trials.head? = some first ∧ first.Prints choice.phrase)
  true_iff : answer = .ok true ↔ trials.map (·.command) = op.commands ∧
    ∃ last, trials.getLast? = some last ∧ last.Prints last.command.phrase
  false_iff : answer = .ok false ↔ op = .isOn ∧
    ∃ t, trials = [t] ∧ t.Prints offPhrase ∧ ¬ t.Prints t.command.phrase
  unstarted : ∀ t ∈ trials, ∀ reason, t.outcome = .error reason →
    answer = .error (.commandFailed t.command.text reason "")
  badly_ended : ∀ t ∈ trials, ∀ execution, t.outcome = .ok execution →
    execution.ending ≠ .exited 0 → answer =
      .error (.commandFailed t.command.text execution.ending.describe execution.output)
  well_ended : (∀ t ∈ trials, ∃ execution, t.outcome = .ok execution ∧
    execution.ending = .exited 0) → ∀ cause, answer = .error cause →
      ∃ message, cause = .operation message

namespace Conducts

variable {op : ServerOp} {trials : List Trial} {answer : Except DriverError Bool} {t : Trial}
  {cause : DriverError}

theorem ne_nil (h : Conducts op trials answer) : trials ≠ [] := by
  cases h <;> simp

/-- What a trial fails with is the answer. -/
theorem answer_of_failed (h : Conducts op trials answer) (hmem : t ∈ trials)
    (hcause : t.finding = .error cause) : answer = .error cause := by
  cases h with
  | single _ =>
    rw [← List.mem_singleton.mp hmem, hcause]
  | broken _ failed =>
    rw [← List.mem_singleton.mp hmem, hcause] at failed
    rw [Except.error.inj failed]
  | refused _ _ told =>
    rw [← List.mem_singleton.mp hmem, hcause] at told
    cases told
  | @pair first second state _ told _ =>
    have hcases : t = first ∨ t = second := by simpa using hmem
    rcases hcases with rfl | rfl
    · rw [hcause] at told
      cases told
    · exact hcause

/-- An error that no trial failed with is the refusal. -/
theorem cause_cases (h : Conducts op trials (.error cause)) :
    (∃ t ∈ trials, t.finding = .error cause) ∨ ∃ needed, cause = refusal needed := by
  generalize hanswer : (Except.error cause : Except DriverError Bool) = answer at h
  cases h with
  | @single t _ => exact Or.inl ⟨t, by simp, rfl⟩
  | @broken t _ _ _ failed => exact Or.inl ⟨t, by simp, failed⟩
  | @refused _ _ needed _ _ _ => exact Or.inr ⟨needed, Except.error.inj hanswer⟩
  | @pair _ u _ _ _ _ => exact Or.inl ⟨u, by simp, rfl⟩

/-- A command that needs a power state is sent just when the status told that state. -/
theorem sends_guarded (h : Conducts op trials answer) {power : Except DriverError Bool}
    (hpower : ∀ first, trials.head? = some first → first.command = .status →
      power = first.finding) {c : Command} (hc : c ∈ op.commands) {needed : Bool}
    (hneeds : c.needs? = some needed) :
    c ∈ trials.map (·.command) ↔ power = .ok needed := by
  have hfirst : ∀ {first : Command} {rest : List Command}, op.commands = first :: rest →
      c ≠ first := by
    rintro first rest hcommands rfl
    rw [needs_first hcommands] at hneeds
    cases hneeds
  -- No operation starts with such a command, so it is the second of two.
  have hsecond : ∀ {first second : Command}, op.commands = [first, second] → c = second := by
    intro first second hcommands
    rw [hcommands] at hc
    simpa [hfirst hcommands] using hc
  cases h with
  | single h =>
    rw [h] at hc
    exact absurd (List.mem_singleton.mp hc) (hfirst h)
  | broken h failed =>
    obtain rfl := hsecond h
    rw [hpower _ rfl (status_first h hneeds), failed]
    simp [hfirst h]
  | @refused t d other h needs told =>
    obtain rfl := hsecond h
    obtain rfl : needed = other := by simpa [hneeds] using needs
    rw [hpower _ rfl (status_first h hneeds), told]
    simp [hfirst h]
  | @pair t u state h told needs =>
    obtain rfl := hsecond h
    rw [hpower _ rfl (status_first h hneeds), told, needs needed hneeds]
    simp

/-- The reset that makes a server boot is sent just when the choice of the device was confirmed. -/
theorem sends_reset (h : Conducts op trials answer) {choice : Command}
    (hop : op.commands = [choice, .reset]) : .reset ∈ trials.map (·.command) ↔
      ∃ first, trials.head? = some first ∧ first.Prints choice.phrase := by
  obtain ⟨-, hne, -⟩ := ServerOp.of_commands_pair hop
  cases h with
  | single h => cases h.symm.trans hop
  | broken h failed =>
    cases h.symm.trans hop
    simp [hne, ← Trial.finding_true_iff, failed]
  | refused h needs _ =>
    cases h.symm.trans hop
    cases needs
  | @pair t u state h told _ =>
    obtain ⟨rfl, hreset⟩ : t.command = choice ∧ u.command = .reset := by
      simpa using h.symm.trans hop
    have hstatus : t.command ≠ .status := ServerOp.choice_ne_status hop
    cases state with
    | false => exact absurd (Trial.finding_false_iff.mp told).1 hstatus
    | true => simp [hreset, ← Trial.finding_true_iff, told]

theorem true_iff (h : Conducts op trials answer) :
    answer = .ok true ↔ trials.map (·.command) = op.commands ∧
      ∃ last, trials.getLast? = some last ∧ last.Prints last.command.phrase := by
  cases h with
  | single h => simp [h, Trial.finding_true_iff]
  | broken h _ => simp [h]
  | refused h _ _ => simp [h]
  | pair h _ _ => simp [h, Trial.finding_true_iff]

/-- Only the question for the power state can be answered with no. -/
theorem false_iff (h : Conducts op trials answer) : answer = .ok false ↔ op = .isOn ∧
    ∃ t, trials = [t] ∧ t.Prints offPhrase ∧ ¬ t.Prints t.command.phrase := by
  cases h with
  | @single t h =>
    have hstatus : t.command = .status ↔ op = .isOn := by
      rw [← ServerOp.commands_status_iff, h]
      simp
    simp [Trial.finding_false_iff, hstatus]
  | broken h _ => simp [(ServerOp.of_commands_pair h).2.2]
  | refused h _ _ => simp [(ServerOp.of_commands_pair h).2.2]
  | pair h _ _ =>
    obtain ⟨hstatus, -, hop⟩ := ServerOp.of_commands_pair h
    simp [hop, Trial.finding_false_iff, hstatus]

/-- An error that comes from runs that all ended well says what is wrong in words. -/
theorem operation_of_well_ended (h : Conducts op trials (.error cause))
    (hwell : ∀ t ∈ trials, ∃ execution, t.outcome = .ok execution ∧
      execution.ending = .exited 0) : ∃ message, cause = .operation message := by
  rcases h.cause_cases with ⟨t, hmem, hcause⟩ | ⟨needed, rfl⟩
  · obtain ⟨execution, houtcome, well⟩ := hwell t hmem
    exact ⟨_, Trial.cause_of_well_ended houtcome well hcause⟩
  · exact ⟨_, rfl⟩

theorem means (h : Conducts op trials answer) {power : Except DriverError Bool}
    (hpower : ∀ first, trials.head? = some first → first.command = .status →
      power = first.finding) : Means op power trials answer where
  sent := ⟨h.ne_nil, h.commands_prefix⟩
  guarded _ hc _ hneeds := h.sends_guarded hpower hc hneeds
  booted _ hop := h.sends_reset hop
  true_iff := h.true_iff
  false_iff := h.false_iff
  unstarted _ hmem _ houtcome := h.answer_of_failed hmem (Trial.finding_of_unstarted houtcome)
  badly_ended _ hmem _ houtcome badly :=
    h.answer_of_failed hmem (Trial.finding_of_badly_ended houtcome badly)
  well_ended hwell _ hanswer := (hanswer ▸ h).operation_of_well_ended hwell

end Conducts

theorem Sent.head {runner : Runner μ} {s : Session} {m after : μ} {trials : List Trial}
    {first : Trial} (h : Sent runner s m trials after) (hfirst : trials.head? = some first) :
    first = runner.trial s first.command m := by
  cases h with
  | nothing m => cases hfirst
  | next c rest =>
    obtain rfl := Option.some.inj hfirst
    rfl

/-- However the commands of an operation end, or cannot be started, the operation runs the commands
that its answer stands for, and answers what they told. This holds of the tool as of whatever else
runs commands. -/
theorem operate_means {μ τ : Type} (runner : Runner μ) (tool : Tool τ) (s : Session)
    (op : ServerOp) (m : μ) :
    (∃ trials, Sent runner s m trials ((runner.operate op).run m).2 ∧
      Means op ((runner.operate .isOn).run m).1 trials ((runner.operate op).run m).1) ∧
    s.operate tool op = (s.runner tool).operate op := by
  refine ⟨?_, s.operate_eq_runner tool op⟩
  obtain ⟨trials, hsent, hconducts⟩ := runner.operate_conducted s op m
  refine ⟨trials, hsent, hconducts.means fun first hfirst hstatus => ?_⟩
  have hpower : ((runner.operate .isOn).run m).1 = (runner.trial s .status m).finding :=
    congrArg Prod.fst (runner.run_isOn s m)
  rw [hpower, hsent.head hfirst, hstatus]

end Ipmi

end Outband
