import Outband.Proofs.Sharing
import Outband.Proofs.Trace
import Outband.Rehearsal
import Outband.Server
/-! One attempt at a time. All who wait for an attempt come away with its outcome, and all who find
a session come away with that. -/

namespace Outband

namespace Link

variable {l m : Link H} {v : Option (Visit H)}

/-- Only an idle link takes up an attempt. -/
theorem Move.starts (h : Move l v m) (hlen : m.attempts.length ≠ l.attempts.length) :
    l.phase = .idle ∧ m.attempts.length = l.attempts.length + 1 := by
  cases h with
  | opened connect hidle => exact ⟨hidle, by simp [start]⟩
  | advanced attempt hrun => simp [record] at hlen
  | settled hended => exact absurd (by rw [settle_attempts]) hlen
  | _ => exact absurd rfl hlen

/-- A session stays until it is taken. -/
theorem Move.of_connected {session : H} (h : Move l v m) (hphase : l.phase = .connected session)
    (hv : ∀ found attempts, v ≠ some (.detached found attempts)) :
    m.phase = .connected session ∧ m.attempts.length = l.attempts.length ∧
      ∀ visit, v = some visit → visit = .reused session := by
  cases h with
  | nothing => exact ⟨hphase, rfl, by simp⟩
  | opened connect hidle =>
    rw [hphase] at hidle
    cases hidle
  | joined hjoin =>
    rw [hphase] at hjoin
    cases hjoin
  | reused hreused =>
    rw [hphase] at hreused
    cases hreused
    exact ⟨hphase, rfl, by simp⟩
  | detached => exact absurd rfl (hv _ _)
  | advanced attempt hrun => exact ⟨hphase, by simp [record], by simp⟩
  | @settled number outcome hended =>
    have hlate : l.phase ≠ .connecting number := by
      rw [hphase]
      simp
    rw [settle_of_late hlate]
    exact ⟨hphase, rfl, by simp⟩

/-- An attempt that is not limited in time comes to an end. -/
theorem advance_none (world : World σ) {number : Nat} {c : Connection σ H}
    (hn : number < c.link.attempts.length) : (c.advance world none number).1 ≠ .pending := by
  have hget := List.getElem?_eq_getElem hn
  simp only [Connection.advance, advance, hget]
  cases c.link.attempts[number] with
  | running job =>
    have hover := job.carry_none world c.scene
    dsimp only
    generalize job.carry world none c.scene = carried at hover ⊢
    obtain ⟨job, scene⟩ := carried
    rcases hover with ⟨value, rfl⟩ | ⟨cause, rfl⟩ <;> simp
  | ended outcome => simp
  | crashed => simp

end Link

namespace Crowd

variable {world : World σ} {scene : Scene σ} {c d : Crowd σ H (Gain H)} {i : Nat}

/-- A caller has come to its end: with an outcome, or because its attempt crashed. -/
def Returned (c : Crowd σ H (Gain H)) (i : Nat) : Prop :=
  (∃ outcome, c.members[i]? = some (.ready (.got outcome))) ∨
    ∃ (number : Nat) (cause : Crash), c.link.attempts[number]? = some .crashed ∧
      c.members[i]? = some (.ready (.crashed cause))

theorem returned_step (h : Sound c) (hs : Step world Calls Getting c d)
    (hi : d.members[i]? = c.members[i]?) (hr : Returned c i) : Returned d i := by
  rcases hr with ⟨outcome, hgot⟩ | ⟨number, cause, hcrashed, hstuck⟩
  · exact Or.inl ⟨outcome, hi.trans hgot⟩
  · obtain ⟨-, owner, v, hmove, -⟩ := sound_step h hs
    exact Or.inr ⟨number, cause, hmove.grows.kept hcrashed rfl, hi.trans hstuck⟩

theorem returned_act (h : Sound c) (limit : Limit) (hr : Returned c i) :
    Returned (c.act world limit i) i := by
  refine returned_step h (.act i limit) ?_ hr
  rcases hr with ⟨outcome, hi⟩ | ⟨number, cause, -, hi⟩
  · rw [members_act world limit hi, hi]
    rfl
  · rw [members_act world limit hi, hi]
    rfl

/-- The steps that a caller may need to its end. -/
def toGo : Stance H (Gain H) → Nat
  | .ready (.enter ..) => 3
  | .ready (.join ..) => 2
  | .settling .. => 1
  | _ => 0

theorem nearer_of_joining (h : Sound c) {number : Nat}
    (hi : c.members[i]? = some (.ready (.join number .got))) :
    Returned (c.act world none i) i ∨
      ∃ outcome, (c.act world none i).members[i]? = some (.settling number outcome .got) := by
  have hn : number < c.link.attempts.length := by
    have hstands := h.standing hi
    generalize c.visitsOf i = visits at hstands
    cases hstands with
    | awaiting _ h =>
      cases h with
      | joining hn => exact hn
    | taken _ h => cases h
  have hpending := Link.advance_none world hn
  have hshows := (Link.advance_shows world none hn).2
  have hact := members_act world none hi
  have hlink : (c.act world none i).link =
      (Stance.act world i none (.ready (.join number .got)) c.shared).2.link := by
    rw [link, act_of_member none hi]
  simp only [Stance.act] at hact hlink
  generalize c.shared.advance world none number = found at hpending hshows hact hlink
  obtain ⟨finding, shared⟩ := found
  cases finding with
  | pending => exact absurd rfl hpending
  | ended outcome => exact Or.inr ⟨outcome, hact⟩
  | crashed cause =>
    refine Or.inl (Or.inr ⟨number, cause, ?_, hact⟩)
    rw [hlink]
    exact hshows

/-- A step that nothing limits in time brings a caller nearer to its end. -/
theorem nearer_of_getting (h : Sound c) {stance : Stance H (Gain H)}
    (hi : c.members[i]? = some stance) (hg : Getting stance) :
    Returned (c.act world none i) i ∨ ∃ next, (c.act world none i).members[i]? = some next ∧
      Getting next ∧ toGo next < toGo stance := by
  have hact := members_act world none hi
  cases hg with
  | entering connect =>
    simp only [Task.get, Stance.act] at hact
    generalize c.shared.link.phase = phase at hact
    cases phase with
    | idle => exact Or.inr ⟨_, hact, .joining _, Nat.lt_succ_self 2⟩
    | connecting number => exact Or.inr ⟨_, hact, .joining number, Nat.lt_succ_self 2⟩
    | connected session => exact Or.inl (Or.inl ⟨_, hact⟩)
  | joining number =>
    rcases nearer_of_joining h hi with hr | ⟨outcome, hnext⟩
    · exact Or.inl hr
    · exact Or.inr ⟨_, hnext, .settling number outcome, Nat.lt_succ_self 1⟩
  | settling number outcome => exact Or.inl (Or.inl ⟨outcome, hact⟩)

/-- A run with that many steps of one caller that nothing limits in time. In between others may do
what they like. -/
inductive Served (world : World σ) (i : Nat) :
    Nat → Crowd σ H (Gain H) → Crowd σ H (Gain H) → Prop
  | refl (c : Crowd σ H (Gain H)) : Served world i 0 c c
  | own {turns : Nat} {c d : Crowd σ H (Gain H)} (h : Served world i turns c d) :
      Served world i (turns + 1) c (d.act world none i)
  | other {turns : Nat} {c d e : Crowd σ H (Gain H)} (h : Served world i turns c d)
      (hs : Step world Calls Getting d e) (hi : e.members[i]? = d.members[i]?) :
      Served world i turns c e

theorem nearer_of_served (h : Sound c) {stance : Stance H (Gain H)}
    (hi : c.members[i]? = some stance) (hg : Getting stance) {turns : Nat}
    (hs : Served world i turns c d) :
    Sound d ∧ (Returned d i ∨ ∃ next, d.members[i]? = some next ∧ Getting next ∧
      toGo next + turns ≤ toGo stance) := by
  -- Own steps use up what is left to go, steps of others leave it as it is.
  induction hs with
  | refl => exact ⟨h, Or.inr ⟨stance, hi, hg, Nat.le_refl _⟩⟩
  | own _ ih =>
    obtain ⟨hd, ih⟩ := ih h hi
    refine ⟨(sound_step hd (.act i none)).1, ?_⟩
    rcases ih with hr | ⟨next, hnext, hgetting, hgo⟩
    · exact Or.inl (returned_act hd none hr)
    · rcases nearer_of_getting hd hnext hgetting with hr | ⟨last, hlast, hgetting, hless⟩
      · exact Or.inl hr
      · exact Or.inr ⟨last, hlast, hgetting, by omega⟩
  | other _ hstep hsame ih =>
    obtain ⟨hd, ih⟩ := ih h hi
    refine ⟨(sound_step hd hstep).1, ?_⟩
    rcases ih with hr | ⟨next, hnext, hgetting, hgo⟩
    · exact Or.inl (returned_step hd hstep hsame hr)
    · exact Or.inr ⟨next, hsame.trans hnext, hgetting, hgo⟩

/-- A caller who gets the session returns with its third step that nothing limits in time. -/
theorem returned_of_served (h : Sound c) {stance : Stance H (Gain H)}
    (hi : c.members[i]? = some stance) (hg : Getting stance) (hs : Served world i 3 c d) :
    Returned d i := by
  rcases (nearer_of_served h hi hg hs).2 with hr | ⟨next, -, hgetting, hgo⟩
  · exact hr
  · have hnext : 0 < toGo next := by
      cases hgetting <;> simp [toGo, Task.get]
    have hstance : toGo stance ≤ 3 := by
      cases hg <;> simp [toGo, Task.get]
    omega

/-- While nobody takes it, a session stays and is what every caller finds. -/
theorem connected_run (h : Sound c) {session : H} (hphase : c.link.phase = .connected session)
    (hrun : Run world Calls Getting c d) :
    Sound d ∧ ∃ more, d.visits = c.visits ++ more ∧ (more.filterMap Visit.taking? = [] →
      d.link.phase = .connected session ∧ d.link.attempts.length = c.link.attempts.length ∧
        ∀ entry ∈ more, entry.2 = .reused session) := by
  induction hrun with
  | refl => exact ⟨h, [], by simp, fun _ => ⟨hphase, rfl, by simp⟩⟩
  | @tail d e _ hs ih =>
    obtain ⟨hd, more, hmore, hstays⟩ := ih
    obtain ⟨he, owner, v, hmove, hvisits⟩ := sound_step hd hs
    refine ⟨he, more ++ (v.map (owner, ·)).toList, by rw [hvisits, hmore, List.append_assoc], ?_⟩
    intro hnone
    rw [List.filterMap_append, List.append_eq_nil_iff] at hnone
    obtain ⟨hphase, hlen, hreused⟩ := hstays hnone.1
    have hv : ∀ found attempts, v ≠ some (.detached found attempts) := by
      rintro found attempts rfl
      simp [Visit.taking?] at hnone
    obtain ⟨hphase, hsame, hvisit⟩ := hmove.of_connected hphase hv
    refine ⟨hphase, hsame.trans hlen, fun entry hmem => ?_⟩
    rcases List.mem_append.mp hmem with hmem | hmem
    · exact hreused entry hmem
    · cases v with
      | none => simp at hmem
      | some visit =>
        obtain rfl : entry = (owner, visit) := by simpa using hmem
        exact hvisit visit rfl

/-- How callers share the attempts of a link. -/
structure SingleFlight (world : World σ) (c : Crowd σ H (Gain H)) : Prop where
  /-- An attempt is only made when the link is idle. -/
  starts : ∀ d, Step world Calls Getting c d → d.link.attempts.length ≠ c.link.attempts.length →
    c.link.phase = .idle ∧ d.link.attempts.length = c.link.attempts.length + 1
  /-- The attempts are those that callers made, in order. -/
  counted : c.openings = List.range c.link.attempts.length
  bounded : c.link.attempts.length ≤ 1 + c.link.attempts.countP Attempt.isFailed +
    c.takings.countP (·.found.isBusy)
  /-- Who returns comes from its one attempt, or from the session that it found. -/
  outcome : ∀ i outcome, c.members[i]? = some (.ready (.got outcome)) →
    (∃ number visit, c.visitsOf i = [visit] ∧ visit.Awaits number ∧
      c.link.attempts[number]? = some (.ended outcome)) ∨
    ∃ session, c.visitsOf i = [.reused session] ∧ outcome = .ok session
  /-- All who wait for one attempt agree. -/
  agreed : ∀ i j number visit other outcome result,
    c.members[i]? = some (.ready (.got outcome)) → c.members[j]? = some (.ready (.got result)) →
    visit ∈ c.visitsOf i → other ∈ c.visitsOf j → visit.Awaits number → other.Awaits number →
    outcome = result
  /-- Who is not dropped returns, no matter what others do. -/
  returns : ∀ i stance d, c.members[i]? = some stance → Getting stance → Served world i 3 c d →
    Returned d i
  /-- Who comes upon a session before the next taking gets that session and makes no attempt. -/
  stored : ∀ session d more, c.link.phase = .connected session → Run world Calls Getting c d →
    d.visits = c.visits ++ more → more.filterMap Visit.taking? = [] →
    d.link.phase = .connected session ∧ d.link.attempts.length = c.link.attempts.length ∧
    ∀ i visit outcome, (i, visit) ∈ more → visit = .reused session ∧
      (d.members[i]? = some (.ready (.got outcome)) → outcome = .ok session)
  /-- Who settles after a later attempt or taking leaves the link as it is. -/
  late : ∀ i number outcome limit, c.members[i]? = some (.settling number outcome .got) →
    (number + 1 < c.link.attempts.length ∨ ∃ t ∈ c.takings, number < t.attempts) →
    (c.act world limit i).link = c.link

theorem outcome_of_got (h : Sound c) {outcome : Except DriverError H}
    (hi : c.members[i]? = some (.ready (.got outcome))) :
    (∃ number visit, c.visitsOf i = [visit] ∧ visit.Awaits number ∧
      c.link.attempts[number]? = some (.ended outcome)) ∨
    ∃ session, c.visitsOf i = [.reused session] ∧ outcome = .ok session := by
  have hstands := h.standing hi
  generalize c.visitsOf i = visits at hstands ⊢
  cases hstands with
  | awaiting hv h =>
    cases h with
    | got hn => exact Or.inl ⟨_, _, rfl, hv, hn⟩
  | reused session => exact Or.inr ⟨session, rfl, rfl⟩
  | taken _ h => cases h

theorem awaited_of_got (h : Sound c) {outcome : Except DriverError H}
    (hi : c.members[i]? = some (.ready (.got outcome))) {number : Nat} {visit : Visit H}
    (hmem : visit ∈ c.visitsOf i) (hv : visit.Awaits number) :
    c.link.attempts[number]? = some (.ended outcome) := by
  rcases outcome_of_got h hi with ⟨other, awaited, hvisits, hother, hended⟩ | ⟨session, hvisits, -⟩
  · rw [hvisits, List.mem_singleton] at hmem
    subst hmem
    obtain rfl : number = other := by
      rcases hv with rfl | rfl <;> rcases hother with hother | hother <;> cases hother <;> rfl
    exact hended
  · rw [hvisits, List.mem_singleton] at hmem
    subst hmem
    rcases hv with hv | hv <;> cases hv

theorem link_of_late (h : Sound c) {number : Nat} {outcome : Except DriverError H} (limit : Limit)
    (hi : c.members[i]? = some (.settling number outcome .got))
    (hlate : number + 1 < c.link.attempts.length ∨ ∃ t ∈ c.takings, number < t.attempts) :
    (c.act world limit i).link = c.link := by
  have hphase : c.link.phase ≠ .connecting number := by
    intro hphase
    have hlast : number + 1 = c.link.attempts.length := by
      have hfound := h.tells.phase
      rwa [hphase] at hfound
    rcases hlate with hlate | ⟨t, ht, hlate⟩
    · omega
    · have hearlier := (h.tells.earlier t ht).2 (by rw [hphase]; rfl)
      omega
  rw [link, act_of_member limit hi]
  exact Link.settle_of_late hphase outcome

theorem singleFlight_reachable (h : Reachable world scene c) : SingleFlight world c where
  starts d hs hlen := by
    obtain ⟨-, owner, v, hmove, -⟩ := sound_step (sound_reachable h) hs
    exact hmove.starts hlen
  counted := (sound_reachable h).tells.openings
  bounded := (sound_reachable h).tells.length_le
  outcome i outcome hi := outcome_of_got (sound_reachable h) hi
  agreed i j number visit other outcome result hi hj hmem hother hv hw := by
    have hended := awaited_of_got (sound_reachable h) hi hmem hv
    rw [awaited_of_got (sound_reachable h) hj hother hw] at hended
    cases hended
    rfl
  returns i stance d hi hg hs := returned_of_served (sound_reachable h) hi hg hs
  stored session d more hphase hrun hmore hnone := by
    obtain ⟨hd, since, hsince, hstays⟩ := connected_run (sound_reachable h) hphase hrun
    obtain rfl : more = since := List.append_cancel_left (hmore.symm.trans hsince)
    obtain ⟨hphase, hlen, hreused⟩ := hstays hnone
    refine ⟨hphase, hlen, fun i visit outcome hmem => ?_⟩
    obtain rfl : visit = .reused session := hreused _ hmem
    refine ⟨rfl, fun hi => ?_⟩
    have hvisit : .reused session ∈ d.visitsOf i := by
      refine List.mem_filterMap.mpr ⟨(i, .reused session), ?_, by simp⟩
      rw [hmore]
      exact List.mem_append_right _ hmem
    rcases outcome_of_got hd hi with ⟨number, visit, hvisits, hv, -⟩ | ⟨found, hvisits, heq⟩
    · rw [hvisits, List.mem_singleton] at hvisit
      subst hvisit
      rcases hv with hv | hv <;> cases hv
    · rw [hvisits, List.mem_singleton] at hvisit
      cases hvisit
      exact heq
  late i number outcome limit hi hlate := link_of_late (sound_reachable h) limit hi hlate

/-- Two callers, of whom the second finds the session that the first has opened. -/
theorem singleFlight_of_two :
    let call := Task.get (Server.connect ⟨"10.0.0.1", ⟨"admin", "secret"⟩⟩)
    let first := ((Crowd.come { shared := { scene := { world := {} } } } call).act
      Script.world none 0).act Script.world none 0
    let c := ((first.act Script.world none 0).come call).act Script.world none 1
    Reachable Script.world { world := {} } c ∧ SingleFlight Script.world c ∧
      c.openings = [0] ∧ ∃ session, c.members[1]? = some (.ready (.got (.ok session))) := by
  intro call first c
  have hget := Calls.get (Server.connect ⟨"10.0.0.1", ⟨"admin", "secret"⟩⟩)
  have hfirst : Reachable Script.world { world := {} } first :=
    (Reachable.come .refl hget).act none 0 |>.act none 0
  have hc : Reachable Script.world { world := {} } c :=
    ((hfirst.act none 0).come hget).act none 1
  exact ⟨hc, singleFlight_reachable hc, rfl, _, rfl⟩

end Crowd

end Outband
