import Outband.Proofs.History
/-! Callers who get the session of a link or take it away, in any number and in any order of their
steps. Those who get it may be dropped where they stand, those who take it run to their end. -/

namespace Outband

/-- What a caller comes away with. -/
inductive Gain (H : Type) where
  | got (outcome : Except DriverError H)
  | took (session : Option H)

namespace Task

def got (outcome : Except DriverError H) : Task H (Gain H) := .done (.got outcome)

def took (session : Option H) : Task H (Gain H) := .done (.took session)

/-- Asks for the session, with the attempt to make when there is none. -/
def get (connect : Job (Except DriverError H)) : Task H (Gain H) := .enter connect got

def take : Task H (Gain H) := .detach took

end Task

inductive Calls : Task H (Gain H) → Prop
  | get (connect : Job (Except DriverError H)) : Calls (.get connect)
  | take : Calls .take

/-- A caller who gets the session and has not come to its end. -/
inductive Getting : Stance H (Gain H) → Prop
  | entering (connect : Job (Except DriverError H)) : Getting (.ready (.get connect))
  | joining (number : Nat) : Getting (.ready (.join number .got))
  | settling (number : Nat) (outcome : Except DriverError H) :
      Getting (.settling number outcome .got)

/-- The crowds that come about on a fresh connection. -/
def Crowd.Reachable (world : World σ) (scene : Scene σ) (c : Crowd σ H (Gain H)) : Prop :=
  Crowd.Run world Calls Getting { shared := { scene := scene } } c

/-- The caller has to do with this attempt. -/
def Visit.Awaits (number : Nat) (v : Visit H) : Prop := v = .opened number ∨ v = .joined number

namespace Link

/-- What a caller finds who waits for an attempt is how the attempt stands. -/
def Shows (l : Link H) (number : Nat) : Finding H → Prop
  | .pending => number < l.attempts.length
  | .ended outcome => l.attempts[number]? = some (.ended outcome)
  | .crashed _ => l.attempts[number]? = some .crashed

theorem advance_shows (world : World σ) (limit : Limit) {number : Nat} {c : Connection σ H}
    (hn : number < c.link.attempts.length) :
    Move c.link none (c.advance world limit number).2.link ∧
      (c.advance world limit number).2.link.Shows number (c.advance world limit number).1 := by
  obtain ⟨attempt, hget⟩ : ∃ attempt, c.link.attempts[number]? = some attempt :=
    ⟨_, List.getElem?_eq_getElem hn⟩
  have hset (next : Attempt H) : (c.link.record number next).attempts[number]? = some next :=
    List.getElem?_set_self hn
  simp only [Connection.advance, advance, hget]
  cases attempt with
  | running job =>
    have hmove (next : Attempt H) := Move.advanced next hget
    dsimp only
    generalize job.carry world limit c.scene = carried
    obtain ⟨job, scene⟩ := carried
    cases job with
    | done outcome => exact ⟨hmove _, hset _⟩
    | crashed cause => exact ⟨hmove _, hset _⟩
    | _ => exact ⟨hmove _, Nat.lt_of_lt_of_le hn (hmove _).grows.length⟩
  | ended outcome => exact ⟨.nothing _, hget⟩
  | crashed => exact ⟨.nothing _, hget⟩

end Link

/-- Where a caller may stand who has to do with an attempt. -/
inductive Awaiting (l : Link H) (number : Nat) : Stance H (Gain H) → Prop
  | joining (hn : number < l.attempts.length) : Awaiting l number (.ready (.join number .got))
  | settling {outcome} (hn : l.attempts[number]? = some (.ended outcome)) :
      Awaiting l number (.settling number outcome .got)
  | got {outcome} (hn : l.attempts[number]? = some (.ended outcome)) :
      Awaiting l number (.ready (.got outcome))
  | stuck {cause} (hn : l.attempts[number]? = some .crashed) :
      Awaiting l number (.ready (.crashed cause))

/-- Where a caller may stand who took what it found. -/
inductive Taken (l : Link H) : Phase H → Stance H (Gain H) → Prop
  | nothing : Taken l .idle (.ready (.took none))
  | session (session : H) : Taken l (.connected session) (.ready (.took (some session)))
  | waiting {number} (hn : number < l.attempts.length) :
      Taken l (.connecting number) (.ready (.reclaim number .took))
  | ended {number outcome session} (hn : l.attempts[number]? = some (.ended outcome))
      (hs : outcome.toOption = session) : Taken l (.connecting number) (.ready (.took session))
  | stuck {number cause} (hn : l.attempts[number]? = some .crashed) :
      Taken l (.connecting number) (.ready (.crashed cause))

/-- Where a caller may stand, by the visits that it paid. -/
inductive Standing (l : Link H) : List (Visit H) → Stance H (Gain H) → Prop
  | entering (connect : Job (Except DriverError H)) : Standing l [] (.ready (.get connect))
  | awaiting {number visit stance} (hv : visit.Awaits number) (h : Awaiting l number stance) :
      Standing l [visit] stance
  | reused (session : H) : Standing l [.reused session] (.ready (.got (.ok session)))
  | gone {visits} (hv : ∀ found attempts, .detached found attempts ∉ visits) :
      Standing l visits .gone
  | taking : Standing l [] (.ready .take)
  | taken {found stance} (attempts : Nat) (h : Taken l found stance) :
      Standing l [.detached found attempts] stance

section Standing

variable {l m : Link H} {visits : List (Visit H)} {stance : Stance H (Gain H)} {number : Nat}
  {found : Phase H}

theorem Visit.Awaits.not_detached {v : Visit H} (h : v.Awaits number) (attempts : Nat) :
    .detached found attempts ∉ [v] := by
  rcases h with rfl | rfl <;> simp

theorem Awaiting.grows (h : Awaiting l number stance) (hg : l.Grows m) :
    Awaiting m number stance := by
  cases h with
  | joining hn => exact .joining (Nat.lt_of_lt_of_le hn hg.length)
  | settling hn => exact .settling (hg.kept hn rfl)
  | got hn => exact .got (hg.kept hn rfl)
  | stuck hn => exact .stuck (hg.kept hn rfl)

theorem Taken.grows (h : Taken l found stance) (hg : l.Grows m) : Taken m found stance := by
  cases h with
  | nothing => exact .nothing
  | session session => exact .session session
  | waiting hn => exact .waiting (Nat.lt_of_lt_of_le hn hg.length)
  | ended hn hs => exact .ended (hg.kept hn rfl) hs
  | stuck hn => exact .stuck (hg.kept hn rfl)

theorem Standing.grows (h : Standing l visits stance) (hg : l.Grows m) :
    Standing m visits stance := by
  cases h with
  | entering connect => exact .entering connect
  | awaiting hv h => exact .awaiting hv (h.grows hg)
  | reused session => exact .reused session
  | gone hv => exact .gone hv
  | taking => exact .taking
  | taken attempts h => exact .taken attempts (h.grows hg)

/-- A caller who may be dropped has taken nothing. -/
theorem Standing.leave (h : Standing l visits stance) (hg : Getting stance) :
    Standing l visits (.gone : Stance H (Gain H)) := by
  refine .gone fun found attempts hmem => ?_
  cases h with
  | entering connect => cases hmem
  | awaiting hv _ => exact hv.not_detached attempts hmem
  | reused session => simp at hmem
  | gone hv => exact hv found attempts hmem
  | taking => cases hmem
  | taken _ h => cases h <;> cases hg

section Act

variable {c : Connection σ H} (world : World σ) (owner : Nat) (limit : Limit)

theorem Awaiting.act (h : Awaiting c.link number stance) :
    stance.visit? c.link = none ∧ c.link.Move none (stance.act world owner limit c).2.link ∧
      Awaiting (stance.act world owner limit c).2.link number
        (stance.act world owner limit c).1 := by
  cases h with
  | joining hn =>
    obtain ⟨hmove, hshows⟩ := Link.advance_shows world limit hn
    simp only [Stance.act]
    generalize c.advance world limit number = found at hmove hshows ⊢
    obtain ⟨finding, c⟩ := found
    cases finding with
    | pending => exact ⟨rfl, hmove, .joining hshows⟩
    | ended outcome => exact ⟨rfl, hmove, .settling hshows⟩
    | crashed cause => exact ⟨rfl, hmove, .stuck hshows⟩
  | settling hn =>
    have hmove := Link.Move.settled hn
    exact ⟨rfl, hmove, .got (hmove.grows.kept hn rfl)⟩
  | got hn => exact ⟨rfl, .nothing _, .got hn⟩
  | stuck hn => exact ⟨rfl, .nothing _, .stuck hn⟩

theorem Taken.act (h : Taken c.link found stance) :
    stance.visit? c.link = none ∧ c.link.Move none (stance.act world owner limit c).2.link ∧
      Taken (stance.act world owner limit c).2.link found (stance.act world owner limit c).1 := by
  cases h with
  | @waiting number hn =>
    obtain ⟨hmove, hshows⟩ := Link.advance_shows world limit hn
    simp only [Stance.act]
    generalize c.advance world limit number = found at hmove hshows ⊢
    obtain ⟨finding, c⟩ := found
    cases finding with
    | pending => exact ⟨rfl, hmove, .waiting hshows⟩
    | ended outcome => exact ⟨rfl, hmove, .ended hshows rfl⟩
    | crashed cause => exact ⟨rfl, hmove, .stuck hshows⟩
  | nothing => exact ⟨rfl, .nothing _, .nothing⟩
  | session session => exact ⟨rfl, .nothing _, .session session⟩
  | ended hn hs => exact ⟨rfl, .nothing _, .ended hn hs⟩
  | stuck hn => exact ⟨rfl, .nothing _, .stuck hn⟩

/-- One step of a caller moves the link, and leaves the caller in good standing. -/
theorem Standing.act {openings : List Nat} {takings : List (Taking H)}
    (ht : c.link.Tells openings takings) (h : Standing c.link visits stance) :
    c.link.Move (stance.visit? c.link) (stance.act world owner limit c).2.link ∧
      Standing (stance.act world owner limit c).2.link
        (visits ++ (stance.visit? c.link).toList) (stance.act world owner limit c).1 := by
  -- A link that connects does so with an attempt that it has.
  have hphase := ht.phase
  cases h with
  | entering connect =>
    simp only [Task.get, Stance.act, Stance.visit?]
    cases hp : c.link.phase with
    | idle =>
      refine ⟨.opened connect hp, .awaiting (Or.inl rfl) (.joining ?_)⟩
      simp [Link.start]
    | connecting number =>
      rw [hp] at hphase
      have hn : number < c.link.attempts.length := Nat.lt_of_succ_le (Nat.le_of_eq hphase)
      exact ⟨.joined hp, .awaiting (Or.inr rfl) (.joining hn)⟩
    | connected session => exact ⟨.reused hp, .reused session⟩
  | awaiting hv h =>
    obtain ⟨hnone, hmove, h⟩ := h.act world owner limit
    rw [hnone]
    exact ⟨hmove, .awaiting hv h⟩
  | reused session => exact ⟨.nothing _, .reused session⟩
  | gone hv => exact ⟨.nothing _, .gone (by simpa [Stance.visit?] using hv)⟩
  | taking =>
    have hmove := Link.Move.detached c.link
    simp only [Link.detach] at hmove
    simp only [Task.take, Stance.act, Stance.visit?, Link.detach]
    cases hp : c.link.phase with
    | idle =>
      rw [hp] at hmove
      exact ⟨hmove, .taken _ .nothing⟩
    | connecting number =>
      rw [hp] at hmove hphase
      have hn : number < c.link.attempts.length := Nat.lt_of_succ_le (Nat.le_of_eq hphase)
      exact ⟨hmove, .taken _ (.waiting hn)⟩
    | connected session =>
      rw [hp] at hmove
      exact ⟨hmove, .taken _ (.session session)⟩
  | taken attempts h =>
    obtain ⟨hnone, hmove, h⟩ := h.act world owner limit
    rw [hnone]
    exact ⟨hmove, .taken attempts h⟩

end Act

end Standing

namespace Crowd

variable {world : World σ} {scene : Scene σ} {c d : Crowd σ H (Gain H)} {i : Nat}
  {stance : Stance H (Gain H)}

theorem Reachable.come (h : Reachable world scene c) {task : Task H (Gain H)} (ht : Calls task) :
    Reachable world scene (c.come task) :=
  h.tail (.come task ht)

theorem Reachable.act (h : Reachable world scene c) (limit : Limit) (i : Nat) :
    Reachable world scene (c.act world limit i) :=
  h.tail (.act i limit)

/-- The link and every caller are as the visits say. -/
structure Sound (c : Crowd σ H (Gain H)) : Prop where
  tells : c.link.Tells c.openings c.takings
  standing : ∀ {i stance}, c.members[i]? = some stance → Standing c.link (c.visitsOf i) stance
  strangers : ∀ i, c.members.length ≤ i → c.visitsOf i = []

theorem sound_initial : Sound ({ shared := { scene := scene } } : Crowd σ H (Gain H)) where
  tells := Link.Tells.initial
  standing h := by simp at h
  strangers _ _ := rfl

theorem sound_come (h : Sound c) {task : Task H (Gain H)} (ht : Calls task) :
    Sound (c.come task) := by
  refine ⟨h.tells, fun {i stance} hi => ?_, fun i hi => ?_⟩
  · by_cases hlt : i < c.members.length
    · exact h.standing (by simpa [come, List.getElem?_append_left hlt] using hi)
    · obtain rfl : i = c.members.length := by
        obtain ⟨hlen, -⟩ := List.getElem?_eq_some_iff.mp hi
        simp only [come, List.length_append, List.length_singleton] at hlen
        omega
      obtain rfl : .ready task = stance := by simpa [come] using hi
      have hnone : (c.come task).visitsOf c.members.length = [] := h.strangers _ (Nat.le_refl _)
      rw [hnone]
      cases ht with
      | get connect => exact .entering connect
      | take => exact .taking
  · simp only [come, List.length_append, List.length_singleton] at hi
    exact h.strangers i (by omega)

/-- What a member does moves the link, and all stay as the visits say. -/
theorem sound_act (h : Sound c) (limit : Limit) (hi : c.members[i]? = some stance) :
    c.link.Move (stance.visit? c.link) (c.act world limit i).link ∧
      Sound (c.act world limit i) := by
  obtain ⟨hmove, hstands⟩ := (h.standing hi).act world i limit h.tells
  have hlink : (c.act world limit i).link = (stance.act world i limit c.shared).2.link := by
    rw [link, act_of_member limit hi]
  rw [← hlink] at hmove hstands
  refine ⟨hmove, ?_, fun {j other} hj => ?_, fun j hj => ?_⟩
  · have htells := h.tells.move i hmove
    rw [act_of_member limit hi] at htells ⊢
    exact htells
  · by_cases hji : j = i
    · subst hji
      rw [members_act world limit hi] at hj
      cases hj
      rw [visitsOf_act limit hi]
      exact hstands
    · rw [members_act_other limit hji] at hj
      rw [visitsOf_act_other limit hji]
      exact (h.standing hj).grows hmove.grows
  · have hlen : (c.act world limit i).members.length = c.members.length := by
      rw [act_of_member limit hi, List.length_set]
    obtain ⟨hlt, -⟩ := List.getElem?_eq_some_iff.mp hi
    rw [visitsOf_act_other limit (by omega)]
    exact h.strangers j (by omega)

theorem sound_leave (h : Sound c) (hi : c.members[i]? = some stance) (hg : Getting stance) :
    Sound (c.leave i) := by
  refine ⟨h.tells, fun {j other} hj => ?_, fun j hj => h.strangers j (by simpa [leave] using hj)⟩
  by_cases hji : j = i
  · subst hji
    obtain ⟨hlt, -⟩ := List.getElem?_eq_some_iff.mp hi
    rw [leave, List.getElem?_set_self hlt] at hj
    cases hj
    exact (h.standing hi).leave hg
  · rw [leave, List.getElem?_set_ne (Ne.symm hji)] at hj
    exact h.standing hj

/-- One step of the crowd: the link moves as a visit shows, or stays. -/
theorem sound_step (h : Sound c) (hs : Step world Calls Getting c d) :
    Sound d ∧ ∃ owner v, c.link.Move v d.link ∧
      d.visits = c.visits ++ (v.map (owner, ·)).toList := by
  cases hs with
  | come task ht => exact ⟨sound_come h ht, 0, none, .nothing _, by simp [come]⟩
  | act i limit =>
    cases hi : c.members[i]? with
    | none =>
      rw [act_of_stranger limit hi]
      exact ⟨h, 0, none, .nothing _, by simp⟩
    | some stance =>
      obtain ⟨hmove, hsound⟩ := sound_act h limit hi
      exact ⟨hsound, i, _, hmove, by rw [act_of_member limit hi]⟩
  | leave i stance hi hg => exact ⟨sound_leave h hi hg, 0, none, .nothing _, by simp [leave]⟩
  | pass due => exact ⟨⟨h.tells, h.standing, h.strangers⟩, 0, none, .nothing _, by simp [pass]⟩

theorem sound_reachable (h : Reachable world scene c) : Sound c := by
  induction h with
  | refl => exact sound_initial
  | tail _ hs ih => exact (sound_step ih hs).1

end Crowd

end Outband
