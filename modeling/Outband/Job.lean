import Outband.World
/-! Work that makes calls and waits, and how far it gets by a given time. -/

namespace Outband

/-- Why work ended without a value. -/
inductive Crash where
  | call (call : Call)
  /-- It waited for a connection attempt that had crashed already. -/
  | attempt (number : Nat)
  deriving DecidableEq, Repr

/-- The time that work may run to, or no bound. -/
abbrev Limit := Option Time

/-- Nothing has to be waited for, or the wait ends within the limit. -/
def Limit.allows (limit : Limit) (now due : Time) : Bool :=
  due ≤ now || match limit with
    | none => true
    | some last => due ≤ last

/-- Work that yields an `α`. The forms `asked` and `paused` are waits that have begun: their end is
set, and for a call what it will answer. -/
inductive Job (α : Type) where
  | done (value : α)
  | crashed (cause : Crash)
  | ask (call : Call) (next : call.Answer → Job α)
  | asked (call : Call) (due : Time) (outcome : Outcome call.Answer) (next : call.Answer → Job α)
  | pause (span : Time) (next : Job α)
  | paused (due : Time) (next : Job α)

namespace Job

/-- The work as far as the limit lets it run, and the scene it leaves. It moves the clock to the
end of each wait. -/
def carry (world : World σ) (limit : Limit) : Job α → Scene σ → Job α × Scene σ
  | .done value, s => (.done value, s)
  | .crashed cause, s => (.crashed cause, s)
  | .ask call next, s =>
    let (reply, s) := s.ask world call
    let due := s.now + reply.delay
    if limit.allows s.now due then
      let s := (s.moveTo due).note (.ended call reply.outcome)
      match reply.outcome with
      | .returns answer => (next answer).carry world limit s
      | .crashes => (.crashed (.call call), s)
    else (.asked call due reply.outcome next, s)
  | .asked call due outcome next, s =>
    if limit.allows s.now due then
      let s := (s.moveTo due).note (.ended call outcome)
      match outcome with
      | .returns answer => (next answer).carry world limit s
      | .crashes => (.crashed (.call call), s)
    else (.asked call due outcome next, s)
  | .pause span next, s =>
    if limit.allows s.now (s.now + span) then next.carry world limit (s.moveTo (s.now + span))
    else (.paused (s.now + span) next, s)
  | .paused due next, s =>
    if limit.allows s.now due then next.carry world limit (s.moveTo due)
    else (.paused due next, s)

/-- When the wait ends that the work is in. -/
def due? : Job α → Option Time
  | .asked _ due _ _ | .paused due _ => some due
  | _ => none

def bind : Job α → (α → Job β) → Job β
  | .done value, next => next value
  | .crashed cause, _ => .crashed cause
  | .ask call rest, next => .ask call fun answer => (rest answer).bind next
  | .asked call due outcome rest, next =>
    .asked call due outcome fun answer => (rest answer).bind next
  | .pause span rest, next => .pause span (rest.bind next)
  | .paused due rest, next => .paused due (rest.bind next)

instance : Monad Job where
  pure := .done
  bind := bind

/-- One call, for what it answers. -/
def call (call : Call) : Job call.Answer := .ask call .done

end Job

end Outband
