namespace LabStream

/-- Tasks on a clock. Each step moves one task that is able to move; when none is, the clock may go on
to the next time at which one wakes up. -/
structure Clockwork (α : Type) where
  step : α → Option α
  now : α → Nat
  setNow : α → Nat → α
  wakeTimes : α → List Nat

namespace Clockwork

variable {α : Type}

/-- Steps until no task can move, at most `fuel` times. -/
def settle (w : Clockwork α) : Nat → α → α
  | 0, a => a
  | fuel + 1, a =>
    match w.step a with
    | some b => settle w fuel b
    | none => a

def nextWake (w : Clockwork α) (a : α) : Option Nat :=
  ((w.wakeTimes a).filter (w.now a < ·)).min?

/-- Runs until the clock shows `target`, with at most `fuel` wake-ups and as many steps after each. -/
def runUntil (w : Clockwork α) (fuel target : Nat) (a : α) : α :=
  go fuel a
where
  go : Nat → α → α
  | 0, a => w.setNow a target
  | left + 1, a =>
    match w.nextWake a with
    | some time =>
      if time ≤ target then go left (w.settle fuel (w.setNow a time)) else w.setNow a target
    | none => w.setNow a target

/-- Runs until `stop` holds or nothing wakes up any more. -/
def runWhile (w : Clockwork α) (fuel : Nat) (go : α → Bool) (a : α) : α :=
  loop fuel a
where
  loop : Nat → α → α
  | 0, a => a
  | left + 1, a =>
    if !go a then a
    else match w.nextWake a with
      | some time => loop left (w.settle fuel (w.setNow a time))
      | none => a

end Clockwork

end LabStream
