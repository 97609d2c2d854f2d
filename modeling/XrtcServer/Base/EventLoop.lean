import Mathlib.Tactic.Common

/-!
# I/O watchers

An `IOWatcher` (`base/event_loop.cpp`) wraps an `ev_io`. Starting and stopping events on it merges
masks: the mask it is active with is read back, changed, and the watcher is set up again. When no
event is left, the watcher is stopped and keeps its old mask, so `stop` is only right on a watcher
that is active; the lemmas about `interest` say what the two do there.
-/

namespace XrtcServer

/-- The bits `EventLoop::READ` and `EventLoop::WRITE` of a mask. -/
structure IoMask where
  read : Bool := false
  write : Bool := false
deriving DecidableEq

namespace IoMask

def ioRead : IoMask := { read := true }
def ioWrite : IoMask := { write := true }

def union (a b : IoMask) : IoMask := ⟨a.read || b.read, a.write || b.write⟩

def diff (a b : IoMask) : IoMask := ⟨a.read && !b.read, a.write && !b.write⟩

end IoMask

/-- An `IOWatcher` with the mask of its `ev_io`. -/
structure IoWatcher where
  active : Bool := false
  events : IoMask := {}
deriving DecidableEq

namespace IoWatcher

variable (w : IoWatcher) (mask : IoMask)

/-- `start_io_event`. -/
def start : IoWatcher :=
  if w.active then
    let events := w.events.union mask
    if events = w.events then w else { active := true, events }
  else { active := true, events := mask }

/-- `stop_io_event`. -/
def stop : IoWatcher :=
  let events := w.events.diff mask
  if events = w.events then w
  else if events ≠ {} then { active := true, events }
  else { w with active := false }

/-- What the loop waits for. -/
def interest : IoMask := if w.active then w.events else {}

theorem interest_active (events : IoMask) : interest { active := true, events } = events := rfl

theorem interest_of_active (h : w.active = true) : w.interest = w.events := if_pos h

theorem interest_start : (w.start mask).interest = w.interest.union mask := by
  rw [start]
  by_cases hactive : w.active = true
  · rw [if_pos hactive, interest_of_active w hactive]
    by_cases hsame : w.events.union mask = w.events
    · exact (congrArg interest (if_pos hsame)).trans
        ((interest_of_active w hactive).trans hsame.symm)
    · exact congrArg interest (if_neg hsame)
  · rw [if_neg hactive, interest_active, interest, if_neg hactive]
    simp [IoMask.union]

theorem interest_stop (h : w.active = true) : (w.stop mask).interest = w.interest.diff mask := by
  rw [stop, interest_of_active w h]
  by_cases hsame : w.events.diff mask = w.events
  · exact (congrArg interest (if_pos hsame)).trans ((interest_of_active w h).trans hsame.symm)
  · rw [if_neg hsame]
    by_cases hleft : w.events.diff mask ≠ {}
    · rw [if_pos hleft, interest_active]
    · rw [if_neg hleft, not_not.mp hleft]
      rfl

theorem active_of_interest (h : w.interest ≠ {}) : w.active = true := by
  by_contra hactive
  exact h (if_neg hactive)

end IoWatcher

end XrtcServer
