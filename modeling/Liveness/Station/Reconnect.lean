import Liveness.Station.Work

/-! # Reconnect timers

A timer looks after a connector with a period. As long as the connector is not connected, each check
starts an attempt, unless the last one is still under way. The check that finds the connector
connected ends the timer's work.
-/

namespace Liveness.Station

def timer (s : Station) (i : TimerId) : Timer := (s.floor.timers[i]?).getD .disabled

def modifyTimer (s : Station) (i : TimerId) (f : Timer → Timer) : Station :=
  { s with floor := s.floor.modifyTimer i f }

def isTimerScheduled (s : Station) (i : TimerId) : Bool := s.isScheduled (s.timer i).task

/-- Starts a timer, unless it is off or already at work. -/
def startTimer (s : Station) (i : TimerId) (c : ConnectorId) : Bool × Station :=
  let t := s.timer i
  if !t.isAutoConnect || s.isTimerScheduled i then (false, s)
  else
    let settings := t.settings
    let (task, s) := s.every "reconnect" (.check i c) settings.initialDelay settings.period
    if s.agenda.isCancelled task then (false, s.log .timerRefused)
    else
      let s := s.modifyTimer i fun t => { t with task := some task }
      (true, s.log (.timerStarted settings.period settings.fireImmediately))

/-- Stops a timer; says whether it was at work. An attempt under way goes on. -/
def stopTimer (s : Station) (i : TimerId) : Bool × Station :=
  match (s.timer i).task with
  | none => (false, s)
  | some task =>
    let was := !s.agenda.isCancelled task
    (was, (s.cancel task).modifyTimer i fun t => { t with task := none })

/-- Switches a timer on or off; off also stops it. -/
def setAutoConnect (s : Station) (i : TimerId) (on : Bool) : Station :=
  if (s.timer i).frozen then s
  else
    let s := s.modifyTimer i fun t => { t with settings := { t.settings with enabled := on } }
    if on then s else (s.stopTimer i).2

/-- Sets the period that the next start uses. -/
def setTimerPeriod (s : Station) (i : TimerId) (period : Span) : Station :=
  if (s.timer i).frozen then s
  else s.modifyTimer i fun t => { t with settings := { t.settings with period } }

/-- One more handle on a timer. -/
def holdTimer (s : Station) (i : TimerId) : Station :=
  s.modifyTimer i fun t => { t with handles := t.handles + 1 }

/-- Lets go of a handle. With the last one the timer's work ends, but not before its attempt. -/
def dropTimer (s : Station) (i : TimerId) : Station :=
  let s := s.modifyTimer i fun t => { t with handles := t.handles - 1 }
  let t := s.timer i
  if t.handles = 0 && !t.inFlight then (s.stopTimer i).2 else s

end Liveness.Station
