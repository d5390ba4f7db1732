import Liveness.Station.Work

/-! # The sweeper

The sweeper sweeps the registry with a period. Its settings can only change while it stands still.
-/

namespace Liveness

/-- Why settings were not taken over. -/
inductive SettingsRefusal where
  | invalid (e : ConfigError)
  | running
deriving DecidableEq, Repr

namespace Station

def isSweeping (s : Station) : Bool := s.isScheduled s.sweeper.task

/-- Starts the sweeper, unless it runs. Its first sweep is one interval away. -/
def startSweeper (s : Station) : Bool × Station :=
  if s.isSweeping then (false, s)
  else
    let settings := s.sweeper.settings
    let (task, s) :=
      s.every "liveness-sweep" (.sweep settings.expireAfter) settings.interval settings.interval
    if s.agenda.isCancelled task then (false, s.log .sweeperRefused)
    else
      let s := { s with sweeper := { s.sweeper with task := some task } }
      (true, s.log (.sweeperStarted settings.expireAfter settings.interval))

/-- Stops the sweeper; says whether it ran. -/
def stopSweeper (s : Station) : Bool × Station :=
  match s.sweeper.task with
  | none => (false, s)
  | some task =>
    let ran := !s.agenda.isCancelled task
    let s := { s.cancel task with sweeper := { s.sweeper with task := none } }
    (ran, if ran then s.log .sweeperStopped else s)

/-- Changes the settings of a sweeper that stands still. -/
def setSweeper (s : Station) (settings : SweepSettings) : Except SettingsRefusal Station :=
  match settings.validate with
  | .error e => .error (.invalid e)
  | .ok _ =>
    if s.isSweeping then .error .running
    else .ok { s with sweeper := { s.sweeper with settings } }

/-- Sweeps the registry now, with silence measured up to some instant. -/
def sweepAsOf (s : Station) (asOf : Int) (limit : Span) : SweepReport × Station :=
  s.onHub fun h =>
    let (h, report) := h.sweep s.now asOf limit
    (report, h)

/-- Sweeps the registry now, by the sweeper's settings. -/
def sweepNow (s : Station) : SweepReport × Station := s.sweepAsOf s.now s.sweeper.settings.expireAfter

end Station

end Liveness
