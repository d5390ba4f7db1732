import Liveness.Link
import Liveness.Span

/-! # The outbound side of a client connection -/

namespace Liveness

/-- How a connect attempt ends. -/
inductive ConnectResult where
  | ok
  | failed (text : String)
  | io (text : String)
  | panicked (message : String)
deriving DecidableEq, Repr

/-- The text of an attempt that ended in an error. -/
def ConnectResult.error? : ConnectResult → Option String
  | .failed text => some s!"connect failed: {text}"
  | .io text => some s!"I/O error: {text}"
  | .ok | .panicked _ => none

/-- What a script says of an attempt. -/
inductive AttemptPlan where
  | connects
  /-- The attempt ends well, but the link is not up. -/
  | endsDown
  | fails
  | failsIo
  | panics
  /-- The attempt never ends. -/
  | hangs
deriving DecidableEq, Repr

/-- What a script says of a question for the link. -/
inductive LinkReply where
  /-- The answer is what the attempts and the transport made of the link. -/
  | asItIs
  | is (up : Bool)
  | panics
deriving DecidableEq, Repr

/-- A connector that refuses a number of attempts and then connects. -/
structure RefusingConnector where
  refusals : Nat := 0
  latency : Span := Span.zero
  connected : Bool := false
  attempts : Nat := 0
  /-- How many of the attempts are over. -/
  finished : Nat := 0

/-- A connector that follows scripts and notes when it was called. As scripts are as long as they need be, it
does what any connector may do: attempts end in any way after any time, and its link comes and goes. -/
structure ScriptedConnector where
  connected : Bool := false
  plans : Script AttemptPlan
  /-- How long attempts take of which the script of latencies says nothing. -/
  latency : Span := Span.zero
  latencies : Script Span := ⟨[], 0⟩
  replies : Script LinkReply := ⟨[], 0⟩
  /-- The times of the calls, the latest first. -/
  calls : List Int := []
  /-- How many of the attempts are over. -/
  finished : Nat := 0
  maxInFlight : Nat := 0

/-- How many attempts are under way. -/
def ScriptedConnector.inFlight (c : ScriptedConnector) : Nat := c.calls.length - c.finished

inductive Connector where
  | refusing (c : RefusingConnector)
  | scripted (c : ScriptedConnector)

/-- An attempt under way. -/
inductive Attempt where
  /-- The number of the attempt at a refusing connector. -/
  | counted (number : Nat)
  | planned (plan : AttemptPlan)
deriving DecidableEq, Repr

namespace Attempt

/-- Whether the attempt ends at all. -/
def ends : Attempt → Bool
  | .planned .hangs => false
  | _ => true

end Attempt

namespace Connector

/-- Asks whether the link is up; there is no answer if that panics. -/
def ask : Connector → Option Bool × Connector
  | .refusing c => (some c.connected, .refusing c)
  | .scripted c =>
    let (reply, replies) := c.replies.next .asItIs
    let answer := match reply with
      | .asItIs => some c.connected
      | .is up => some up
      | .panics => none
    (answer, .scripted { c with replies })

/-- Sets the link up or down. A refusing connector can only be cut off. -/
def setConnected (up : Bool) : Connector → Connector
  | .refusing c => .refusing { c with connected := false }
  | .scripted c => .scripted { c with connected := up }

/-- An attempt starts, which takes some time. -/
def start (now : Int) : Connector → Attempt × Span × Connector
  | .refusing c => (.counted (c.attempts + 1), c.latency, .refusing { c with attempts := c.attempts + 1 })
  | .scripted c =>
    let (plan, plans) := c.plans.next .fails
    let (latency, latencies) := c.latencies.next c.latency
    (.planned plan, latency,
      .scripted { c with
        plans, latencies
        calls := now :: c.calls
        maxInFlight := max c.maxInFlight (c.inFlight + 1) })

/-- What a script's plan comes to. -/
def planned : AttemptPlan → ConnectResult
  | .connects | .endsDown => .ok
  | .fails | .hangs => .failed "scripted"
  | .failsIo => .io "refused"
  | .panics => .panicked "connector bug"

/-- An attempt is given up before it ends. -/
def giveUp : Connector → Connector
  | .refusing c => .refusing { c with finished := c.finished + 1 }
  | .scripted c => .scripted { c with finished := c.finished + 1 }

/-- An attempt ends. Of one that it did not start a connector only notes that. -/
def finish : Attempt → Connector → ConnectResult × Connector
  | .counted number, .refusing c =>
    let finished := c.finished + 1
    if 0 < c.refusals then
      (.failed s!"simulated refusal on attempt {number}", .refusing { c with refusals := c.refusals - 1, finished })
    else (.ok, .refusing { c with connected := true, finished })
  | .planned plan, .scripted c =>
    (planned plan,
      .scripted { c with
        finished := c.finished + 1
        connected := c.connected || plan == .connects })
  | _, c => (.failed "", c.giveUp)

/-- How many attempts were ever started. -/
def calls : Connector → Nat
  | .refusing c => c.attempts
  | .scripted c => c.calls.length

/-- How many attempts are over, whether they ended or were given up. -/
def finished : Connector → Nat
  | .refusing c => c.finished
  | .scripted c => c.finished

@[simp] theorem calls_ask (c : Connector) : c.ask.2.calls = c.calls := by cases c <;> rfl

@[simp] theorem finished_ask (c : Connector) : c.ask.2.finished = c.finished := by cases c <;> rfl

@[simp] theorem calls_start (c : Connector) (now : Int) : (c.start now).2.2.calls = c.calls + 1 := by cases c <;> rfl

@[simp] theorem finished_start (c : Connector) (now : Int) : (c.start now).2.2.finished = c.finished := by
  cases c <;> rfl

@[simp] theorem calls_giveUp (c : Connector) : c.giveUp.calls = c.calls := by cases c <;> rfl

@[simp] theorem finished_giveUp (c : Connector) : c.giveUp.finished = c.finished + 1 := by cases c <;> rfl

@[simp] theorem calls_finish (attempt : Attempt) (c : Connector) : (c.finish attempt).2.calls = c.calls := by
  unfold finish
  split
  · dsimp only
    split <;> rfl
  · rfl
  · exact calls_giveUp _

@[simp] theorem finished_finish (attempt : Attempt) (c : Connector) : (c.finish attempt).2.finished = c.finished + 1 := by
  unfold finish
  split
  · dsimp only
    split <;> rfl
  · rfl
  · exact finished_giveUp _

end Connector

end Liveness
