import Liveness.Scenario.Command
import Liveness.Scenario.World

/-! # Performing commands -/

namespace Liveness.World

/-- What a name stands for, or a failure when it stands for nothing. -/
def withName {α : Type} (w : World) (names : Names α) (name : String) (f : α → Answer × World) :
    Answer × World :=
  match names[name]? with
  | some a => f a
  | none => (.failed .unknownName, w)

/-- The device of an id, or a failure when there is none. -/
def withDevice (w : World) (id : DeviceId) (f : Device → Answer × World) : Answer × World :=
  match w.hub.registry.get? id with
  | some d => f d
  | none => (.failed .noDevice, w)

/-- Answers a device as it is seen in the world after the command. -/
def answerDevice (r : Option Device × World) : Answer × World := (.device (r.1.map r.2.device), r.2)

def answerFlag (r : Bool × World) : Answer × World := (.flag r.1, r.2)

def answerDelivery (r : Delivery × World) : Answer × World := (.ofDelivery r.1, r.2)

/-- What is asked of the maker of a device. -/
def recipe (link : LinkId) : Making → Recipe
  | .makes id attributes => .make { id, link, attributes }
  | .fails reason => .fail reason
  | .panics => .panic "factory bug"

/-- The maker of devices from attributes refuses those that say so, and panics on those that say so. -/
def factoryRecipe (id : DeviceId) (attributes : Attributes) : Recipe :=
  match (attributes.lookup "reject").bind Json.text? with
  | some reason => .fail reason
  | none => if (attributes.lookup "panic").isSome then .panic "factory bug" else .makeOnNewLink id attributes

def removeIf (w : World) (id : DeviceId) (reason : RemovalReason) (check : Device → Verdict) :
    Answer × World :=
  let now := w.now
  match w.onHub (·.removeIf now id reason check) with
  | (.absent, w) => (.asked false (.ok none), w)
  | (.kept, w) => (.asked true (.ok none), w)
  | (.removed d, w) => (.asked true (.ok (w.device d)), w)
  | (.panicked message, w) => (.failed (.panic message), w)

/-- What a condition says of a device. A connection without a name is bound to no device. -/
def verdict (w : World) : Condition → Device → Verdict
  | .always drops, _ => if drops then .drop else .keep
  | .boundTo link, d => if w.links[link]? = some d.link then .drop else .keep
  | .idleOver limit, d => if d.clock.isExpired w.now limit then .drop else .keep
  | .panics, _ => .panic "predicate bug"

def getOrCreate (w : World) (id : DeviceId) (recipe : Recipe) : Answer × World :=
  let now := w.now
  match w.onHub (·.getOrCreate now id recipe) with
  | (.found d, w) => (.asked false (.ok (w.device d)), w)
  | (.made d, w) => (.asked true (.ok (w.device d)), w)
  | (.failed e, w) => (.asked true (.error (.factory e)), w)
  | (.panicked message, w) => (.failed (.panic message), w)

/-- The connection of a device that was made from attributes gets a name that counts such devices. -/
def getOrCreateFrom (w : World) (id : DeviceId) (attributes : Attributes) : Answer × World :=
  let now := w.now
  let recipe? := if w.hasFactory then some (factoryRecipe id attributes) else none
  match w.onHub (·.getOrCreateFrom now id recipe?) with
  | (none, w) => (.failed .noFactory, w)
  | (some (.found d), w) => (.device (w.device d), w)
  | (some (.made d), w) =>
    let made := w.made + 1
    let w := { w with made, links := w.links.insert s!"auto{made}" d.link }
    (.device (w.device d), w)
  | (some (.failed e), w) => (.failed (.factory e), w)
  | (some (.panicked message), w) => (.failed (.panic message), w)

def listen (w : World) : Listener → World
  | .logger => (w.onHub fun h => ((), h.addObserver { role := .logger })).2
  | .quiet => (w.onHub fun h => ((), h.addObserver {})).2
  | .panics panic => (w.onHub fun h => ((), h.addObserver { conduct := fun _ => .panics panic })).2
  | .tally name =>
    let (k, w) := w.onHub Hub.addTally
    { w with tallies := w.tallies.insert name k }

def watch (w : World) : LinkListener → World
  | .bridge => (w.onHub fun h => ((), h.addWatcher { role := .bridge })).2
  | .panics panic => (w.onHub fun h => ((), h.addWatcher { conduct := fun _ => .panics panic })).2

/-- A summary of the registry and one of the connections. -/
def summary (w : World) : List String :=
  let flag := if w.hasFactory then "true" else "false"
  [s!"DeviceRegistry \x7b devices: {w.hub.registry.size}, has_factory: {flag} \x7d",
    s!"ConnectionStateNotifier \x7b connections: {w.hub.slots.size} \x7d"]

/-- Reads all that a subscription has not read. -/
def drain (w : World) (name : String) (s : Subscription) : Answer × World :=
  let unread := w.hub.channel.unread s
  (.events unread.lost (DeviceEvent.arrange unread.items),
    { w with subscriptions := w.subscriptions.insert name w.hub.channel.subscribe })

/-- Keeps a task under its name. Says whether it was taken on. -/
def keepTask (w : World) (name : String) (r : EntryId × Station) : Answer × World :=
  (.flag (!r.2.agenda.isCancelled r.1), { w with station := r.2, tasks := w.tasks.insert name r.1 })

def setConnected (w : World) (i : ConnectorId) (up : Bool) : World :=
  let floor := w.station.floor
  { w with station.floor.connectors := floor.connectors.modify i (Connector.setConnected up) }

def performRegistry (w : World) : RegistryCommand → Answer × World
  | .put id link attributes =>
    w.withName w.links link fun link => answerDevice (w.onHub (·.put w.now { id, link, attributes }))
  | .get id => answerDevice (w.hub.registry.get? id, w)
  | .contains id => (.flag (w.hub.registry.contains id), w)
  | .size => (.size w.hub.registry.size, w)
  | .ids => (.texts w.hub.registry.ids, w)
  | .serials => (.numbers ((w.hub.registry.devices.map (·.serial)).mergeSort (· ≤ ·)), w)
  | .touch id => answerFlag (w.onHub (·.touch w.now id))
  | .remove id reason => answerDevice (w.onHub (·.remove w.now id reason))
  | .removeSilently id => answerDevice (w.onHub (·.removeSilently id))
  | .removeIf id reason condition => w.removeIf id reason (w.verdict condition)
  | .getOrCreate id link making =>
    w.withName w.links link fun link => w.getOrCreate id (recipe link making)
  | .getOrCreateFrom id attributes => w.getOrCreateFrom id attributes
  | .subscribe name =>
    (.nothing, { w with subscriptions := w.subscriptions.insert name w.hub.channel.subscribe })
  | .unsubscribe name =>
    (.flag (w.subscriptions.contains name), { w with subscriptions := w.subscriptions.erase name })
  | .drain name => w.withName w.subscriptions name (w.drain name)
  | .listen listener => (.nothing, w.listen listener)
  | .takeChurn name => w.withName w.tallies name fun k =>
    let (churn, w) := w.onHub (·.takeTally k)
    (.churn churn, w)
  | .summary => (.texts w.summary, w)

def performDevice (w : World) (id : DeviceId) (d : Device) : DeviceCommand → Answer × World
  | .send size => answerDelivery (w.onHub (·.sendLink d.link size))
  | .close => answerDelivery (w.onHub (·.closeLink d.link))
  | .sequence n =>
    match w.onHub (·.recordSequence id n) with
    | (some (status, d), w) => (.sequence status d.sequence.last, w)
    | (none, w) => (.failed .noDevice, w)
  | .attribute key => (.attribute (d.attributes.lookup key), w)
  | .attributes => (.attributes d.attributes, w)
  | .addresses => (.addresses (w.link d.link).peer? (w.link d.link).endpoint?, w)

def performLink (w : World) : LinkCommand → Answer × World
  | .openAs name l => (.nothing, w.openLink name l)
  | .close name => w.withName w.links name fun i => answerDelivery (w.onHub (·.closeLink i))
  | .state name => w.withName w.links name fun i => (.link (w.link i), w)
  | .same a b => w.withName w.links a fun i => w.withName w.links b fun j => (.flag (i == j), w)
  | .reportActive id name =>
    w.withName w.links name fun i => answerFlag (w.onHub (·.onActive w.now id i))
  | .reportInactive name => w.withName w.links name fun i => answerFlag (w.onHub (·.onInactive w.now i))
  | .isActive name => w.withName w.links name fun i => (.flag (w.hub.isActive i), w)
  | .countActive => (.number w.hub.activeConnections, w)
  | .watch listener => (.nothing, w.watch listener)

/-- A sweeper that is dropped is stopped first; after that there is none to command. -/
def performSweeper (w : World) (c : SweeperCommand) : Answer × World :=
  if !w.hasSweeper then
    match c with
    | .isRunning => (.nothing, w)
    | .drop => (.flag false, w)
    | _ => (.failed .unknownName, w)
  else
    match c with
    | .start => answerFlag (w.onStation Station.startSweeper)
    | .stop => answerFlag (w.onStation Station.stopSweeper)
    | .isRunning => (.flag w.station.isSweeping, w)
    | .drop => (.flag true, { (w.onStation Station.stopSweeper).2 with hasSweeper := false })
    | .sweepNow =>
      let (report, w) := w.onStation Station.sweepNow
      (.swept report, w)
    | .settings => (.settings w.station.sweeper.settings, w)
    | .set settings =>
      match w.station.setSweeper settings with
      | .ok station => (.ok, { w with station })
      | .error r => (.failed (.settings r), w)

def performTimer (w : World) (i : TimerId) : TimerCommand → Answer × World
  | .start connector =>
    w.withName w.connectors connector fun c => answerFlag (w.onStation (·.startTimer i c))
  | .stop => answerFlag (w.onStation (·.stopTimer i))
  | .setAutoConnect on =>
    let w := w.changeStation (·.setAutoConnect i on)
    (.timer (w.timer i), w)
  | .setPeriod period =>
    let w := w.changeStation (·.setTimerPeriod i period)
    (.timer (w.timer i), w)
  | .state => (.timer (w.timer i), w)
  | .clone copy =>
    let w := (w.changeStation (·.holdTimer i)).dropTimer copy
    (.nothing, { w with timers := w.timers.insert copy i })

def performConnector (w : World) (i : ConnectorId) : ConnectorCommand → Answer × World
  | .state => (((w.connector? i).map .connector).getD .nothing, w)
  | .setConnected on => (.nothing, w.setConnected i on)
  | .connect =>
    let (result, w) := w.onStation (·.connect i)
    (.ofConnect result, w)

def performTask (w : World) : TaskCommand → Answer × World
  | .every name delay period p =>
    w.keepTask name (w.station.every name (.probe p.touches p.panicsAt) delay period)
  | .once name delay p => w.keepTask name (w.station.once name (.probe p.touches p.panicsAt) delay)
  | .cancel name => w.withName w.tasks name fun i =>
    let w := w.changeStation (·.cancel i)
    (.flag (w.task i).isCancelled, w)
  | .state name => w.withName w.tasks name fun i => (.task (w.task i), w)
  | .note name delay =>
    (.nothing, { w.changeStation (·.noteAfter name delay) with notes := w.notes.insert name () })
  | .countActive =>
    let (n, w) := w.onStation Station.activeWork
    (.number n, w)
  | .isShutdown => (.flag w.station.agenda.isShutdown, w)
  | .shutdown =>
    let w := w.changeStation Station.shutdown
    (.number w.station.agenda.active, w)

def perform (w : World) : Command → Answer × World
  | .registry c => w.performRegistry c
  | .device id c => w.withDevice id fun d => w.performDevice id d c
  | .link c => w.performLink c
  | .sweeper c => w.performSweeper c
  | .sweepAt limit offset =>
    let (report, w) := w.onStation fun s => s.sweepAsOf (s.now + offset) limit
    (.swept report, w)
  | .timer name c => w.withName w.timers name fun i => w.performTimer i c
  | .dropTimer name => (.flag (w.timers.contains name), w.dropTimer name)
  | .connector name c => w.withName w.connectors name fun i => w.performConnector i c
  | .task c => w.performTask c
  | .startReporter interval =>
    let (task, w) := w.onStation (·.startReporter interval)
    (.flag (!w.station.agenda.isCancelled task), { w with reporter := some task })
  | .stopReporter =>
    match w.reporter with
    | some task => (.flag true, { w.changeStation (·.cancel task) with reporter := none })
    | none => (.flag false, w)
  | .startSimulation plan =>
    let (i, w) := w.onStation (·.startSimulation plan)
    (.number (w.station.talking i), { w with simulation := some i })
  | .talking => ((w.simulation.map fun i => .number (w.station.talking i)).getD .nothing, w)
  | .stopSimulation =>
    (.flag w.simulation.isSome, (w.simulation.map fun i => w.changeStation (·.stopSimulation i)).getD w)
  | .advance amount =>
    let w := w.changeStation (·.advance amount)
    (.number (Instant.millis w.now), w)
  | .jump amount =>
    let w := w.changeStation (·.jump amount)
    (.number (Instant.millis w.now), w)
  | .state => (.world w.view, w)

/-- What a step answers, and the journal of what happened in it. -/
structure StepResult where
  answer : Answer := .nothing
  journal : List JournalEntry := []

/-- Performs the commands of a step in turn. The step answers what the last one answers. -/
def performStep (w : World) (commands : List Command) : StepResult × World :=
  let (result, w) := commands.foldl
    (fun (result, w) c =>
      let (answer, w) := perform w c
      let (entries, w) := w.takeJournal
      (⟨answer, result.journal ++ entries⟩, w))
    (({} : StepResult), w)
  (⟨result.answer, JournalEntry.arrange result.journal⟩, w)

/-- Performs all steps in turn. -/
def performAll (w : World) (steps : List (List Command)) : List StepResult × World :=
  let (results, w) := steps.foldl
    (fun (results, w) commands =>
      let (result, w) := performStep w commands
      (result :: results, w))
    ([], w)
  (results.reverse, w)

end Liveness.World
