import Liveness.Proofs.Hub.Announce
import Liveness.Proofs.Hub.Run

/-!
# Listeners that panic

A callback that panics is one that does nothing, but for an error in the log.  Two
hubs are *alike* if the second is the first with its panics soothed: its listeners
return from the callbacks in which those of the first panic.  Every call gives
alike hubs the same answer and leaves them alike again (`agree_step`), hence so
does every run.
-/

namespace Liveness

/-- A callback that panics returns without doing anything instead. -/
def Conduct.soothed : Conduct → Conduct
  | .panics _ => .ignores
  | c => c

def Observer.soothed (o : Observer) : Observer := { o with conduct := fun n => (o.conduct n).soothed }

def Watcher.soothed (w : Watcher) : Watcher := { w with conduct := fun n => (w.conduct n).soothed }

namespace Hub

/-- Listeners that never panic, and otherwise do what they do. -/
def soothed (h : Hub) : Hub :=
  { h with observers := h.observers.map Observer.soothed, watchers := h.watchers.map Watcher.soothed }

/-- A call that brings a listener brings a soothed one. -/
def Op.soothed : Op → Op
  | .addObserver o => .addObserver o.soothed
  | .addWatcher w => .addWatcher w.soothed
  | op => op

/-- Whatever is not an error in the log. -/
def unlessError? (s : Stamped) : Option Stamped :=
  match s.what with
  | .logged line => if line.level = .error then none else some s
  | _ => some s

/-! ## Answers -/

/-- What a call answers. -/
inductive Reply where
  | done
  | found (d : Option Device)
  | creation (c : Creation)
  | removal (r : Removal)
  | known (b : Bool)
  | sequence (s : Option (SequenceStatus × Device))
  | swept (r : SweepReport)
  | link (l : LinkId)
  | delivery (d : Delivery)
  | fired (b : Bool)
  | tally (k : Nat)
  | churn (c : Churn)

/-- The answer to a call. -/
def reply (h : Hub) (now : Int) : Op → Reply
  | .put p => .found (h.put now p).1
  | .getOrCreate id recipe => .creation (h.getOrCreate now id recipe).1
  | .remove id reason => .found (h.remove now id reason).1
  | .removeIf id reason check => .removal (h.removeIf now id reason check).1
  | .removeSilently id => .found (h.removeSilently id).1
  | .touch id => .known (h.touch now id).1
  | .recordSequence id n => .sequence (h.recordSequence id n).1
  | .sweep asOf limit => .swept (h.sweep now asOf limit).2
  | .sweepOver asOf limit snapshot => .swept (h.sweepOver now asOf limit snapshot).2
  | .openLink l => .link (h.openLink l).1
  | .send link size => .delivery (h.sendLink link size).1
  | .close link => .delivery (h.closeLink link).1
  | .reportActive id link => .fired (h.onActive now id link).1
  | .reportInactive link => .fired (h.onInactive now link).1
  | .addTally => .tally h.addTally.1
  | .takeTally k | .report k _ => .churn (h.takeTally k).1
  | .alter .. | .addObserver _ | .addWatcher _ | .log _ => .done

/-- The answers to a list of calls. -/
def replies : Hub → List Call → List Reply
  | _, [] => []
  | h, c :: cs => h.reply c.1 c.2 :: replies (h.step c.1 c.2) cs

/-! ## Hubs that are alike -/

/-- One hub is another one with its panics soothed, and their traces differ in errors at most. -/
structure Alike (h h' : Hub) : Prop where
  registry : h'.registry = h.registry
  walk : h'.walk = h.walk
  channel : h'.channel = h.channel
  observers : h'.observers = h.observers.map Observer.soothed
  tallies : h'.tallies = h.tallies
  links : h'.links = h.links
  slots : h'.slots = h.slots
  watchers : h'.watchers = h.watchers.map Watcher.soothed
  trace : h'.seen unlessError? = h.seen unlessError?
  poisoned : h'.poisoned = h.poisoned

/-- Two calls on hubs have the same answer, and leave them alike. -/
structure Agree {α : Type} (r r' : α × Hub) : Prop where
  answer : r'.1 = r.1
  alike : r.2.Alike r'.2

variable {now : Int} {n : Notice} {h h' : Hub}

theorem Agree.exists_eq {α : Type} {r r' : α × Hub} (ha : Agree r r') :
    ∃ answer h h', r = (answer, h) ∧ r' = (answer, h') ∧ Alike h h' :=
  ⟨r.1, r.2, r'.2, rfl, by rw [← ha.answer], ha.alike⟩

theorem alike_soothed (h : Hub) : h.Alike h.soothed := ⟨rfl, rfl, rfl, rfl, rfl, rfl, rfl, rfl, rfl, rfl⟩

namespace Alike

theorem emit (ha : Alike h h') (what : Happening) : Alike (h.emit now what) (h'.emit now what) where
  registry := ha.registry
  walk := ha.walk
  channel := ha.channel
  observers := ha.observers
  tallies := ha.tallies
  links := ha.links
  slots := ha.slots
  watchers := ha.watchers
  trace := by rw [seen_emit, seen_emit, ha.trace]
  poisoned := ha.poisoned

/-- An error that only one of two hubs logs. -/
theorem log_error (ha : Alike h h') {line : LogLine} (hline : line.level = .error) : Alike (h.log now line) h' where
  registry := ha.registry
  walk := ha.walk
  channel := ha.channel
  observers := ha.observers
  tallies := ha.tallies
  links := ha.links
  slots := ha.slots
  watchers := ha.watchers
  trace := by
    rw [log, seen_emit, ha.trace]
    simp [unlessError?, hline]
  poisoned := ha.poisoned

/-! ### Observers -/

theorem noticeLine (ha : Alike h h') : h'.noticeLine now n = h.noticeLine now n := by
  have hdescribe : h'.describe = h.describe := by
    funext d
    rw [describe, describe, ha.links]
  unfold Hub.noticeLine
  rw [hdescribe]

theorem act (ha : Alike h h') (role : ObserverRole) : Alike (h.act now n role) (h'.act now n role) := by
  cases role with
  | idle => exact ha
  | logger =>
    rw [Hub.act, Hub.act, ha.noticeLine]
    exact ha.emit _
  | tally k => exact { ha with tallies := by rw [Hub.act, Hub.act, ha.tallies] }

/-- An observer receives a notice; what it then does is another matter. -/
theorem observed (ha : Alike h h') (now : Int) (i : Nat) (o : Observer) (what : Happening) :
    Alike ({ h with observers := h.observers.set i { o with heard := o.heard + 1 } }.emit now what)
      ({ h' with observers := h'.observers.set i { o.soothed with heard := o.heard + 1 } }.emit now what) := by
  have hset : Alike { h with observers := h.observers.set i { o with heard := o.heard + 1 } }
      { h' with observers := h'.observers.set i { o.soothed with heard := o.heard + 1 } } :=
    { ha with observers := by simp only [ha.observers, List.map_set, Observer.soothed] }
  exact hset.emit what

theorem tell (ha : Alike h h') (i : Nat) : Alike (tell now n h i) (tell now n h' i) := by
  have hi : h'.observers[i]? = h.observers[i]?.map Observer.soothed := by
    rw [ha.observers, List.getElem?_map]
  cases ho : h.observers[i]? with
  | none =>
    rw [ho] at hi
    simpa [Hub.tell, ho, hi] using ha
  | some o =>
    rw [ho] at hi
    have hheard : Alike _ _ := ha.observed now i o (.observed i n (h.registry.contains n.id))
    have hcontains : h'.registry.contains n.id = h.registry.contains n.id := by rw [ha.registry]
    have hconduct : o.soothed.conduct o.soothed.heard = (o.conduct o.heard).soothed := rfl
    simp only [Hub.tell, ho, hi, Option.map_some, hcontains, hconduct]
    cases o.conduct o.heard with
    | acts => exact hheard.act o.role
    | ignores => exact hheard
    | panics p =>
      have hpanic : (panicLine p n).level = .error := by cases n <;> rfl
      exact hheard.log_error hpanic

theorem announce (ha : Alike h h') (n : Notice) : Alike (h.announce now n) (h'.announce now n) := by
  suffices ∀ (is : List Nat) {h h' : Hub}, Alike h h' →
      Alike (is.foldl (Hub.tell now n) h) (is.foldl (Hub.tell now n) h') by
    have hlen : h'.observers.length = h.observers.length := by rw [ha.observers, List.length_map]
    have hfold : Alike ((List.range h.observers.length).foldl (Hub.tell now n) h)
        ((List.range h'.observers.length).foldl (Hub.tell now n) h') := hlen ▸ this _ ha
    exact { hfold with channel := congrArg (·.send n.event) hfold.channel }
  intro is
  induction is with
  | nil => exact fun ha => ha
  | cons i is ih => exact fun ha => ih (ha.tell i)

theorem addTally (ha : Alike h h') : Agree h.addTally h'.addTally := by
  unfold Hub.addTally
  rw [ha.tallies]
  refine ⟨rfl, { ha with observers := ?_, tallies := rfl }⟩
  rw [ha.observers, List.map_append]
  rfl

theorem takeTally (ha : Alike h h') (k : Nat) : Agree (h.takeTally k) (h'.takeTally k) := by
  unfold Hub.takeTally
  rw [ha.tallies]
  exact ⟨rfl, { ha with tallies := rfl }⟩

/-! ### The registry -/

theorem withRegistry (ha : Alike h h') (r : Registry) :
    Alike { h with registry := r } { h' with registry := r } := { ha with registry := rfl }

theorem poison (ha : Alike h h') : Alike h.poison h'.poison := { ha with poisoned := rfl }

theorem touch (ha : Alike h h') (id : DeviceId) : Agree (h.touch now id) (h'.touch now id) := by
  unfold Hub.touch
  rw [ha.registry]
  exact ⟨rfl, ha.withRegistry _⟩

theorem removeSilently (ha : Alike h h') (id : DeviceId) : Agree (h.removeSilently id) (h'.removeSilently id) := by
  rw [removeSilently_eq, removeSilently_eq, ha.registry]
  exact ⟨rfl, ha.withRegistry _⟩

theorem recordSequence (ha : Alike h h') (id : DeviceId) (n : UInt64) :
    Agree (h.recordSequence id n) (h'.recordSequence id n) := by
  unfold Hub.recordSequence
  rw [ha.registry]
  cases h.registry.get? id with
  | none => exact ⟨rfl, ha⟩
  | some d => exact ⟨rfl, ha.withRegistry _⟩

theorem storeAs (ha : Alike h h') (key : DeviceId) (p : Profile) :
    Agree ((h.storeAs now key p).1, (h.storeAs now key p).2.2)
        ((h'.storeAs now key p).1, (h'.storeAs now key p).2.2) ∧
      (h'.storeAs now key p).2.1 = (h.storeAs now key p).2.1 := by
  unfold Hub.storeAs
  rw [ha.registry]
  exact ⟨⟨rfl, (ha.withRegistry _).announce _⟩, rfl⟩

theorem put (ha : Alike h h') (p : Profile) : Agree (h.put now p) (h'.put now p) := by
  obtain ⟨hagree, hold⟩ := ha.storeAs p.id p
  rw [put_eq, put_eq]
  exact ⟨hold, hagree.alike⟩

theorem openLink (ha : Alike h h') (l : Link) : Agree (h.openLink l) (h'.openLink l) := by
  unfold Hub.openLink
  rw [ha.links]
  exact ⟨rfl, { ha with links := rfl }⟩

theorem getOrCreate (ha : Alike h h') (id : DeviceId) (recipe : Recipe) :
    Agree (h.getOrCreate now id recipe) (h'.getOrCreate now id recipe) := by
  have hsame : h'.registry.get? id = h.registry.get? id := by rw [ha.registry]
  cases hd : h.registry.get? id with
  | some d =>
    rw [getOrCreate_of_some h recipe hd, getOrCreate_of_some h' recipe (hsame.trans hd)]
    exact ⟨rfl, ha⟩
  | none =>
    rw [getOrCreate_of_none h recipe hd, getOrCreate_of_none h' recipe (hsame.trans hd)]
    cases recipe with
    | make p =>
      obtain ⟨hagree, -⟩ := ha.storeAs id p
      exact ⟨congrArg Creation.made hagree.answer, hagree.alike⟩
    | makeOnNewLink own attributes =>
      have hopen : Agree (h.openLink (.counting {})) (h'.openLink (.counting {})) := ha.openLink _
      simp only [create]
      rw [hopen.answer]
      obtain ⟨hagree, -⟩ := hopen.alike.storeAs id
        { id := own, link := (h.openLink (.counting {})).1, attributes }
      exact ⟨congrArg Creation.made hagree.answer, hagree.alike⟩
    | fail reason => exact ⟨rfl, ha⟩
    | panic message => exact ⟨rfl, ha.poison⟩

theorem removeIf (ha : Alike h h') (id : DeviceId) (reason : RemovalReason) (check : Device → Verdict) :
    Agree (h.removeIf now id reason check) (h'.removeIf now id reason check) := by
  simp only [Hub.removeIf, locked_eq]
  rw [ha.registry]
  cases h.registry.get? id with
  | none => exact ⟨rfl, ha⟩
  | some d =>
    dsimp only
    cases check d with
    | keep => exact ⟨rfl, ha⟩
    | panic message => exact ⟨rfl, ha.poison⟩
    | drop => exact ⟨rfl, (ha.withRegistry _).announce _⟩

theorem remove (ha : Alike h h') (id : DeviceId) (reason : RemovalReason) :
    Agree (h.remove now id reason) (h'.remove now id reason) := by
  obtain ⟨r, h₁, h₁', heq, heq', halike⟩ := (ha.removeIf id reason fun _ => .drop).exists_eq
  unfold Hub.remove
  rw [heq, heq']
  cases r <;> exact ⟨rfl, halike⟩

/-! ### Connections -/

theorem callLink {α : Type} (ha : Alike h h') (i : LinkId) (f : Link → α × Link) :
    Agree (h.callLink i f) (h'.callLink i f) := by
  unfold Hub.callLink
  rw [ha.links]
  exact ⟨rfl, { ha with links := rfl }⟩

theorem setSlot (ha : Alike h h') (l : LinkId) (slot : Slot) : Alike (h.setSlot l slot) (h'.setSlot l slot) :=
  { ha with slots := congrArg (·.insert l slot) ha.slots }

theorem dropSlot (ha : Alike h h') (l : LinkId) : Alike (h.dropSlot l) (h'.dropSlot l) :=
  { ha with slots := congrArg (·.erase l) ha.slots }

theorem bridge (ha : Alike h h') (id : DeviceId) (l : LinkId) (state : LinkState) :
    Alike (h.bridge now id l state) (h'.bridge now id l state) := by
  cases state with
  | active =>
    unfold Hub.bridge
    rw [ha.registry]
    dsimp only
    split
    · exact ha
    · exact (ha.put _).alike
  | inactive => exact (ha.removeIf id .disconnected _).alike

/-- A watcher hears of a connection; what it then does is another matter. -/
theorem watched (ha : Alike h h') (now : Int) (i : Nat) (w : Watcher) (what : Happening) :
    Alike ({ h with watchers := h.watchers.set i { w with heard := w.heard + 1 } }.emit now what)
      ({ h' with watchers := h'.watchers.set i { w.soothed with heard := w.heard + 1 } }.emit now what) := by
  have hset : Alike { h with watchers := h.watchers.set i { w with heard := w.heard + 1 } }
      { h' with watchers := h'.watchers.set i { w.soothed with heard := w.heard + 1 } } :=
    { ha with watchers := by simp only [ha.watchers, List.map_set, Watcher.soothed] }
  exact hset.emit what

theorem tellWatcher (ha : Alike h h') (id : DeviceId) (l : LinkId) (state : LinkState) (i : Nat) :
    Alike (tellWatcher now id l state h i) (tellWatcher now id l state h' i) := by
  have hi : h'.watchers[i]? = h.watchers[i]?.map Watcher.soothed := by
    rw [ha.watchers, List.getElem?_map]
  cases hw : h.watchers[i]? with
  | none =>
    rw [hw] at hi
    simpa [Hub.tellWatcher, hw, hi] using ha
  | some w =>
    rw [hw] at hi
    have hheard : Alike _ _ := ha.watched now i w (.watched i id l state)
    obtain ⟨role, conduct, heard⟩ := w
    simp only [Hub.tellWatcher, hw, hi, Option.map_some, Watcher.soothed]
    cases conduct heard with
    | acts =>
      cases role with
      | idle => exact hheard
      | bridge => exact hheard.bridge id l state
    | ignores => exact hheard
    | panics p => exact hheard.log_error rfl

theorem fire (ha : Alike h h') (id : DeviceId) (l : LinkId) (state : LinkState) :
    Alike (h.fire now id l state) (h'.fire now id l state) := by
  suffices ∀ (is : List Nat) {h h' : Hub}, Alike h h' →
      Alike (is.foldl (Hub.tellWatcher now id l state) h) (is.foldl (Hub.tellWatcher now id l state) h') by
    have hlen : h'.watchers.length = h.watchers.length := by rw [ha.watchers, List.length_map]
    unfold Hub.fire
    rw [hlen]
    exact this _ ha
  intro is
  induction is with
  | nil => exact fun ha => ha
  | cons i is ih => exact fun ha => ih (ha.tellWatcher id l state i)

theorem onActive (ha : Alike h h') (id : DeviceId) (l : LinkId) :
    Agree (h.onActive now id l) (h'.onActive now id l) := by
  have hask : ∀ {h h' : Hub}, Alike h h' → Agree (h.isLinkOpen l) (h'.isLinkOpen l) := fun ha => ha.callLink l _
  obtain ⟨answer, h₁, h₁', heq, heq', halike⟩ := (hask ha).exists_eq
  unfold Hub.onActive
  rw [heq, heq']
  cases answer with
  | false => exact ⟨rfl, halike⟩
  | true =>
    have hslot : h₁'.slot? l = h₁.slot? l := by rw [slot?, slot?, halike.slots]
    dsimp only
    rw [hslot]
    generalize (h₁.slot? l).getD ⟨id, .pending⟩ = slot
    have hset : Alike (h₁.setSlot l slot) (h₁'.setSlot l slot) := halike.setSlot l slot
    split
    · exact ⟨rfl, hset⟩
    · obtain ⟨answer, h₂, h₂', heq, heq', halike⟩ := (hask hset).exists_eq
      rw [heq, heq']
      cases answer with
      | false => exact ⟨rfl, halike.dropSlot l⟩
      | true => exact ⟨rfl, (halike.setSlot l _).fire slot.id l .active⟩

theorem onInactive (ha : Alike h h') (l : LinkId) : Agree (h.onInactive now l) (h'.onInactive now l) := by
  have hslot : h'.slot? l = h.slot? l := by rw [slot?, slot?, ha.slots]
  unfold Hub.onInactive
  rw [hslot]
  cases h.slot? l with
  | none => exact ⟨rfl, ha⟩
  | some slot =>
    have hset : Alike (h.setSlot l { slot with phase := .closed }) (h'.setSlot l { slot with phase := .closed }) :=
      ha.setSlot l _
    dsimp only
    split
    · exact ⟨rfl, (hset.fire slot.id l .inactive).dropSlot l⟩
    · exact ⟨rfl, hset.dropSlot l⟩

/-! ### Sweeps -/

theorem sweepDevice (ha : Alike h h') (asOf : Int) (limit : Span) (report : SweepReport) (d : Device) :
    Agree (sweepDevice now asOf limit (h, report) d).swap (sweepDevice now asOf limit (h', report) d).swap := by
  simp only [Hub.sweepDevice]
  split
  · exact ⟨rfl, ha⟩
  · generalize (fun current : Device => if (decide (current.serial = d.serial) &&
      current.clock.isExpired asOf limit) = true then Verdict.drop else Verdict.keep) = check
    obtain ⟨r, h₁, h₁', heq, heq', halike⟩ := (ha.removeIf d.id .expired check).exists_eq
    rw [heq, heq']
    cases r with
    | removed evicted =>
      have hlog : Alike (h₁.log now (.deviceExpired evicted.id (evicted.clock.idleFor asOf)))
          (h₁'.log now (.deviceExpired evicted.id (evicted.clock.idleFor asOf))) := halike.emit _
      have hclose : Agree _ _ := hlog.callLink evicted.link Link.close
      obtain ⟨answer, h₂, h₂', heq, heq', halike⟩ := hclose.exists_eq
      dsimp only [closeLink]
      rw [heq, heq']
      cases answer with
      | ok => exact ⟨rfl, halike⟩
      | error e => exact ⟨rfl, halike.emit _⟩
    | absent | kept | panicked => exact ⟨rfl, halike⟩

theorem sweepOver (ha : Alike h h') (asOf : Int) (limit : Span) (snapshot : List Device) :
    Agree (h.sweepOver now asOf limit snapshot).swap (h'.sweepOver now asOf limit snapshot).swap := by
  unfold Hub.sweepOver
  generalize ({ scanned := snapshot.length } : SweepReport) = report
  induction snapshot generalizing h h' report with
  | nil => exact ⟨rfl, ha⟩
  | cons d ds ih =>
    obtain ⟨hanswer, halike⟩ := ha.sweepDevice asOf limit report d
    rw [List.foldl_cons, List.foldl_cons]
    change Agree _ (ds.foldl _ ((Hub.sweepDevice now asOf limit (h', report) d).1,
      (Hub.sweepDevice now asOf limit (h', report) d).swap.1)).swap
    rw [hanswer]
    exact ih halike _

end Alike

/-! ## Runs -/

theorem Agree.reply {α : Type} {r r' : α × Hub} (ha : Agree r r') (f : α → Reply) :
    Agree (f r.1, r.2) (f r'.1, r'.2) :=
  ⟨congrArg f ha.answer, ha.alike⟩

/-- A call gives alike hubs the same answer and leaves them alike. -/
theorem agree_step (ha : Alike h h') (now : Int) (op : Op) :
    Agree (h.reply now op, h.step now op) (h'.reply now op.soothed, h'.step now op.soothed) := by
  cases op with
  | put p => exact (ha.put p).reply .found
  | getOrCreate id recipe => exact (ha.getOrCreate id recipe).reply .creation
  | remove id reason => exact (ha.remove id reason).reply .found
  | removeIf id reason check => exact (ha.removeIf id reason check).reply .removal
  | removeSilently id => exact (ha.removeSilently id).reply .found
  | touch id => exact (ha.touch id).reply .known
  | recordSequence id n => exact (ha.recordSequence id n).reply .sequence
  | sweep asOf limit =>
    have hsnapshot : h'.snapshot = h.snapshot := by rw [snapshot, snapshot, ha.walk, ha.registry]
    have hsweep : Agree (h.sweep now asOf limit).swap (h'.sweep now asOf limit).swap := by
      unfold Hub.sweep
      rw [hsnapshot]
      exact ha.sweepOver asOf limit _
    exact hsweep.reply .swept
  | sweepOver asOf limit snapshot => exact (ha.sweepOver asOf limit snapshot).reply .swept
  | openLink l => exact (ha.openLink l).reply .link
  | send link size => exact (ha.callLink link _).reply .delivery
  | close link => exact (ha.callLink link _).reply .delivery
  | alter link l => exact (ha.callLink link _).reply fun _ => .done
  | reportActive id link => exact (ha.onActive id link).reply .fired
  | reportInactive link => exact (ha.onInactive link).reply .fired
  | addObserver o => exact ⟨rfl, { ha with observers := by simp [step, Op.soothed, addObserver, ha.observers] }⟩
  | addTally => exact ha.addTally.reply .tally
  | takeTally k => exact (ha.takeTally k).reply .churn
  | addWatcher w => exact ⟨rfl, { ha with watchers := by simp [step, Op.soothed, addWatcher, ha.watchers] }⟩
  | log line => exact ⟨rfl, ha.emit _⟩
  | report k load =>
    obtain ⟨churn, h₁, h₁', heq, heq', halike⟩ := (ha.takeTally k).exists_eq
    simp only [Hub.reply, step, Op.soothed, heq, heq', halike.registry, writeReport_eq]
    exact ⟨rfl, halike.emit _⟩

theorem agree_run (ha : Alike h h') (calls : List Call) :
    Agree (h.replies calls, h.run calls)
      (h'.replies (calls.map fun c => (c.1, c.2.soothed)), h'.run (calls.map fun c => (c.1, c.2.soothed))) := by
  induction calls generalizing h h' with
  | nil => exact ⟨rfl, ha⟩
  | cons c cs ih =>
    obtain ⟨hreply, halike⟩ := agree_step ha c.1 c.2
    obtain ⟨hreplies, hrun⟩ := ih halike
    exact ⟨List.cons_eq_cons.mpr ⟨hreply, hreplies⟩, hrun⟩

/-- No listener that panics makes a difference to anyone else.  A run, and the run in which the same
callbacks return without doing anything instead, have the same answers; and after every number of calls the
registry with its clocks, the slots, the connections, the events for subscribers, the tallies and all that
was observed, watched, reported and logged are the same, apart from errors in the log. -/
theorem panics_unseen (h : Hub) (calls : List Call) :
    let soothed := calls.map fun c => (c.1, c.2.soothed)
    h.soothed.replies soothed = h.replies calls ∧
      ∀ n, Alike (h.run (calls.take n)) (h.soothed.run (soothed.take n)) := by
  intro soothed
  refine ⟨(agree_run (alike_soothed h) calls).answer, fun n => ?_⟩
  rw [← List.map_take]
  exact (agree_run (alike_soothed h) (calls.take n)).alike

end Hub

end Liveness
