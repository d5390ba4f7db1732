import Liveness.Hub.Connection
import Liveness.Hub.Sweep

/-!
# Runs of calls on a hub

A run is a list of calls, each with the time at which it is made.  Every call
comes down to *atoms*, the smallest changes that a hub goes through, and
`Op.Makes` says which atoms a call may come down to.  What holds of each atom
then holds of each call, by `Reaches.lift`.
-/

namespace Liveness

namespace Recipe

/-- The id that a maker gives to the device that it makes. -/
def id? : Recipe → Option DeviceId
  | .make p => some p.id
  | .makeOnNewLink own _ => some own
  | .fail _ | .panic _ => none

/-- What became of the device of a maker before it is stored. -/
def past : Recipe → Past
  | .make p => p.past
  | _ => {}

/-- A maker may make its device from this. -/
def Yields (recipe : Recipe) (p : Profile) : Prop := recipe.id? = some p.id ∧ p.past = recipe.past

end Recipe

namespace Hub

/-- What can be done to a hub: to its registry, to its connections, and to those
who listen to them. -/
inductive Op where
  | put (p : Profile)
  | getOrCreate (id : DeviceId) (recipe : Recipe)
  | remove (id : DeviceId) (reason : RemovalReason)
  | removeIf (id : DeviceId) (reason : RemovalReason) (check : Device → Verdict)
  | removeSilently (id : DeviceId)
  | touch (id : DeviceId)
  | recordSequence (id : DeviceId) (n : UInt64)
  | sweep (asOf : Int) (limit : Span)
  /-- A sweep over devices in any order, some of which may have gone since they were found. -/
  | sweepOver (asOf : Int) (limit : Span) (snapshot : List Device)
  | openLink (l : Link)
  | send (link : LinkId) (size : Nat)
  | close (link : LinkId)
  /-- The transport changes a connection on its own. -/
  | alter (link : LinkId) (l : Link)
  | reportActive (id : DeviceId) (link : LinkId)
  | reportInactive (link : LinkId)
  | addObserver (o : Observer)
  | addTally
  | takeTally (k : Nat)
  | addWatcher (w : Watcher)
  | log (line : LogLine)
  /-- A report of the statistics counted in a tally, under some load. -/
  | report (tally : Nat) (load : Load)

/-- The hub after one call. -/
def step (h : Hub) (now : Int) : Op → Hub
  | .put p => (h.put now p).2
  | .getOrCreate id recipe => (h.getOrCreate now id recipe).2
  | .remove id reason => (h.remove now id reason).2
  | .removeIf id reason check => (h.removeIf now id reason check).2
  | .removeSilently id => (h.removeSilently id).2
  | .touch id => (h.touch now id).2
  | .recordSequence id n => (h.recordSequence id n).2
  | .sweep asOf limit => (h.sweep now asOf limit).1
  | .sweepOver asOf limit snapshot => (h.sweepOver now asOf limit snapshot).1
  | .openLink l => (h.openLink l).2
  | .send link size => (h.sendLink link size).2
  | .close link => (h.closeLink link).2
  | .alter link l => (h.callLink link fun _ => ((), l)).2
  | .reportActive id link => (h.onActive now id link).2
  | .reportInactive link => (h.onInactive now link).2
  | .addObserver o => h.addObserver o
  | .addTally => h.addTally.2
  | .takeTally k => (h.takeTally k).2
  | .addWatcher w => h.addWatcher w
  | .log line => h.log now line
  | .report k load =>
    let (churn, h) := h.takeTally k
    h.writeReport now h.registry.size churn load

/-- A call and its time. -/
abbrev Call := Int × Op

/-- The hub after a list of calls. -/
def run (h : Hub) (calls : List Call) : Hub := calls.foldl (fun h c => h.step c.1 c.2) h

@[simp] theorem run_nil (h : Hub) : h.run [] = h := rfl

@[simp] theorem run_cons (h : Hub) (c : Call) (cs : List Call) :
    h.run (c :: cs) = (h.step c.1 c.2).run cs := rfl

theorem run_append (h : Hub) (as bs : List Call) : h.run (as ++ bs) = (h.run as).run bs :=
  List.foldl_append

/-- What no call makes less is not less after a run. -/
theorem le_run_of_le_step {mark : Hub → Nat} (hmark : ∀ h now op, mark h ≤ mark (h.step now op)) (h : Hub)
    (calls : List Call) : mark h ≤ mark (h.run calls) := by
  induction calls generalizing h with
  | nil => exact Nat.le_refl _
  | cons c cs ih => exact Nat.le_trans (hmark h c.1 c.2) (ih _)

/-! ## Atoms -/

/-- One watcher receives a change of a connection; what it then does is another matter. -/
def hear (h : Hub) (now : Int) (k : Nat) (id : DeviceId) (link : LinkId) (state : LinkState) : Hub :=
  match h.watchers[k]? with
  | none => h
  | some w =>
    { h with watchers := h.watchers.set k { w with heard := w.heard + 1 } }.emit now
      (.watched k id link state)

@[simp] theorem registry_hear (h : Hub) (now : Int) (k : Nat) (id : DeviceId) (link : LinkId)
    (state : LinkState) : (h.hear now k id link state).registry = h.registry := by
  unfold hear; split <;> rfl

@[simp] theorem observers_hear (h : Hub) (now : Int) (k : Nat) (id : DeviceId) (link : LinkId)
    (state : LinkState) : (h.hear now k id link state).observers = h.observers := by
  unfold hear; split <;> rfl

@[simp] theorem slots_hear (h : Hub) (now : Int) (k : Nat) (id : DeviceId) (link : LinkId)
    (state : LinkState) : (h.hear now k id link state).slots = h.slots := by
  unfold hear; split <;> rfl

@[simp] theorem length_watchers_hear (h : Hub) (now : Int) (k : Nat) (id : DeviceId) (link : LinkId)
    (state : LinkState) : (h.hear now k id link state).watchers.length = h.watchers.length := by
  unfold hear; split <;> simp [emit]

/-- The smallest changes of a hub. -/
inductive Atom where
  | store (key : DeviceId) (p : Profile)
  | erase (id : DeviceId) (reason : RemovalReason)
  | eraseSilently (id : DeviceId)
  | touch (id : DeviceId)
  | recordSequence (id : DeviceId) (n : UInt64)
  | openLink (l : Link)
  | setLink (link : LinkId) (l : Link)
  | setSlots (slots : Std.ExtTreeMap LinkId Slot)
  | hear (k : Nat) (id : DeviceId) (link : LinkId) (state : LinkState)
  | addObserver (o : Observer)
  | addTally
  | takeTally (k : Nat)
  | addWatcher (w : Watcher)
  | log (line : LogLine)
  | report (alarm : Alarm) (churn : Churn)
  | poison

/-- The hub after one atom. -/
def atom (h : Hub) (now : Int) : Atom → Hub
  | .store key p => (h.storeAs now key p).2.2
  | .erase id reason => (h.remove now id reason).2
  | .eraseSilently id => { h with registry := h.registry.erase id }
  | .touch id => (h.touch now id).2
  | .recordSequence id n => (h.recordSequence id n).2
  | .openLink l => (h.openLink l).2
  | .setLink link l => { h with links := h.links.setIfInBounds link l }
  | .setSlots slots => { h with slots }
  | .hear k id link state => h.hear now k id link state
  | .addObserver o => h.addObserver o
  | .addTally => h.addTally.2
  | .takeTally k => (h.takeTally k).2
  | .addWatcher w => h.addWatcher w
  | .log line => h.log now line
  | .report alarm churn => h.emit now (.reported alarm h.registry.size churn)
  | .poison => h.poison

/-- Where there is nothing to erase, nothing happens. -/
theorem atom_erase_of_none {h : Hub} {now : Int} {id : DeviceId} (reason : RemovalReason)
    (hd : h.registry.get? id = none) : h.atom now (.erase id reason) = h := by
  simp [atom, remove, removeIf, hd]

/-- What is erased is announced. -/
theorem atom_erase_of_some {h : Hub} {now : Int} {id : DeviceId} (reason : RemovalReason) {d : Device}
    (hd : h.registry.get? id = some d) :
    h.atom now (.erase id reason) =
      { h with registry := h.registry.erase id }.announce now (.removed id d reason) := by
  simp [atom, remove, removeIf, hd]

/-- A report takes the counts of its tally and writes them down, under whatever load. -/
theorem step_report (h : Hub) (now : Int) (k : Nat) (load : Load) :
    h.step now (.report k load) = (h.atom now (.takeTally k)).atom now (.report load.alarm (h.takeTally k).1) :=
  writeReport_eq _ _ _ _ _

/-- `h.Reaches now P h'`: atoms of the kind `P` lead from `h` to `h'`. -/
inductive Reaches (now : Int) (P : Atom → Prop) (h : Hub) : Hub → Prop
  | refl : Reaches now P h h
  | snoc {h' : Hub} (a : Atom) : Reaches now P h h' → P a → Reaches now P h (h'.atom now a)

namespace Reaches

variable {now : Int} {P Q : Atom → Prop} {h₁ h₂ h₃ : Hub}

theorem single {a : Atom} (ha : P a) : h₁.Reaches now P (h₁.atom now a) := .snoc a .refl ha

theorem trans (h : h₁.Reaches now P h₂) (h' : h₂.Reaches now P h₃) : h₁.Reaches now P h₃ := by
  induction h' with
  | refl => exact h
  | snoc a _ ha ih => exact ih.snoc a ha

theorem mono (hPQ : ∀ a, P a → Q a) (h : h₁.Reaches now P h₂) : h₁.Reaches now Q h₂ := by
  induction h with
  | refl => exact .refl
  | snoc a _ ha ih => exact ih.snoc a (hPQ a ha)

/-- A relation that holds along each atom holds along all of them. -/
theorem lift {R : Hub → Hub → Prop} (hrefl : ∀ h, R h h)
    (htrans : ∀ {a b c}, R a b → R b c → R a c) (hatom : ∀ h a, P a → R h (h.atom now a))
    (h : h₁.Reaches now P h₂) : R h₁ h₂ := by
  induction h with
  | refl => exact hrefl _
  | snoc a _ ha ih => exact htrans ih (hatom _ a ha)

/-- Steps of one kind, one after the other. -/
theorem foldl {α : Type} {f : Hub → α → Hub} (hf : ∀ (h : Hub) x, h.Reaches now P (f h x)) (xs : List α)
    (h : Hub) : h.Reaches now P (xs.foldl f h) := by
  induction xs generalizing h with
  | nil => exact .refl
  | cons x xs ih => exact (hf h x).trans (ih (f h x))

end Reaches

/-! ## The atoms of a call -/

/-- What a sweep does. -/
inductive Atom.OfSweep : Atom → Prop
  | erase (id : DeviceId) : OfSweep (.erase id .expired)
  | log (line : LogLine) : OfSweep (.log line)
  | setLink (link : LinkId) (l : Link) : OfSweep (.setLink link l)

/-- What the bridge does to the registry when it hears of a connection under an id. -/
inductive Atom.OfBridge (id : DeviceId) : Atom → Prop
  | store (link : LinkId) : OfBridge id (.store id { id, link })
  | erase : OfBridge id (.erase id .disconnected)

/-- What watchers do when they hear of a connection under an id. -/
inductive Atom.OfWatcher (id : DeviceId) (link : LinkId) : Atom → Prop
  | hear (k : Nat) (state : LinkState) : OfWatcher id link (.hear k id link state)
  | log (line : LogLine) : OfWatcher id link (.log line)
  | bridge {a : Atom} : a.OfBridge id → OfWatcher id link a

/-- What a report of a connection leads to. -/
inductive Atom.OfReport : Atom → Prop
  | setLink (link : LinkId) (l : Link) : OfReport (.setLink link l)
  | setSlots (slots : Std.ExtTreeMap LinkId Slot) : OfReport (.setSlots slots)
  | watcher {id : DeviceId} {link : LinkId} {a : Atom} : a.OfWatcher id link → OfReport a

/-- The atoms that a call may come down to. -/
def Op.Makes : Op → Atom → Prop
  | .put p => (· = .store p.id p)
  | .getOrCreate id recipe =>
    fun a => (∃ p, recipe.Yields p ∧ a = .store id p) ∨ (∃ l, a = .openLink l) ∨ a = .poison
  | .remove id reason => (· = .erase id reason)
  | .removeIf id reason _ => fun a => a = .erase id reason ∨ a = .poison
  | .removeSilently id => (· = .eraseSilently id)
  | .touch id => (· = .touch id)
  | .recordSequence id n => (· = .recordSequence id n)
  | .sweep .. | .sweepOver .. => Atom.OfSweep
  | .openLink l => (· = .openLink l)
  | .send link _ | .close link | .alter link _ => fun a => ∃ l, a = .setLink link l
  | .reportActive .. | .reportInactive _ => Atom.OfReport
  | .addObserver o => (· = .addObserver o)
  | .addTally => (· = .addTally)
  | .takeTally k => (· = .takeTally k)
  | .addWatcher w => (· = .addWatcher w)
  | .log line => (· = .log line)
  | .report k load => fun a => a = .takeTally k ∨ ∃ churn, a = .report load.alarm churn

/-- The only call that makes an atom, where there is one for each atom of its kind. -/
def Atom.sole? : Atom → Option Op
  | .eraseSilently id => some (.removeSilently id)
  | .touch id => some (.touch id)
  | .recordSequence id n => some (.recordSequence id n)
  | _ => none

theorem Op.Makes.eq_of_sole {op op' : Op} {a : Atom} (ha : op.Makes a) (hop : a.sole? = some op') : op = op' := by
  cases op with
  | removeSilently id | touch id | recordSequence id n =>
    cases ha
    exact Option.some.inj hop
  | put p | remove id reason | openLink l | addObserver o | addTally | takeTally k | addWatcher w | log line =>
    cases ha
    cases hop
  | removeIf id reason check => obtain rfl | rfl := ha <;> cases hop
  | getOrCreate id recipe => obtain ⟨p, -, rfl⟩ | ⟨l, rfl⟩ | rfl := ha <;> cases hop
  | send link size | close link | alter link l =>
    obtain ⟨l, rfl⟩ := ha
    cases hop
  | sweep asOf limit | sweepOver asOf limit snapshot => cases ha <;> cases hop
  | reportActive id link | reportInactive link =>
    obtain _ | _ | (_ | _ | ha) := ha
    case bridge => cases ha <;> cases hop
    all_goals cases hop
  | report k load => obtain rfl | ⟨churn, rfl⟩ := ha <;> cases hop

variable {now : Int} {P : Atom → Prop}

theorem removeIf_drop (h : Hub) {id : DeviceId} {reason : RemovalReason} {check : Device → Verdict}
    {d : Device} (hd : h.registry.get? id = some d) (hc : check d = .drop) :
    h.removeIf now id reason check = (.removed d, h.atom now (.erase id reason)) := by
  simp [removeIf, atom, remove, hd, hc]

theorem removeIf_absent (h : Hub) {id : DeviceId} (reason : RemovalReason) (check : Device → Verdict)
    (hd : h.registry.get? id = none) : h.removeIf now id reason check = (.absent, h) := by
  simp [removeIf, hd]

theorem removeIf_keep (h : Hub) {id : DeviceId} (reason : RemovalReason) {check : Device → Verdict}
    {d : Device} (hd : h.registry.get? id = some d) (hc : check d = .keep) :
    h.removeIf now id reason check = (.kept, h) := by
  simp [removeIf, hd, hc]

/-- A check that panics leaves a poisoned lock behind, and nothing else. -/
theorem removeIf_panic (h : Hub) {id : DeviceId} (reason : RemovalReason) {check : Device → Verdict}
    {d : Device} {message : String} (hd : h.registry.get? id = some d) (hc : check d = .panic message) :
    h.removeIf now id reason check = (.panicked message, h.poison) := by
  simp [removeIf, hd, hc]

theorem reaches_removeIf (h : Hub) (id : DeviceId) (reason : RemovalReason)
    (check : Device → Verdict) (hP : P (.erase id reason)) (hpoison : ∀ d message, check d = .panic message → P .poison) :
    h.Reaches now P (h.removeIf now id reason check).2 := by
  cases hd : h.registry.get? id with
  | none => rw [removeIf_absent h reason check hd]; exact .refl
  | some d =>
    cases hc : check d with
    | keep => rw [removeIf_keep h reason hd hc]; exact .refl
    | panic message => rw [removeIf_panic h reason hd hc]; exact .single (hpoison d message hc)
    | drop => rw [removeIf_drop h hd hc]; exact .single hP

theorem reaches_callLink {α : Type} (h : Hub) (i : LinkId) (f : Link → α × Link)
    (hP : ∀ l, P (.setLink i l)) : h.Reaches now P (h.callLink i f).2 :=
  .single (a := .setLink i (f ((h.links[i]?).getD (.bare false))).2) (hP _)

theorem reaches_of_callLink {α : Type} {h h' : Hub} {i : LinkId} {f : Link → α × Link} {answer : α}
    (hq : h.callLink i f = (answer, h')) (hP : ∀ l, P (.setLink i l)) : h.Reaches now P h' := by
  have hcall : h.Reaches now P (h.callLink i f).2 := reaches_callLink h i f hP
  rwa [hq] at hcall

theorem getOrCreate_of_some (h : Hub) {id : DeviceId} (recipe : Recipe) {d : Device}
    (hd : h.registry.get? id = some d) : h.getOrCreate now id recipe = (.found d, h) := by
  simp [getOrCreate, hd]

theorem getOrCreate_of_none (h : Hub) {id : DeviceId} (recipe : Recipe) (hd : h.registry.get? id = none) :
    h.getOrCreate now id recipe = h.create now id recipe := by
  simp [getOrCreate, hd]

theorem reaches_getOrCreate (h : Hub) (id : DeviceId) (recipe : Recipe) :
    h.Reaches now (Op.getOrCreate id recipe).Makes (h.getOrCreate now id recipe).2 := by
  cases hd : h.registry.get? id with
  | some d => rw [getOrCreate_of_some h recipe hd]; exact .refl
  | none =>
    rw [getOrCreate_of_none h recipe hd]
    cases recipe with
    | make p => exact .single (a := .store id p) (.inl ⟨_, ⟨rfl, rfl⟩, rfl⟩)
    | makeOnNewLink own attributes =>
      exact (Reaches.single (a := .openLink (.counting {})) (.inr (.inl ⟨_, rfl⟩))).trans
        (.single (a := .store id _) (.inl ⟨_, ⟨rfl, rfl⟩, rfl⟩))
    | fail reason => exact .refl
    | panic message => exact .single (a := .poison) (.inr (.inr rfl))

/-- What a sweep does about a device that it has just removed. -/
def dismiss (h : Hub) (now asOf : Int) (d : Device) : Hub :=
  match (h.log now (.deviceExpired d.id (d.clock.idleFor asOf))).closeLink d.link with
  | (.ok _, h) => h
  | (.error e, h) => h.log now (.closeFailed d.id e)

theorem reaches_dismiss (h : Hub) (asOf : Int) (d : Device) :
    h.Reaches now Atom.OfSweep (h.dismiss now asOf d) := by
  have hlog : h.Reaches now Atom.OfSweep (h.log now (.deviceExpired d.id (d.clock.idleFor asOf))) :=
    .single (a := .log _) (.log _)
  unfold dismiss
  split
  · rename_i hc
    exact hlog.trans (reaches_of_callLink hc (.setLink d.link))
  · rename_i e _ hc
    exact (hlog.trans (reaches_of_callLink hc (.setLink d.link))).snoc (.log _)
      (.log (.closeFailed d.id e))

/-- The devices that a sweep removes: those silent for too long that are still under their own id. -/
def Evicts (h : Hub) (asOf : Int) (limit : Span) (d current : Device) : Prop :=
  h.registry.get? d.id = some current ∧ current.serial = d.serial ∧
    d.clock.isExpired asOf limit ∧ current.clock.isExpired asOf limit

theorem sweepDevice_evict (h : Hub) {asOf : Int} {limit : Span} (report : SweepReport) {d current : Device}
    (he : h.Evicts asOf limit d current) :
    (sweepDevice now asOf limit (h, report) d).1 =
      (h.atom now (.erase d.id .expired)).dismiss now asOf current := by
  obtain ⟨hd, hserial, hexp, hexp'⟩ := he
  have hdrop : h.removeIf now d.id .expired (fun current =>
      if current.serial = d.serial && current.clock.isExpired asOf limit then .drop else .keep) =
        (.removed current, h.atom now (.erase d.id .expired)) :=
    removeIf_drop h hd (by simp [hserial, hexp'])
  simp only [sweepDevice, hexp, hdrop, dismiss]
  simp only [Bool.not_true, Bool.false_eq_true, if_false]
  split <;> simp_all

theorem sweepDevice_spare (h : Hub) {asOf : Int} {limit : Span} (report : SweepReport) {d : Device}
    (hn : ∀ current, ¬h.Evicts asOf limit d current) :
    sweepDevice now asOf limit (h, report) d = (h, report) := by
  simp only [sweepDevice]
  split
  · rfl
  · rename_i hexp
    cases hd : h.registry.get? d.id with
    | none => rw [removeIf_absent h _ _ hd]
    | some current =>
      have hkeep : ¬(current.serial = d.serial ∧ current.clock.isExpired asOf limit) := fun hc =>
        hn current ⟨hd, hc.1, by simpa using hexp, hc.2⟩
      rw [removeIf_keep h _ hd (by simpa using hkeep)]

theorem reaches_sweepOver (h : Hub) (asOf : Int) (limit : Span) (snapshot : List Device) :
    h.Reaches now Atom.OfSweep (h.sweepOver now asOf limit snapshot).1 := by
  unfold sweepOver
  generalize ({ scanned := snapshot.length } : SweepReport) = report
  induction snapshot generalizing h report with
  | nil => exact .refl
  | cons d ds ih =>
    suffices h.Reaches now Atom.OfSweep (sweepDevice now asOf limit (h, report) d).1 from
      this.trans (ih _ _)
    by_cases he : ∃ current, h.Evicts asOf limit d current
    · obtain ⟨current, he⟩ := he
      rw [sweepDevice_evict h report he]
      exact (Reaches.single (.erase d.id)).trans (reaches_dismiss _ asOf current)
    · rw [sweepDevice_spare h report (not_exists.mp he)]
      exact .refl

theorem reaches_bridge (h : Hub) (id : DeviceId) (link : LinkId) (state : LinkState) :
    h.Reaches now (Atom.OfBridge id) (h.bridge now id link state) := by
  cases state with
  | active =>
    simp only [bridge]
    split
    · exact .refl
    · rw [put_eq]
      exact .single (a := .store id { id, link }) (.store _)
  | inactive =>
    refine reaches_removeIf h id .disconnected _ .erase fun d message hpanic => ?_
    split at hpanic <;> cases hpanic

/-- A watcher hears of a connection, and then the bridge works or a panic is logged. -/
theorem reaches_tellWatcher (h : Hub) (id : DeviceId) (link : LinkId) (state : LinkState) (k : Nat) :
    (h.hear now k id link state).Reaches now (fun a => a.OfBridge id ∨ ∃ line, a = .log line)
      (tellWatcher now id link state h k) := by
  cases hk : h.watchers[k]? with
  | none => simpa [tellWatcher, hear, hk] using Reaches.refl
  | some w =>
    simp only [tellWatcher, hear, hk]
    split
    · exact (reaches_bridge _ id link state).mono fun a ha => .inl ha
    · exact .refl
    · exact .refl
    · exact .single (a := .log _) (.inr ⟨_, rfl⟩)

theorem reaches_fire (h : Hub) (id : DeviceId) (link : LinkId) (state : LinkState) :
    h.Reaches now (Atom.OfWatcher id link) (h.fire now id link state) := by
  refine Reaches.foldl (fun h k => ?_) _ h
  refine (Reaches.single (a := .hear k id link state) (.hear k state)).trans ?_
  refine (reaches_tellWatcher h id link state k).mono ?_
  rintro a (ha | ⟨line, rfl⟩)
  · exact .bridge ha
  · exact .log line

theorem reaches_onActive (h : Hub) (id : DeviceId) (link : LinkId) :
    h.Reaches now Atom.OfReport (h.onActive now id link).2 := by
  have hask : ∀ {h h' : Hub} {answer}, h.isLinkOpen link = (answer, h') →
      h.Reaches now Atom.OfReport h' := fun hq => reaches_of_callLink hq (.setLink link)
  have hset : ∀ (h : Hub) slot, h.Reaches now Atom.OfReport (h.setSlot link slot) :=
    fun h slot => .single (a := .setSlots _) (.setSlots _)
  unfold onActive
  split
  · rename_i hq
    exact hask hq
  · rename_i h₁ hq
    dsimp only
    generalize (h₁.slot? link).getD ⟨id, .pending⟩ = slot
    have hslot : h.Reaches now Atom.OfReport (h₁.setSlot link slot) := (hask hq).trans (hset h₁ slot)
    split
    · exact hslot
    · split
      · rename_i h₂ hq₂
        refine ((hslot.trans (hask hq₂)).trans (hset h₂ { slot with phase := .active })).trans ?_
        exact (reaches_fire _ slot.id link .active).mono fun a => Atom.OfReport.watcher
      · rename_i h₂ hq₂
        exact (hslot.trans (hask hq₂)).snoc (.setSlots _) (.setSlots _)

theorem reaches_onInactive (h : Hub) (link : LinkId) :
    h.Reaches now Atom.OfReport (h.onInactive now link).2 := by
  unfold onInactive
  split
  · exact .refl
  · rename_i slot _
    have hset : h.Reaches now Atom.OfReport (h.setSlot link { slot with phase := .closed }) :=
      .single (a := .setSlots _) (.setSlots _)
    dsimp only
    split
    · refine (hset.trans ?_).snoc (.setSlots _) (.setSlots _)
      exact (reaches_fire _ slot.id link .inactive).mono fun a => Atom.OfReport.watcher
    · exact hset.snoc (.setSlots _) (.setSlots _)

/-- Every call comes down to atoms of its own. -/
theorem reaches_step (h : Hub) (op : Op) : h.Reaches now op.Makes (h.step now op) := by
  cases op with
  | put p =>
    rw [step, put_eq]
    exact .single (a := .store p.id p) rfl
  | getOrCreate id recipe => exact reaches_getOrCreate h id recipe
  | remove id reason => exact .single (a := .erase id reason) rfl
  | removeIf id reason check => exact reaches_removeIf h id reason check (.inl rfl) fun _ _ _ => .inr rfl
  | removeSilently id =>
    rw [step, removeSilently_eq]
    exact .single (a := .eraseSilently id) rfl
  | touch id => exact .single (a := .touch id) rfl
  | recordSequence id n => exact .single (a := .recordSequence id n) rfl
  | sweep asOf limit => exact reaches_sweepOver h asOf limit _
  | sweepOver asOf limit snapshot => exact reaches_sweepOver h asOf limit snapshot
  | openLink l => exact .single (a := .openLink l) rfl
  | send link size => exact reaches_callLink h link _ fun l => ⟨l, rfl⟩
  | close link => exact reaches_callLink h link _ fun l => ⟨l, rfl⟩
  | alter link l => exact reaches_callLink h link _ fun l => ⟨l, rfl⟩
  | reportActive id link => exact reaches_onActive h id link
  | reportInactive link => exact reaches_onInactive h link
  | addObserver o => exact .single (a := .addObserver o) rfl
  | addTally => exact .single (a := .addTally) rfl
  | takeTally k => exact .single (a := .takeTally k) rfl
  | addWatcher w => exact .single (a := .addWatcher w) rfl
  | log line => exact .single (a := .log line) rfl
  | report k load =>
    rw [step_report]
    exact (Reaches.single (a := .takeTally k) (.inl rfl)).snoc (.report _ _) (.inr ⟨_, rfl⟩)

end Hub

end Liveness
