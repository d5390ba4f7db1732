import Liveness.Proofs.Hub.Panics

/-!
# A poisoned lock

Makers and checks run under the lock under which the registry is changed, so one that
panics leaves the lock poisoned for all who come later.  They take it all the same
(`Hub.locked_eq`), and so two hubs that differ in nothing but their locks answer every
call alike and still differ in nothing else after it (`Hub.unaffected_step`).

What poisons no lock commutes with `Hub.withPoison`; the calls that may poison it do so
up to the lock that they leave.
-/

namespace Liveness.Hub

/-- A hub as it would be if someone had panicked under its lock, or if no one had. -/
def withPoison (h : Hub) (b : Bool) : Hub := { h with poisoned := b }

@[simp] theorem withPoison_self (h : Hub) : h.withPoison h.poisoned = h := rfl

@[simp] theorem withPoison_withPoison (h : Hub) (b b' : Bool) : (h.withPoison b).withPoison b' = h.withPoison b' := rfl

variable {h : Hub} {now : Int} {b : Bool}

/-- Steps that do not heed the lock, one after the other. -/
theorem foldl_withPoison {α : Type} {f : Hub → α → Hub}
    (hf : ∀ h x, f (h.withPoison b) x = (f h x).withPoison b) (xs : List α) (h : Hub) :
    xs.foldl f (h.withPoison b) = (xs.foldl f h).withPoison b := by
  induction xs generalizing h with
  | nil => rfl
  | cons x xs ih => rw [List.foldl_cons, List.foldl_cons, hf, ih]

theorem foldl_snd_withPoison {α β : Type} {f : β × Hub → α → β × Hub}
    (hf : ∀ y h x, f (y, h.withPoison b) x = ((f (y, h) x).1, (f (y, h) x).2.withPoison b)) (xs : List α) (y : β)
    (h : Hub) :
    xs.foldl f (y, h.withPoison b) = ((xs.foldl f (y, h)).1, (xs.foldl f (y, h)).2.withPoison b) := by
  induction xs generalizing y h with
  | nil => rfl
  | cons x xs ih => rw [List.foldl_cons, List.foldl_cons, hf, ih]

/-! ## What does not heed the lock -/

theorem act_withPoison (h : Hub) (now : Int) (n : Notice) (role : ObserverRole) :
    (h.withPoison b).act now n role = (h.act now n role).withPoison b := by
  cases role <;> rfl

theorem tell_withPoison (now : Int) (n : Notice) (h : Hub) (i : Nat) :
    tell now n (h.withPoison b) i = (tell now n h i).withPoison b := by
  cases hi : h.observers[i]? with
  | none => simp only [tell, withPoison, hi]
  | some o =>
    cases hc : o.conduct o.heard with
    | acts =>
      simp only [tell, withPoison, hi, hc]
      exact act_withPoison ({ h with observers := h.observers.set i { o with heard := o.heard + 1 } }.emit now
        (.observed i n (h.registry.contains n.id))) now n o.role
    | ignores => simp only [tell, withPoison, hi, hc, emit]
    | panics p => simp only [tell, withPoison, hi, hc, emit, log]

theorem announce_withPoison (h : Hub) (now : Int) (n : Notice) :
    (h.withPoison b).announce now n = (h.announce now n).withPoison b := by
  have hfold : (List.range h.observers.length).foldl (tell now n) (h.withPoison b) =
      ((List.range h.observers.length).foldl (tell now n) h).withPoison b :=
    foldl_withPoison (tell_withPoison now n) _ h
  unfold announce
  rw [show (h.withPoison b).observers = h.observers from rfl, hfold]
  rfl

theorem storeAs_withPoison (h : Hub) (now : Int) (key : DeviceId) (p : Profile) :
    (h.withPoison b).storeAs now key p =
      ((h.storeAs now key p).1, (h.storeAs now key p).2.1, (h.storeAs now key p).2.2.withPoison b) := by
  refine Prod.ext rfl (Prod.ext rfl ?_)
  exact announce_withPoison { h with registry := (h.registry.store key p now).2.2 } now _

theorem put_withPoison (h : Hub) (now : Int) (p : Profile) :
    (h.withPoison b).put now p = ((h.put now p).1, (h.put now p).2.withPoison b) := by
  rw [put_eq, put_eq, storeAs_withPoison]

theorem atom_erase_withPoison (h : Hub) (now : Int) (id : DeviceId) (reason : RemovalReason) :
    (h.withPoison b).atom now (.erase id reason) = (h.atom now (.erase id reason)).withPoison b := by
  cases hd : h.registry.get? id with
  | none => rw [atom_erase_of_none reason hd, atom_erase_of_none reason (h := h.withPoison b) hd]
  | some d =>
    rw [atom_erase_of_some reason hd, atom_erase_of_some reason (h := h.withPoison b) hd]
    exact announce_withPoison { h with registry := h.registry.erase id } now _

/-- A check that only compares does not panic. -/
theorem drops_ne_panic (p : Prop) [Decidable p] (message : String) :
    (if p then Verdict.drop else Verdict.keep) ≠ .panic message := by
  split
  all_goals
    intro heq
    cases heq

/-- A removal that asks no check that panics. -/
theorem removeIf_withPoison (h : Hub) (now : Int) (id : DeviceId) (reason : RemovalReason)
    {check : Device → Verdict} (hcheck : ∀ d message, check d ≠ .panic message) :
    (h.withPoison b).removeIf now id reason check =
      ((h.removeIf now id reason check).1, (h.removeIf now id reason check).2.withPoison b) := by
  cases hd : h.registry.get? id with
  | none => rw [removeIf_absent h reason check hd, removeIf_absent (h.withPoison b) reason check hd]
  | some d =>
    cases hc : check d with
    | keep => rw [removeIf_keep h reason hd hc, removeIf_keep (h.withPoison b) reason hd hc]
    | panic message => exact absurd hc (hcheck d message)
    | drop =>
      rw [removeIf_drop h hd hc, removeIf_drop (h.withPoison b) hd hc, atom_erase_withPoison]

theorem callLink_withPoison {α : Type} (h : Hub) (i : LinkId) (f : Link → α × Link) :
    (h.withPoison b).callLink i f = ((h.callLink i f).1, (h.callLink i f).2.withPoison b) := rfl

theorem sweepDevice_withPoison (now asOf : Int) (limit : Span) (h : Hub) (report : SweepReport) (d : Device) :
    sweepDevice now asOf limit (h.withPoison b, report) d =
      ((sweepDevice now asOf limit (h, report) d).1.withPoison b, (sweepDevice now asOf limit (h, report) d).2) := by
  unfold sweepDevice
  dsimp only
  split
  · rfl
  · rw [removeIf_withPoison h now d.id .expired fun _ => drops_ne_panic _]
    generalize h.removeIf now d.id .expired _ = r
    obtain ⟨removal, h₁⟩ := r
    cases removal with
    | removed evicted =>
      dsimp only
      rw [show (h₁.withPoison b).log now (.deviceExpired evicted.id (evicted.clock.idleFor asOf)) =
        (h₁.log now (.deviceExpired evicted.id (evicted.clock.idleFor asOf))).withPoison b from rfl]
      rw [closeLink, callLink_withPoison]
      unfold closeLink
      generalize Hub.callLink _ _ _ = r
      obtain ⟨delivery, h₂⟩ := r
      cases delivery <;> rfl
    | absent | kept | panicked => rfl

theorem sweepOver_withPoison (h : Hub) (now asOf : Int) (limit : Span) (snapshot : List Device) :
    (h.withPoison b).sweepOver now asOf limit snapshot =
      ((h.sweepOver now asOf limit snapshot).1.withPoison b, (h.sweepOver now asOf limit snapshot).2) := by
  unfold sweepOver
  generalize ({ scanned := snapshot.length } : SweepReport) = report
  induction snapshot generalizing h report with
  | nil => rfl
  | cons d ds ih =>
    rw [List.foldl_cons, List.foldl_cons, sweepDevice_withPoison]
    exact ih _ _

theorem sweep_withPoison (h : Hub) (now asOf : Int) (limit : Span) :
    (h.withPoison b).sweep now asOf limit = ((h.sweep now asOf limit).1.withPoison b, (h.sweep now asOf limit).2) :=
  sweepOver_withPoison h now asOf limit h.snapshot

/-! ### Connections -/

theorem bridge_withPoison (h : Hub) (now : Int) (id : DeviceId) (link : LinkId) (state : LinkState) :
    (h.withPoison b).bridge now id link state = (h.bridge now id link state).withPoison b := by
  cases state with
  | active =>
    simp only [bridge]
    rw [put_withPoison, show (h.withPoison b).registry = h.registry from rfl]
    split <;> rfl
  | inactive =>
    simp only [bridge]
    rw [removeIf_withPoison h now id .disconnected fun _ => drops_ne_panic _]

theorem tellWatcher_withPoison (now : Int) (id : DeviceId) (link : LinkId) (state : LinkState) (h : Hub) (i : Nat) :
    tellWatcher now id link state (h.withPoison b) i = (tellWatcher now id link state h i).withPoison b := by
  cases hi : h.watchers[i]? with
  | none => simp only [tellWatcher, withPoison, hi]
  | some w =>
    have hheard : ∀ h : Hub, { h.withPoison b with watchers := h.watchers.set i { w with heard := w.heard + 1 } }.emit
        now (.watched i id link state) =
      ({ h with watchers := h.watchers.set i { w with heard := w.heard + 1 } }.emit now
        (.watched i id link state)).withPoison b := fun _ => rfl
    simp only [tellWatcher, show (h.withPoison b).watchers = h.watchers from rfl, hi, hheard]
    cases w.conduct w.heard with
    | acts =>
      cases w.role with
      | idle => rfl
      | bridge => exact bridge_withPoison _ now id link state
    | ignores | panics => rfl

theorem fire_withPoison (h : Hub) (now : Int) (id : DeviceId) (link : LinkId) (state : LinkState) :
    (h.withPoison b).fire now id link state = (h.fire now id link state).withPoison b :=
  foldl_withPoison (tellWatcher_withPoison now id link state) (List.range h.watchers.length) h

theorem onActive_withPoison (h : Hub) (now : Int) (id : DeviceId) (link : LinkId) :
    (h.withPoison b).onActive now id link = ((h.onActive now id link).1, (h.onActive now id link).2.withPoison b) := by
  unfold onActive isLinkOpen
  rw [callLink_withPoison]
  generalize h.callLink link Link.isOpen = r
  obtain ⟨isOpen, h₁⟩ := r
  cases isOpen with
  | false => rfl
  | true =>
    dsimp only
    rw [show (h₁.withPoison b).slot? link = h₁.slot? link from rfl]
    generalize (h₁.slot? link).getD ⟨id, .pending⟩ = slot
    split
    · rfl
    · rw [show (h₁.withPoison b).setSlot link slot = (h₁.setSlot link slot).withPoison b from rfl, callLink_withPoison]
      generalize (h₁.setSlot link slot).callLink link Link.isOpen = r
      obtain ⟨isOpen, h₂⟩ := r
      cases isOpen with
      | false => rfl
      | true => exact congrArg (Prod.mk true) (fire_withPoison (h₂.setSlot link { slot with phase := .active }) now _ _ _)

theorem onInactive_withPoison (h : Hub) (now : Int) (link : LinkId) :
    (h.withPoison b).onInactive now link = ((h.onInactive now link).1, (h.onInactive now link).2.withPoison b) := by
  unfold onInactive
  rw [show (h.withPoison b).slot? link = h.slot? link from rfl]
  cases h.slot? link with
  | none => rfl
  | some slot =>
    dsimp only
    split
    · refine congrArg (Prod.mk true) ?_
      rw [show (h.withPoison b).setSlot link { slot with phase := .closed } =
        (h.setSlot link { slot with phase := .closed }).withPoison b from rfl, fire_withPoison]
      rfl
    · rfl

/-! ## Calls -/

/-- A call on a hub and the same call on the hub with another lock: the answers are the same, and so are the hubs
after them but for their locks. -/
structure Unaffected {α : Type} (r r' : α × Hub) : Prop where
  answer : r'.1 = r.1
  hub : ∃ b, r'.2 = r.2.withPoison b

theorem Unaffected.of_eq {α : Type} {r r' : α × Hub} {b : Bool} (heq : r' = (r.1, r.2.withPoison b)) :
    Unaffected r r' := ⟨by rw [heq], b, by rw [heq]⟩

theorem Unaffected.map {α β : Type} {r r' : α × Hub} (hr : Unaffected r r') (f : α → β) :
    Unaffected (f r.1, r.2) (f r'.1, r'.2) := ⟨congrArg f hr.answer, hr.hub⟩

/-- A creation leaves the lock as its maker does: poisoned, if it panics. -/
theorem unaffected_getOrCreate (h : Hub) (b : Bool) (now : Int) (id : DeviceId) (recipe : Recipe) :
    Unaffected (h.getOrCreate now id recipe) ((h.withPoison b).getOrCreate now id recipe) := by
  cases hd : h.registry.get? id with
  | some d =>
    rw [getOrCreate_of_some h recipe hd, getOrCreate_of_some (h.withPoison b) recipe hd]
    exact ⟨rfl, b, rfl⟩
  | none =>
    rw [getOrCreate_of_none h recipe hd, getOrCreate_of_none (h.withPoison b) recipe hd]
    cases recipe with
    | make p =>
      simp only [create, storeAs_withPoison]
      exact ⟨rfl, b, rfl⟩
    | makeOnNewLink own attributes =>
      have hopen : (h.withPoison b).openLink (.counting {}) =
          ((h.openLink (.counting {})).1, (h.openLink (.counting {})).2.withPoison b) := rfl
      simp only [create, hopen, storeAs_withPoison]
      exact ⟨rfl, b, rfl⟩
    | fail reason => exact ⟨rfl, b, rfl⟩
    | panic message => exact ⟨rfl, true, rfl⟩

theorem unaffected_removeIf (h : Hub) (b : Bool) (now : Int) (id : DeviceId) (reason : RemovalReason)
    (check : Device → Verdict) :
    Unaffected (h.removeIf now id reason check) ((h.withPoison b).removeIf now id reason check) := by
  cases hd : h.registry.get? id with
  | none =>
    rw [removeIf_absent h reason check hd, removeIf_absent (h.withPoison b) reason check hd]
    exact ⟨rfl, b, rfl⟩
  | some d =>
    cases hc : check d with
    | keep =>
      rw [removeIf_keep h reason hd hc, removeIf_keep (h.withPoison b) reason hd hc]
      exact ⟨rfl, b, rfl⟩
    | panic message =>
      rw [removeIf_panic h reason hd hc, removeIf_panic (h.withPoison b) reason hd hc]
      exact ⟨rfl, true, rfl⟩
    | drop =>
      rw [removeIf_drop h hd hc, removeIf_drop (h.withPoison b) hd hc, atom_erase_withPoison]
      exact ⟨rfl, b, rfl⟩

/-- No call heeds the lock. -/
theorem unaffected_step (h : Hub) (b : Bool) (now : Int) (op : Op) :
    Unaffected (h.reply now op, h.step now op) ((h.withPoison b).reply now op, (h.withPoison b).step now op) := by
  cases op with
  | put p => exact (Unaffected.of_eq (put_withPoison h now p)).map Reply.found
  | getOrCreate id recipe => exact (unaffected_getOrCreate h b now id recipe).map Reply.creation
  | remove id reason =>
    have hremoved := unaffected_removeIf h b now id reason fun _ => .drop
    obtain ⟨hanswer, b', hhub⟩ := hremoved
    simp only [reply, step, remove]
    generalize h.removeIf now id reason _ = r at *
    generalize (h.withPoison b).removeIf now id reason _ = r' at *
    obtain ⟨removal, h₁⟩ := r
    obtain ⟨removal', h₁'⟩ := r'
    obtain rfl : removal' = removal := hanswer
    cases removal' <;> exact ⟨rfl, b', hhub⟩
  | removeIf id reason check => exact (unaffected_removeIf h b now id reason check).map Reply.removal
  | removeSilently id =>
    simp only [reply, step, removeSilently_eq]
    exact ⟨rfl, b, rfl⟩
  | recordSequence id n =>
    simp only [reply, step, recordSequence, show (h.withPoison b).registry = h.registry from rfl]
    cases h.registry.get? id <;> exact ⟨rfl, b, rfl⟩
  | sweep asOf limit =>
    simp only [reply, step, sweep_withPoison]
    exact ⟨rfl, b, rfl⟩
  | sweepOver asOf limit snapshot =>
    simp only [reply, step, sweepOver_withPoison]
    exact ⟨rfl, b, rfl⟩
  | reportActive id link => exact (Unaffected.of_eq (onActive_withPoison h now id link)).map Reply.fired
  | reportInactive link => exact (Unaffected.of_eq (onInactive_withPoison h now link)).map Reply.fired
  | report k load =>
    refine ⟨rfl, b, ?_⟩
    rw [step_report, step_report]
    rfl
  | touch | openLink | send | close | alter | addObserver | addTally | takeTally | addWatcher | log =>
    exact ⟨rfl, b, rfl⟩

end Liveness.Hub
