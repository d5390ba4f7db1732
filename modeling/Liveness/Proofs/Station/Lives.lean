import Liveness.Proofs.Hub.Neighbours
import Liveness.Station.Simulation

/-!
# The life of a synthetic device

A synthetic device takes part in rounds of traffic until it falls silent.  When it has
been silent for too long a sweep evicts it, and the next round finds it gone and reports
its connection down.  `Life` is how far a device has come, `Life.next` what a moment that
matters makes of it, and `Shows` what a hub shows of it.  A device that is not concerned
shows the same as before (`Shows.same`); the one that is shows its next life after a
sweep (`Shows.sweep`) and after a round of its own (`Stands.deliver`).
-/

namespace Liveness

namespace SequenceMark

/-- The mark when all numbers below one were recorded, as far as a word counts. -/
def upTo (n : Nat) : SequenceMark := ⟨UInt64.ofNat (min n wordMax)⟩

theorem successor_ofNat {n : Nat} (hn : n < wordMax) : successor (UInt64.ofNat n) = UInt64.ofNat (n + 1) := by
  have hne : UInt64.ofNat n ≠ 18446744073709551615 := by
    intro heq
    have hnat : (UInt64.ofNat n).toNat = 18446744073709551615 := by rw [heq]; rfl
    rw [UInt64.toNat_ofNat'] at hnat
    unfold wordMax at hn
    omega
  rw [successor, if_neg hne, UInt64.ofNat_add]
  rfl

theorem record_upTo (n : Nat) : ((upTo n).record (UInt64.ofNat n)).2 = upTo (n + 1) := by
  by_cases hn : n < wordMax
  · have hlt : UInt64.ofNat n < UInt64.ofNat (n + 1) := by
      rw [UInt64.lt_iff_toNat_lt, UInt64.toNat_ofNat', UInt64.toNat_ofNat']
      unfold wordMax at hn
      omega
    simp only [upTo, record, successor_ofNat hn, Nat.min_eq_left (Nat.le_of_lt hn), if_pos hlt,
      Nat.min_eq_left (Nat.succ_le_of_lt hn)]
  · -- no word is larger than the mark
    have hmax : ∀ m : UInt64, ¬UInt64.ofNat wordMax < m := by
      intro m
      rw [UInt64.lt_iff_toNat_lt, UInt64.toNat_ofNat']
      have hm := m.toNat_lt
      unfold wordMax
      omega
    simp only [upTo, record, Nat.min_eq_right (Nat.le_of_not_lt hn),
      Nat.min_eq_right (Nat.le_trans (Nat.le_of_not_lt hn) (Nat.le_succ n)), if_neg (hmax _)]
    split <;> rfl

theorem last_upTo {n : Nat} (hn : n < wordMax) : (upTo (n + 1)).last = some (UInt64.ofNat n) := by
  have hne : UInt64.ofNat (n + 1) ≠ 0 := by
    intro heq
    have hnat : (UInt64.ofNat (n + 1)).toNat = 0 := by rw [heq]; rfl
    rw [UInt64.toNat_ofNat'] at hnat
    unfold wordMax at hn
    omega
  rw [last, upTo, Nat.min_eq_left (Nat.succ_le_of_lt hn)]
  simp only [if_neg hne]
  exact congrArg some (by simp [UInt64.ofNat_add])

end SequenceMark

namespace Station

/-! ## Lives -/

/-- What matters to synthetic devices. -/
inductive Pulse.Kind where
  /-- A round of traffic. -/
  | round
  /-- The last devices fall silent. -/
  | hush
  /-- A sweep by the schedule of the sweeper. -/
  | sweep
deriving DecidableEq, Repr

/-- A moment that matters to synthetic devices. -/
structure Pulse where
  kind : Pulse.Kind
  time : Int
deriving DecidableEq, Repr

/-- How far a synthetic device has come, and how many packets it has sent. -/
inductive Life where
  /-- It is in the registry; it was last seen at an instant. -/
  | online (talking : Bool) (packets : Nat) (seen : Int)
  | evicted (packets : Nat)
  /-- Its connection was reported down. -/
  | reported (packets : Nat)
deriving DecidableEq, Repr

namespace Life

def packets : Life → Nat
  | .online _ packets _ | .evicted packets | .reported packets => packets

/-- What a moment makes of a device.  It may be one of those that fall silent. -/
def next (born : Int) (limit : Span) (falls : Bool) : Life → Pulse → Life
  | .online true packets _, ⟨.round, now⟩ => .online true (packets + 1) now
  | .online talking packets seen, ⟨.hush, _⟩ => .online (talking && !falls) packets seen
  | .online talking packets seen, ⟨.sweep, now⟩ =>
    -- the mark of a device counts nanoseconds in one word
    if min seen (born + wordMax) + limit.nanos < now then .evicted packets else .online talking packets seen
  | .evicted packets, ⟨.round, _⟩ => .reported packets
  | life, _ => life

/-- What a connection has counted. -/
def link (k : Nat) : Life → CountingLink
  | .online _ packets _ =>
    { peer := peerAddress k, endpoint := simulationEndpoint, packets, bytes := 8 * packets }
  | .evicted packets =>
    { peer := peerAddress k, endpoint := simulationEndpoint, packets, bytes := 8 * packets, closed := true,
      closeCalls := 1 }
  | .reported packets =>
    { peer := peerAddress k, endpoint := simulationEndpoint, packets, bytes := 8 * packets, closed := true,
      closeCalls := 2 }

def slot? (id : DeviceId) : Life → Option Slot
  | .reported _ => none
  | _ => some ⟨id, .active⟩

/-- What observers of the registry are told. -/
def events (id : DeviceId) : Life → List DeviceEvent
  | .online .. => [.added id false]
  | _ => [.added id false, .removed id .expired]

/-- What watchers of the connections are told. -/
def callbacks (id : DeviceId) : Life → List Hub.Callback
  | .reported _ => [(id, .active), (id, .inactive)]
  | _ => [(id, .active)]

/-- Whether a device takes part in rounds, where that matters. -/
def Talks : Life → Bool → Prop
  | .online talking _ _, talks => talks = talking
  | .evicted _, _ => True
  | .reported _, talks => talks = false

/-- A device is not seen before it was there, nor later than now. -/
def Dated (born now : Int) : Life → Prop
  | .online _ _ seen => born ≤ seen ∧ seen ≤ now
  | _ => True

theorem Dated.mono {life : Life} {born now now' : Int} (h : life.Dated born now) (hle : now ≤ now') :
    life.Dated born now' := by
  cases life with
  | online talking packets seen => exact ⟨h.1, Int.le_trans h.2 hle⟩
  | evicted | reported => trivial

end Life

/-! ## What a hub shows -/

/-- The device of a peer that is online. -/
structure Represents (born : Int) (id : DeviceId) (l : LinkId) (packets : Nat) (seen : Int) (d : Device) : Prop where
  id : d.id = id
  link : d.link = l
  origin : d.clock.origin = born
  lastSeen : d.clock.lastSeen = min seen (born + wordMax)
  sequence : d.sequence = .upTo packets

/-- What a hub shows of the synthetic device of a number, since its connection was the next but so many to come
up. -/
structure Shows (start : Hub) (born : Int) (k : Nat) (life : Life) (h : Hub) : Prop where
  device : match life with
    | .online _ packets seen =>
      ∃ d, h.registry.get? (peerId k) = some d ∧ Represents born (peerId k) (start.links.size + k) packets seen d
    | _ => h.registry.get? (peerId k) = none
  link : h.links[start.links.size + k]? = some (.counting (life.link k))
  slot : h.slot? (start.links.size + k) = life.slot? (peerId k)
  events : ∀ i < start.observers.length, h.events i (peerId k) = start.events i (peerId k) ++ life.events (peerId k)
  observers : start.observers.length ≤ h.observers.length
  shown : ∀ w < start.watchers.length, h.shown w (start.links.size + k) =
    start.shown w (start.links.size + k) ++ life.callbacks (peerId k)
  watchers : start.watchers.length ≤ h.watchers.length

/-- What a simulation keeps of its device of a number. -/
structure Keeps (start : Hub) (k : Nat) (life : Life) (p : Peer) : Prop where
  id : p.id = peerId k
  link : p.link = start.links.size + k
  next : p.next = UInt64.ofNat life.packets
  talking : life.Talks p.talking

/-- The synthetic device of a number, with what its simulation and a hub show of it. -/
structure Stands (start : Hub) (born : Int) (k : Nat) (life : Life) (p : Peer) (h : Hub) : Prop where
  peer : Keeps start k life p
  shows : Shows start born k life h

variable {start h h' : Hub} {born now : Int} {k : Nat} {life : Life} {p : Peer} {limit : Span} {falls : Bool}

theorem Shows.same (hs : Shows start born k life h) (hd : Hub.SameDevice (peerId k) h h')
    (hl : Hub.SameLink (start.links.size + k) h h') : Shows start born k life h' where
  device := by
    have hdevice := hs.device
    rw [← hd.get?] at hdevice
    exact hdevice
  link := hl.link.trans hs.link
  slot := hl.slot.trans hs.slot
  events := fun i hi => (hd.events i).trans (hs.events i hi)
  observers := Nat.le_trans hs.observers hd.observers
  shown := fun w hw => (hl.shown w).trans (hs.shown w hw)
  watchers := Nat.le_trans hs.watchers hl.watchers

theorem Stands.same (hs : Stands start born k life p h) (hd : Hub.SameDevice (peerId k) h h')
    (hl : Hub.SameLink (start.links.size + k) h h') : Stands start born k life p h' :=
  ⟨hs.peer, hs.shows.same hd hl⟩

/-- A device that a sweep evicts is closed, and observers are told. -/
theorem Shows.evict {talking : Bool} {packets : Nat} {seen : Int}
    (hs : Shows start born k (.online talking packets seen) h)
    (hevicted : Hub.Evicted (peerId k) (start.links.size + k) h h') : Shows start born k (.evicted packets) h' where
  device := hevicted.get?
  link := by rw [hevicted.link, hs.link]; rfl
  slot := hevicted.slot.trans hs.slot
  events := fun i hi => by
    rw [hevicted.events i (Nat.lt_of_lt_of_le hi hs.observers), hs.events i hi, List.append_assoc]
    rfl
  observers := Nat.le_trans hs.observers hevicted.observers
  shown := fun w hw => (hevicted.shown w).trans (hs.shown w hw)
  watchers := Nat.le_trans hs.watchers hevicted.watchers

/-- No other device is on the connection of a number. -/
def Alone (start : Hub) (k : Nat) (h : Hub) : Prop :=
  ∀ id d, h.registry.get? id = some d → d.link = start.links.size + k → id = peerId k

/-- Sweeps leave alone what a simulation keeps. -/
theorem Keeps.sweep (hk : Keeps start k life p) : Keeps start k (life.next born limit falls ⟨.sweep, now⟩) p := by
  obtain ⟨hid, hlink, hnext, htalks⟩ := hk
  cases life with
  | online talking packets seen =>
    rw [Life.next]
    split
    · exact ⟨hid, hlink, hnext, trivial⟩
    · exact ⟨hid, hlink, hnext, htalks⟩
  | evicted | reported => exact ⟨hid, hlink, hnext, htalks⟩

/-- After a sweep a hub shows the next life. -/
theorem Shows.sweep (hs : Shows start born k life h) (hn : h.census.Numbered) (halone : Alone start k h) :
    Shows start born k (life.next born limit falls ⟨.sweep, now⟩) (h.sweep now now limit).1 := by
  cases life with
  | online talking packets seen =>
    obtain ⟨d, hd, hrep⟩ := hs.device
    have hpeer := Hub.peer_sweep hn hd hrep.id hrep.link halone now now limit
    simp only [LastSeen.isExpired_iff, hrep.lastSeen] at hpeer
    rw [Life.next]
    split at hpeer
    · rename_i hlate
      rw [if_pos hlate]
      exact hs.evict hpeer
    · rename_i hfresh
      rw [if_neg hfresh]
      exact hs.same hpeer.1 hpeer.2
  | evicted packets | reported packets =>
    obtain ⟨hd, hl⟩ := Hub.absent_sweep hs.device halone now now limit
    exact hs.same hd hl

/-! ## Rounds -/

/-- A device is seen and its connection sends a numbered packet. -/
def sendPacket (h : Hub) (now : Int) (id : DeviceId) (l : LinkId) (n : UInt64) : Hub :=
  (((h.touch now id).2.recordSequence id n).2.sendLink l 8).2

/-- A connection is closed and reported down. -/
def tearDown (h : Hub) (now : Int) (l : LinkId) : Hub := ((h.closeLink l).2.onInactive now l).2

/-- What a round does about a device. -/
def Life.round (now : Int) (p : Peer) (h : Hub) : Life → Peer × Hub
  | .online true _ _ => ({ p with next := p.next + 1 }, sendPacket h now p.id p.link p.next)
  | .evicted _ => ({ p with talking := false }, tearDown h now p.link)
  | .online false _ _ | .reported _ => (p, h)

theorem Stands.deliver_eq (hs : Stands start born k life p h) : Floor.deliver now h p = life.round now p h := by
  obtain ⟨id, link, talks, next⟩ := p
  obtain ⟨⟨rfl, rfl, -, htalks⟩, hshows⟩ := hs
  cases life with
  | online talking packets seen =>
    obtain ⟨d, hd, hrep⟩ := hshows.device
    obtain rfl : talks = talking := htalks
    cases talks with
    | false => simp only [Floor.deliver, hd, Bool.not_false, if_true, Life.round]
    | true =>
      simp only [Floor.deliver, hd, hrep.link, Bool.not_true, Bool.false_eq_true, if_false]
      rfl
  | evicted packets =>
    have hdevice : h.registry.get? (peerId k) = none := hshows.device
    have hslot : h.slot? (start.links.size + k) = some ⟨peerId k, .active⟩ := hshows.slot
    have hactive : (talks || h.isActive (start.links.size + k)) = true := by simp [Hub.isActive, hslot]
    simp only [Floor.deliver, hdevice, hactive, if_true]
    rfl
  | reported packets =>
    have hdevice : h.registry.get? (peerId k) = none := hshows.device
    have hslot : h.slot? (start.links.size + k) = none := hshows.slot
    obtain rfl : talks = false := htalks
    simp [Floor.deliver, hdevice, Hub.isActive, hslot, Life.round]

/-- A device that talks is seen, and its connection sends a packet with the next number. -/
theorem Shows.talk {talking : Bool} {packets : Nat} {seen : Int}
    (hs : Shows start born k (.online talking packets seen) h) (hseen : seen ≤ now) :
    Shows start born k (.online talking (packets + 1) now)
      (sendPacket h now (peerId k) (start.links.size + k) (UInt64.ofNat packets)) := by
  obtain ⟨d, hd, hrep⟩ := hs.device
  have htouched : (h.touch now (peerId k)).2.registry.get? (peerId k) = some (d.touch now) := by
    simp [Hub.touch, Registry.get?_update, hd]
  have hrecorded : ((h.touch now (peerId k)).2.recordSequence (peerId k) (UInt64.ofNat packets)).2 =
      { h with registry := ((h.touch now (peerId k)).2.registry.update (peerId k) fun _ =>
          { d.touch now with sequence := .upTo (packets + 1) }) } := by
    simp only [Hub.recordSequence, htouched]
    rw [show (d.touch now).sequence = .upTo packets from hrep.sequence, SequenceMark.record_upTo]
    rfl
  rw [sendPacket, hrecorded]
  refine ⟨⟨{ d.touch now with sequence := .upTo (packets + 1) }, ?_, ?_⟩, ?_, hs.slot, hs.events, hs.observers,
    hs.shown, hs.watchers⟩
  · simp [Hub.sendLink, Hub.callLink, Registry.get?_update, htouched]
  · refine ⟨hrep.id, hrep.link, hrep.origin, ?_, rfl⟩
    rw [← hrep.origin]
    have hshown : d.clock.lastSeen = min seen (d.clock.origin + wordMax) := by rw [hrep.lastSeen, hrep.origin]
    change (d.clock.touch now).lastSeen = min now (d.clock.origin + wordMax)
    rw [LastSeen.lastSeen_touch, hshown]
    omega
  · rw [Hub.sendLink, Hub.getElem?_callLink, hs.link]
    rfl

/-- A device that was evicted has its connection reported down. -/
theorem Shows.report {packets : Nat} (hs : Shows start born k (.evicted packets) h) :
    Shows start born k (.reported packets) (tearDown h now (start.links.size + k)) := by
  have hdown : Hub.WentDown (peerId k) (start.links.size + k) (h.closeLink (start.links.size + k)).2
      (tearDown h now (start.links.size + k)) := Hub.wentDown_onInactive hs.slot hs.device
  refine ⟨hdown.get?.trans hs.device, ?_, hdown.slot, fun i hi => (hdown.events i).trans (hs.events i hi),
    Nat.le_trans hs.observers hdown.observers, fun w hw => ?_, Nat.le_trans hs.watchers hdown.watchers⟩
  · rw [hdown.link, Hub.closeLink, Hub.getElem?_callLink, hs.link]
    rfl
  · refine (hdown.shown w (Nat.lt_of_lt_of_le hw hs.watchers)).trans ?_
    change h.shown w (start.links.size + k) ++ _ = _
    rw [hs.shown w hw, List.append_assoc]
    rfl

/-- A round makes the next life of a device. -/
theorem Stands.deliver (hs : Stands start born k life p h) (hdated : life.Dated born now) :
    Stands start born k (life.next born limit falls ⟨.round, now⟩) (Floor.deliver now h p).1
      (Floor.deliver now h p).2 := by
  rw [hs.deliver_eq]
  obtain ⟨⟨hid, hlink, hnext, htalks⟩, hshows⟩ := hs
  match life with
  | .online true packets seen =>
    have hnext' : p.next = UInt64.ofNat packets := hnext
    rw [Life.round, hid, hlink, hnext']
    exact ⟨⟨rfl, rfl, (UInt64.ofNat_add packets 1).symm, htalks⟩, hshows.talk hdated.2⟩
  | .evicted packets =>
    rw [Life.round, hlink]
    exact ⟨⟨hid, rfl, hnext, rfl⟩, hshows.report⟩
  | .online false _ _ | .reported _ => exact ⟨⟨hid, hlink, hnext, htalks⟩, hshows⟩

/-- A round of one device leaves all others and their connections alone. -/
theorem Stands.others (hs : Stands start born k life p h) (now : Int) :
    (∀ id, id ≠ peerId k → Hub.SameDevice id h (Floor.deliver now h p).2) ∧
      ∀ l, l ≠ start.links.size + k → Hub.SameLink l h (Floor.deliver now h p).2 := by
  rw [hs.deliver_eq]
  obtain ⟨⟨hid, hlink, -, -⟩, hshows⟩ := hs
  match life with
  | .online true packets seen =>
    rw [Life.round, hid, hlink]
    have hreaches : h.Reaches now (fun a => a = .touch (peerId k) ∨ a = .recordSequence (peerId k) p.next ∨
        ∃ x, a = .setLink (start.links.size + k) x)
        (sendPacket h now (peerId k) (start.links.size + k) p.next) :=
      ((Hub.Reaches.single (a := .touch (peerId k)) (.inl rfl)).snoc (.recordSequence _ _) (.inr (.inl rfl))).trans
        (Hub.reaches_callLink _ _ _ fun x => .inr (.inr ⟨x, rfl⟩))
    refine ⟨fun id hne => Hub.sameDevice_of_reaches ?_ hreaches, fun l hne => Hub.sameLink_of_reaches ?_ hreaches⟩
    · have hother : some (peerId k) ≠ some id := fun heq => hne (Option.some.inj heq).symm
      rintro a (rfl | rfl | ⟨x, rfl⟩)
      · exact hother
      · exact hother
      · exact nofun
    · rintro a (rfl | rfl | ⟨x, rfl⟩)
      · trivial
      · trivial
      · exact Ne.symm hne
  | .evicted packets =>
    rw [Life.round, hlink]
    have hslot : h.slot? (start.links.size + k) = some ⟨peerId k, .active⟩ := hshows.slot
    have hclosed : h.Reaches now (fun a => ∃ x, a = .setLink (start.links.size + k) x)
        (h.closeLink (start.links.size + k)).2 := Hub.reaches_callLink _ _ _ fun x => ⟨x, rfl⟩
    constructor
    · intro id hne
      refine (Hub.sameDevice_of_reaches ?_ hclosed).trans (Hub.sameDevice_onInactive hslot (Ne.symm hne))
      rintro a ⟨x, rfl⟩
      exact nofun
    · intro l hne
      refine (Hub.sameLink_of_reaches ?_ hclosed).trans (Hub.sameLink_onInactive hslot (Ne.symm hne))
      rintro a ⟨x, rfl⟩
      exact Ne.symm hne
  | .online false _ _ | .reported _ => exact ⟨fun id _ => .refl h, fun l _ => .refl h⟩

theorem Stands.hush (hs : Stands start born k life p h) (limit : Span) (falls : Bool) (now : Int) :
    Stands start born k (life.next born limit falls ⟨.hush, now⟩) (if falls then { p with talking := false } else p)
      h := by
  obtain ⟨⟨hid, hlink, hnext, htalks⟩, hshows⟩ := hs
  cases life with
  | online talking packets seen =>
    -- a hub does not show whether a device talks
    have hsame : ∀ talking', Shows start born k (.online talking' packets seen) h := fun _ =>
      ⟨hshows.device, hshows.link, hshows.slot, hshows.events, hshows.observers, hshows.shown, hshows.watchers⟩
    rw [Life.next]
    cases falls with
    | false => exact ⟨⟨hid, hlink, hnext, htalks.trans (Bool.and_true talking).symm⟩, hsame _⟩
    | true => exact ⟨⟨hid, hlink, hnext, (Bool.and_false talking).symm⟩, hsame _⟩
  | evicted packets => cases falls <;> exact ⟨⟨hid, hlink, hnext, trivial⟩, hshows⟩
  | reported packets =>
    cases falls with
    | false => exact ⟨⟨hid, hlink, hnext, htalks⟩, hshows⟩
    | true => exact ⟨⟨hid, hlink, hnext, rfl⟩, hshows⟩

/-! ## The start -/

/-- The connection of a number has come up, and is not reported yet. -/
structure Awaits (start : Hub) (k : Nat) (h : Hub) : Prop where
  device : h.registry.get? (peerId k) = none
  link : h.links[start.links.size + k]? = some (.counting { peer := peerAddress k, endpoint := simulationEndpoint })
  slot : h.slot? (start.links.size + k) = none
  events : ∀ i, h.events i (peerId k) = start.events i (peerId k)
  observers : start.observers.length ≤ h.observers.length
  shown : ∀ w, h.shown w (start.links.size + k) = start.shown w (start.links.size + k)
  watchers : start.watchers.length ≤ h.watchers.length

theorem Awaits.same (ha : Awaits start k h) (hd : Hub.SameDevice (peerId k) h h')
    (hl : Hub.SameLink (start.links.size + k) h h') : Awaits start k h' where
  device := hd.get?.trans ha.device
  link := hl.link.trans ha.link
  slot := hl.slot.trans ha.slot
  events := fun i => (hd.events i).trans (ha.events i)
  observers := Nat.le_trans ha.observers hd.observers
  shown := fun w => (hl.shown w).trans (ha.shown w)
  watchers := Nat.le_trans ha.watchers hl.watchers

theorem Awaits.onActive_eq (ha : Awaits start k h) :
    (h.onActive now (peerId k) (start.links.size + k)).2 =
      (h.setSlot (start.links.size + k) ⟨peerId k, .active⟩).fire now (peerId k) (start.links.size + k) .active :=
  Hub.onActive_of_open ha.link rfl ha.slot

/-- A connection that is reported up brings its device into the registry. -/
theorem Awaits.onActive {w : Nat} (ha : Awaits start k h) (hw : Hub.IsBridge w h) :
    Shows start now k (.online true 0 now) (h.onActive now (peerId k) (start.links.size + k)).2 := by
  rw [ha.onActive_eq]
  have hjoined : Hub.Joined now (peerId k) (start.links.size + k) (h.setSlot (start.links.size + k) ⟨peerId k, .active⟩)
      ((h.setSlot (start.links.size + k) ⟨peerId k, .active⟩).fire now (peerId k) (start.links.size + k) .active) :=
    Hub.joined_fire_active (h := h.setSlot (start.links.size + k) ⟨peerId k, .active⟩) hw _ ha.device
  obtain ⟨d, hd, hid, hlink, hclock, hsequence⟩ := hjoined.device
  have hwatchers : h.watchers.length ≤ ((h.setSlot (start.links.size + k) ⟨peerId k, .active⟩).fire now (peerId k)
      (start.links.size + k) .active).watchers.length :=
    (Hub.seen_fire (Hub.readsWatchers_shownTo? (k := 0) (l := start.links.size + k))
      (h.setSlot (start.links.size + k) ⟨peerId k, .active⟩) _ _ _).1
  refine ⟨⟨d, hd, hid, hlink, ?_, ?_, hsequence⟩, ?_, ?_, fun i hi => ?_, Nat.le_trans ha.observers hjoined.observers,
    fun v hv => ?_, Nat.le_trans ha.watchers hwatchers⟩
  · rw [hclock]
    rfl
  · rw [hclock, LastSeen.lastSeen_startingAt, Int.min_eq_left]
    omega
  · rw [Hub.links_fire]
    exact ha.link
  · rw [Hub.slot?, Hub.slots_fire]
    simp [Hub.setSlot, Life.slot?]
  · refine (hjoined.events i (Nat.lt_of_lt_of_le hi ha.observers)).trans ?_
    exact congrArg (· ++ [.added (peerId k) false]) (ha.events i)
  · refine (Hub.tells_fire (h.setSlot (start.links.size + k) ⟨peerId k, .active⟩)
      (Nat.lt_of_lt_of_le hv ha.watchers) (peerId k) (start.links.size + k) .active).shown
        (start.links.size + k) |>.trans ?_
    rw [if_pos rfl]
    exact congrArg (· ++ [(peerId k, LinkState.active)]) (ha.shown v)

theorem Awaits.others (ha : Awaits start k h) (now : Int) :
    (∀ id, id ≠ peerId k →
        Hub.SameDevice id h (h.onActive now (peerId k) (start.links.size + k)).2) ∧
      ∀ l, l ≠ start.links.size + k →
        Hub.SameLink l h (h.onActive now (peerId k) (start.links.size + k)).2 := by
  rw [ha.onActive_eq]
  refine ⟨fun id hid => ?_, fun l hl => ?_⟩
  · exact (Hub.sameDevice_setSlot h _ _).trans (Hub.sameDevice_fire _ (Ne.symm hid) _ .active)
  · exact (Hub.sameLink_setSlot h (Ne.symm hl) _).trans (Hub.sameLink_fire _ _ (Ne.symm hl) .active)

theorem peerId_inj {j k : Nat} (h : peerId j = peerId k) : j = k := by
  have hvalue : ∀ n m, Nat.ofDigitChars 10 (List.replicate m '0' ++ Nat.toDigits 10 n) 0 = n := by
    intro n m
    induction m with
    | zero => exact Nat.ofDigitChars_ten_toDigits
    | succ m ih =>
      rw [List.replicate_succ, List.cons_append, Nat.ofDigitChars_cons]
      exact ih
  have hdigits := congrArg String.toList h
  simp only [peerId, String.toList_append, String.toList_ofList, List.append_assoc, List.append_cancel_left_eq,
    Nat.toString_eq_repr, Nat.toList_repr] at hdigits
  rw [← hvalue j, hdigits, hvalue]

end Station

end Liveness
