import Liveness.Proofs.Maps
import Liveness.Proofs.Station.Opening

/-!
# Simulations from end to end

A simulation is started where nothing is registered, with a sweeper at work and a bridge
between devices and connections, and all that is ordered later is aside.  Then its devices
come and go as they should, at every moment of the run (`Scene.Unfolds`): those that talk
stay, those that fall silent are evicted by the first sweep past their deadline and reported
by the next round, and no one else appears.
-/

namespace Liveness.Station

/-! ## What shows of the devices -/

/-- A device that is there, active on its own open connection, and has sent so many packets. -/
structure OnAir (start : Hub) (k packets : Nat) (h : Hub) : Prop where
  device : ∃ d, h.registry.get? (peerId k) = some d ∧ d.link = start.links.size + k ∧
    (0 < packets → packets ≤ wordMax → d.sequence.last = some (UInt64.ofNat (packets - 1)))
  link : h.links[start.links.size + k]? = some (.counting
    { peer := peerAddress k, endpoint := simulationEndpoint, packets, bytes := 8 * packets })
  slot : h.slot? (start.links.size + k) = some ⟨peerId k, .active⟩

/-- What becomes of a device that has fallen silent after a part of a course, in the rest of it.  It goes at the
first sweep that is late for it, and is reported by the next round. -/
structure FallsSilent (born : Int) (limit : Span) (before after : List Pulse) (life : Life) : Prop where
  stays : (∀ t ∈ times .sweep after, t ≤ deadline born limit (lastSeen born before)) →
    life = .online false (times .round before).length (lastSeen born before)
  goes : ∀ (calm : List Pulse) (t : Int) (rest : List Pulse), after = calm ++ ⟨.sweep, t⟩ :: rest →
    (∀ t' ∈ times .sweep calm, t' ≤ deadline born limit (lastSeen born before)) →
    deadline born limit (lastSeen born before) < t →
    life = if times .round rest = [] then .evicted (times .round before).length
      else .reported (times .round before).length

namespace Scene

/-- Just the devices that do not fall silent are left. -/
structure Settled (c : Scene) (s : Station) : Prop where
  devices : ∀ id, s.hub.registry.contains id = true ↔ ∃ k < c.devices - c.silent, id = peerId k
  size : s.hub.registry.size = c.devices - c.silent
  connections : ∀ l, s.hub.isActive l = true ↔ ∃ k < c.devices - c.silent, l = c.start.links.size + k
  active : s.hub.activeConnections = c.devices - c.silent
  talking : s.talking c.simulation = c.devices - c.silent

/-- What a simulation has come to in a course, as far as marks hold out to some horizon. -/
structure Unfolds (c : Scene) (horizon : Int) (course : List Pulse) (s : Station) : Prop where
  /-- Work has run at the first instants of its schedule. -/
  timetable : ∀ kind, (times kind course).map some =
    (List.range (times kind course).length).map (c.timetable.schedule kind)
  devices : ∀ k < c.devices, Shows c.start c.timetable.born k (c.fate k course) s.hub
  noOneElse : (∀ id, (∀ k < c.devices, id ≠ peerId k) → s.hub.registry.get? id = none) ∧
    ∀ l, (∀ k < c.devices, l ≠ c.start.links.size + k) → s.hub.slot? l = none
  /-- Before the silence all devices talk, and after it all but the last ones. -/
  talking : s.now ≤ horizon → ∀ k < c.devices, k < c.devices - c.silent ∨ times .hush course = [] →
    c.fate k course = .online true (times .round course).length (lastSeen c.timetable.born course) ∧
      OnAir c.start k (times .round course).length s.hub
  silent : ∀ before hush after, course = before ++ ⟨.hush, hush⟩ :: after → hush ≤ horizon →
    ∀ k < c.devices, c.devices - c.silent ≤ k →
      FallsSilent c.timetable.born c.limit before after (c.fate k course)
  settled : s.now ≤ horizon →
    (∀ k < c.devices, c.devices - c.silent ≤ k → ∃ packets, c.fate k course = .reported packets) → c.Settled s

end Scene

section

variable {start h : Hub} {born horizon : Int} {k n : Nat} {s : Station} {c : Scene} {course : List Pulse}

theorem Shows.onAir {talking : Bool} {packets : Nat} {seen : Int}
    (hs : Shows start born k (.online talking packets seen) h) : OnAir start k packets h := by
  obtain ⟨d, hd, hrep⟩ := hs.device
  refine ⟨⟨d, hd, hrep.link, fun hpos hmax => ?_⟩, hs.link, hs.slot⟩
  obtain ⟨n, rfl⟩ := Nat.exists_eq_add_one_of_ne_zero (Nat.ne_of_gt hpos)
  rw [hrep.sequence]
  exact SequenceMark.last_upTo (Nat.lt_of_succ_le hmax)

/-! ## Counting -/

theorem length_of_mem_iff {α : Type} {keys : List α} (hnodup : keys.Nodup) {g : Nat → α} (hg : g.Injective)
    (hmem : ∀ a, a ∈ keys ↔ ∃ k < n, a = g k) : keys.length = n := by
  have hperm : keys.Perm ((List.range n).map g) := by
    have hrange : ((List.range n).map g).Nodup :=
      List.Pairwise.map g (fun _ _ hne heq => hne (hg heq)) List.nodup_range
    refine (List.perm_ext_iff_of_nodup hnodup hrange).mpr fun a => ?_
    rw [hmem, List.mem_map]
    simp only [List.mem_range, eq_comm]
  rw [hperm.length_eq, List.length_map, List.length_range]

/-- If no one is there but some of the first, and those are there that come before a bound, then no one else is. -/
theorem iff_exists_of_lt_iff {α : Type} {p : α → Prop} {g : Nat → α} {m : Nat} (hle : m ≤ n)
    (honly : ∀ a, (∀ k < n, a ≠ g k) → ¬p a) (hfirst : ∀ k < n, p (g k) ↔ k < m) (a : α) :
    p a ↔ ∃ k < m, a = g k := by
  constructor
  · intro ha
    have hone : ∃ k < n, a = g k := by
      by_contra hnone
      exact honly a (fun k hk heq => hnone ⟨k, hk, heq⟩) ha
    obtain ⟨k, hk, rfl⟩ := hone
    exact ⟨k, (hfirst k hk).mp ha, rfl⟩
  · rintro ⟨k, hk, rfl⟩
    exact (hfirst k (Nat.lt_of_lt_of_le hk hle)).mpr hk

theorem size_of_contains_iff (hdevices : ∀ id, h.registry.contains id = true ↔ ∃ k < n, id = peerId k) :
    h.registry.size = n := by
  have hsize : h.registry.entries.keys.length = n := by
    refine length_of_mem_iff ?_ (fun _ _ => peerId_inj) fun id => ?_
    · refine (Std.ExtTreeMap.distinct_keys (t := h.registry.entries)).imp ?_
      rintro id id' hne rfl
      exact hne Std.ReflCmp.compare_self
    · rw [Std.ExtTreeMap.mem_keys, ← Std.ExtTreeMap.contains_iff_mem]
      exact hdevices id
  rw [← hsize]
  exact Std.ExtTreeMap.length_keys.symm

theorem activeConnections_of_isActive_iff {g : Nat → LinkId} (hg : g.Injective)
    (hconnections : ∀ l, h.isActive l = true ↔ ∃ k < n, l = g k) : h.activeConnections = n := by
  obtain ⟨keys, hnodup, hmem, hlength⟩ := length_filter_values h.slots (·.phase == .active)
  refine hlength.trans (length_of_mem_iff hnodup hg fun l => (hmem l).trans (Iff.trans ?_ (hconnections l)))
  rw [Hub.isActive, Hub.slot?]
  cases h.slots[l]? <;> simp

/-- The peers that talk are counted, if they are just the first ones. -/
theorem size_filter_talking {peers : Array Peer} (hn : n ≤ peers.size)
    (hpeers : ∀ k p, peers[k]? = some p → p.talking = decide (k < n)) : (peers.filter (·.talking)).size = n := by
  have hfirst : (peers.toList.take n).filter (·.talking) = peers.toList.take n := by
    refine List.filter_eq_self.mpr fun p hp => ?_
    obtain ⟨k, hk⟩ := List.mem_iff_getElem?.mp hp
    rw [List.getElem?_take] at hk
    split at hk
    · rename_i hlt
      rw [hpeers k p (Array.getElem?_toList ▸ hk), decide_eq_true hlt]
    · cases hk
  have hrest : (peers.toList.drop n).filter (·.talking) = [] := by
    refine List.filter_eq_nil_iff.mpr fun p hp => ?_
    obtain ⟨k, hk⟩ := List.mem_iff_getElem?.mp hp
    rw [List.getElem?_drop] at hk
    rw [hpeers (n + k) p (Array.getElem?_toList ▸ hk)]
    simp
  rw [← Array.length_toList, Array.toList_filter, ← List.take_append_drop n peers.toList, List.filter_append, hfirst,
    hrest, List.append_nil, List.length_take, Array.length_toList, Nat.min_eq_left hn]

/-! ## Simulations at play -/

namespace Scene.Playing

theorem peer (hp : c.Playing course s) : ∃ sim, s.floor.simulations[c.simulation]? = some sim ∧
    sim.peers.size = c.devices ∧ ∀ k p, sim.peers[k]? = some p → Keeps c.start k (c.fate k course) p := by
  obtain ⟨sim, hsim, -, hsize, hpeers⟩ := hp.peopled.simulation
  exact ⟨sim, hsim, hsize, fun k p hk => (hpeers k p hk).peer⟩

theorem shows (hp : c.Playing course s) (hk : k < c.devices) :
    Shows c.start c.timetable.born k (c.fate k course) s.hub := by
  obtain ⟨sim, -, -, hsize, hpeers⟩ := hp.peopled.simulation
  exact (hpeers k _ (Array.getElem?_eq_getElem (hsize ▸ hk))).shows

theorem fate_talks (hp : c.Playing course s) (hwithin : c.timetable.Within c.limit horizon) (hnow : s.now ≤ horizon)
    (htalks : k < c.devices - c.silent ∨ times .hush course = []) :
    c.fate k course = .online true (times .round course).length (lastSeen c.timetable.born course) :=
  hp.onTime.fate_talks hwithin hnow (htalks.imp_left fun hk => decide_eq_false (Nat.not_le.mpr hk))

/-- No device falls silent before the others do. -/
theorem times_hush_left (hp : c.Playing course s) (honce : c.timetable.schedule .hush 1 = none)
    {before after : List Pulse} {hush : Int} (hcourse : course = before ++ ⟨.hush, hush⟩ :: after) :
    times .hush before = [] := by
  have htimes := hp.onTime.times_eq .hush
  refine List.eq_nil_of_length_eq_zero (Nat.eq_zero_of_not_pos fun hpos => ?_)
  have hlength : 1 < (times .hush course).length := by
    have hrest : 0 < (times .hush (⟨.hush, hush⟩ :: after)).length := Nat.succ_pos _
    rw [hcourse, times_append, List.length_append]
    omega
  have hsecond := congrArg (·[1]?) htimes
  simp [hlength, honce] at hsecond

/-- Once all that fell silent are reported, a device is there, active and talking if it is one of the others. -/
theorem settled_device (hp : c.Playing course s) (hwithin : c.timetable.Within c.limit horizon) (hnow : s.now ≤ horizon)
    (hreported : ∀ k < c.devices, c.devices - c.silent ≤ k → ∃ packets, c.fate k course = .reported packets)
    (hk : k < c.devices) :
    s.hub.registry.contains (peerId k) = decide (k < c.devices - c.silent) ∧
      s.hub.isActive (c.start.links.size + k) = decide (k < c.devices - c.silent) ∧
      ∀ p, Keeps c.start k (c.fate k course) p → p.talking = decide (k < c.devices - c.silent) := by
  have hshows := hp.shows hk
  rw [Registry.contains_eq_isSome, Hub.isActive]
  by_cases hfirst : k < c.devices - c.silent
  · rw [hp.fate_talks hwithin hnow (.inl hfirst)] at hshows ⊢
    obtain ⟨⟨d, hd, -⟩, -, hslot⟩ := hshows.onAir
    rw [hd, hslot, decide_eq_true hfirst]
    exact ⟨rfl, rfl, fun p hkeeps => hkeeps.talking⟩
  · obtain ⟨packets, hfate⟩ := hreported k hk (Nat.le_of_not_lt hfirst)
    rw [hfate] at hshows ⊢
    have hdevice : s.hub.registry.get? (peerId k) = none := hshows.device
    have hslot : s.hub.slot? (c.start.links.size + k) = none := hshows.slot
    rw [hdevice, hslot, decide_eq_false hfirst]
    exact ⟨rfl, rfl, fun p hkeeps => hkeeps.talking⟩

theorem settled (hp : c.Playing course s) (hwithin : c.timetable.Within c.limit horizon) (hnow : s.now ≤ horizon)
    (hreported : ∀ k < c.devices, c.devices - c.silent ≤ k → ∃ packets, c.fate k course = .reported packets) :
    c.Settled s := by
  have hfew : c.devices - c.silent ≤ c.devices := Nat.sub_le _ _
  have hdevice := fun k hk => hp.settled_device hwithin hnow hreported (k := k) hk
  have hdevices : ∀ id, s.hub.registry.contains id = true ↔ ∃ k < c.devices - c.silent, id = peerId k := by
    refine iff_exists_of_lt_iff hfew (fun id hid => ?_) fun k hk => ?_
    · have hnone : s.hub.registry.get? id = none := hp.peopled.only.devices id hid
      rw [Registry.contains_eq_isSome, hnone]
      decide
    · rw [(hdevice k hk).1, decide_eq_true_iff]
  have hconnections : ∀ l, s.hub.isActive l = true ↔ ∃ k < c.devices - c.silent, l = c.start.links.size + k := by
    refine iff_exists_of_lt_iff hfew (fun l hl => ?_) fun k hk => ?_
    · have hnone : s.hub.slot? l = none := hp.peopled.only.slots l hl
      rw [Hub.isActive, hnone]
      decide
    · rw [(hdevice k hk).2.1, decide_eq_true_iff]
  refine ⟨hdevices, size_of_contains_iff hdevices, hconnections,
    activeConnections_of_isActive_iff (fun _ _ => Nat.add_left_cancel) hconnections, ?_⟩
  obtain ⟨sim, hsim, hsize, hkeeps⟩ := hp.peer
  rw [talking, hsim]
  refine size_filter_talking (hsize ▸ hfew) fun k p hk => ?_
  exact (hdevice k (hsize ▸ (Array.getElem?_eq_some_iff.mp hk).1)).2.2 p (hkeeps k p hk)

/-- A simulation at play unfolds as it should. -/
theorem unfolds (hp : c.Playing course s) (hwithin : c.timetable.Within c.limit horizon)
    (honce : c.timetable.schedule .hush 1 = none) : c.Unfolds horizon course s where
  timetable := hp.onTime.times_eq
  devices := fun _ hk => hp.shows hk
  noOneElse := ⟨hp.peopled.only.devices, hp.peopled.only.slots⟩
  talking := fun hnow k hk htalks => by
    have hfate := hp.fate_talks hwithin hnow htalks
    have hshows := hp.shows hk
    rw [hfate] at hshows
    exact ⟨hfate, hshows.onAir⟩
  silent := fun before hush after hcourse hhorizon k _ hlast => by
    have hfate := hp.onTime.fate_silenced hwithin hcourse rfl (hp.times_hush_left honce hcourse) hhorizon
    rw [← decide_eq_true hlast] at hfate
    refine ⟨fun hsweeps => ?_, fun calm t rest hafter hcalm hlate => ?_⟩
    · exact hfate.trans (foldl_silent hsweeps)
    · rw [hafter] at hfate
      exact hfate.trans (foldl_late hcalm hlate)
  settled := hp.settled hwithin

end Scene.Playing

end

/-! ## From the start on -/

variable {s s₀ : Station}

/-- How far the marks of devices hold out that are brought up at a station: as far as one word counts, and their
limit.  If the clock ends before the first round, they are never touched. -/
def horizon (s : Station) (plan : SimulationPlan) : Int :=
  s.sweeper.settings.expireAfter.after
    (if plan.interval.after s.now < Cadence.clockEnd then s.now + wordMax else s.now)

/-- If the limit is as long as the time between two rounds, the rounds follow each other closely enough. -/
theorem within_scene {plan : SimulationPlan} (hlimit : plan.interval.nanos ≤ s.sweeper.settings.expireAfter.nanos)
    (sweeps : Nat → Option Int) (i : EntryId) :
    (s.scene plan sweeps i).timetable.Within (s.scene plan sweeps i).limit (s.horizon plan) := by
  have hbeat : Cadence.beat plan.interval ≤ s.sweeper.settings.expireAfter.nanos :=
    Int.le_trans (Int.min_le_left _ _) (Int.ofNat_le.mpr hlimit)
  refine ⟨fun j k last now hprevious _ hnow hround => ?_, ?_⟩
  · change now ≤ last + s.sweeper.settings.expireAfter.nanos
    change ∀ r, roundsFrom (plan.interval.after s.now) plan.interval k = some r → now ≤ r at hround
    cases k with
    | zero =>
      obtain rfl : s.now = last := Option.some.inj hprevious
      by_cases hreach : plan.interval.after s.now < Cadence.clockEnd
      · have hle := hround _ (if_pos hreach)
        rw [roundAt_zero, Span.after] at hle
        omega
      · rwa [horizon, if_neg hreach] at hnow
    | succ k =>
      obtain ⟨hreach, rfl⟩ := roundsFrom_eq_some.mp hprevious
      have hnext := hround _ (if_pos hreach)
      rw [roundAt_succ] at hnext
      omega
  · change s.horizon plan ≤ s.now + wordMax + s.sweeper.settings.expireAfter.nanos
    rw [horizon, Span.after]
    split <;> omega

/-- A simulation that is started with a station unfolds as it should, at every moment of what is ordered then, and
between orders all is done that the clock has reached.  The sweeper was started earlier and has made some rounds. -/
def PlaysOut (s₀ s : Station) (plan : SimulationPlan) (during : List Order) : Prop :=
  ∃ made i, (∀ k, k < made ↔ s₀.firstRound < Cadence.clockEnd ∧
      roundAt s₀.firstRound s₀.sweeper.settings.interval k ≤ s.now) ∧
    s.sweeper.task = some i ∧
    let c := s.scene plan (fun k => roundsFrom s₀.firstRound s₀.sweeper.settings.interval (made + k)) i
    let started := (s.startSimulation plan).2
    (∀ done rest, started.plan during = done ++ rest →
      c.Unfolds (s.horizon plan) (course c.simulation started done) (started.play done)) ∧
    ∀ kind t, c.timetable.schedule kind
      (times kind (course c.simulation started (started.plan during))).length = some t →
        (started.after during).now < t

/-- A simulation is started at some moment of a run, after a sweeper, where nothing is registered and no connection
is up, and what is ordered from then on is aside.  If the clock keeps to whole milliseconds and devices may be silent
for as long as the time between two rounds, then it plays out as it should. -/
theorem simulation_end_to_end {settings : SweepSettings} {walk : Walk} {earlier between during : List Order}
    {plan : SimulationPlan} (hs₀ : (opened settings walk).after earlier = s₀) (hearlier : ∀ o ∈ earlier, o.isWhole)
    (hstart : s₀.startSweeper.1 = true) (hs : s₀.startSweeper.2.after between = s)
    (hbetween : ∀ o ∈ between, o.isCalm) (hvacant : s.Vacant)
    (hinterval : ∃ m, 0 < m ∧ s₀.sweeper.settings.interval = .ofMillis m)
    (htraffic : ∃ m, 0 < m ∧ plan.interval = .ofMillis m) (hsilence : ∃ m, 0 < m ∧ plan.silenceAfter = .ofMillis m)
    (hlimit : plan.interval.nanos ≤ s.sweeper.settings.expireAfter.nanos)
    (hduring : ∀ o ∈ during, o.isAside) : PlaysOut s₀ s plan during := by
  have hrests₀ : s₀.timeline.Rests := hs₀ ▸ rests_after (rests_opened settings walk) earlier
  have htended₀ : s₀.IsTended :=
    hs₀ ▸ tended_after (rests_opened settings walk) (tended_opened settings walk) earlier
  have hmilli₀ : 1000000 ∣ s₀.now := hs₀ ▸ dvd_now_of_opened settings walk hearlier
  have hrests : s.timeline.Rests := hs ▸ rests_after (rests_perform hrests₀ .startSweeper) between
  have htended : s.IsTended :=
    hs ▸ tended_after (rests_perform hrests₀ .startSweeper) (tended_startSweeper htended₀) between
  have hnumbered : s.hub.census.Numbered := by
    have hall : (opened settings walk).after (earlier ++ .deed .startSweeper :: between) = s := by
      rw [after_append, hs₀]
      exact hs
    rw [← hall, ← play_plan, hub_play]
    exact Hub.numbered_run _
  obtain ⟨hlong₀, hwhole₀⟩ := Span.whole_of_ofMillis hinterval
  obtain ⟨hlong, hwhole⟩ := Span.whole_of_ofMillis htraffic
  obtain ⟨hlong', hwhole'⟩ := Span.whole_of_ofMillis hsilence
  obtain ⟨i, made, hready⟩ := ready_after htended₀ hrests₀ hstart hlong₀ hwhole₀ hmilli₀ hbetween
  rw [hs] at hready
  have hbegun : (s.startSimulation plan).2.timeline.Rests := rests_perform hrests (.startSimulation plan)
  have hplaying := playing_startSimulation hlong hwhole hready hwhole' htended hnumbered hvacant
  refine ⟨made, i, hready.made, hready.task, fun done rest hsplit => ?_, fun kind t ht => ?_⟩
  · have hturn := inTurn_plan hbegun during
    have haside : ∀ a ∈ (s.startSimulation plan).2.plan during, a.isAside := isAside_plan hduring
    rw [hsplit] at hturn haside
    have hplayed := hplaying.play ((inTurn_append _ _ _).mp hturn).1 fun a ha => haside a (List.mem_append_left rest ha)
    exact hplayed.unfolds (within_scene hlimit _ i) rfl
  · have hplayed := hplaying.play (inTurn_plan hbegun during) (isAside_plan hduring)
    rw [play_plan] at hplayed
    exact hplayed.now_lt (hplaying.ahead_after hbegun
      (ahead_startSimulation hlong hwhole hready (Nat.lt_of_lt_of_le (by decide) hlong') _) hduring kind) ht

/-- Three devices are brought up.  The last one takes part in one round, falls silent, and goes at the fifth sweep,
which is the first one past its deadline. -/
theorem simulation_end_to_end_of_three :
    let settings : SweepSettings := { expireAfter := .ofMillis 20, interval := .ofMillis 7 }
    let earlier : List Order := [.deed (.onHub (.addWatcher { role := .bridge })), .deed (.onHub (.addObserver {}))]
    let plan : SimulationPlan := { devices := 3, silent := 1, interval := .ofMillis 10, silenceAfter := .ofMillis 15 }
    let during : List Order := [.advance (.ofMillis 60)]
    let s₀ := (opened settings).after earlier
    let s := s₀.startSweeper.2
    let after := (s.startSimulation plan).2.after during
    (∀ o ∈ earlier, o.isWhole) ∧ s₀.startSweeper.1 = true ∧ s.Vacant ∧
      (∃ m, 0 < m ∧ s₀.sweeper.settings.interval = .ofMillis m) ∧
      (∃ m, 0 < m ∧ plan.interval = .ofMillis m) ∧ (∃ m, 0 < m ∧ plan.silenceAfter = .ofMillis m) ∧
      plan.interval.nanos ≤ s.sweeper.settings.expireAfter.nanos ∧
      (∀ o ∈ during, o.isAside) ∧
      PlaysOut s₀ s plan during ∧
      after.hub.registry.size = 2 ∧ after.talking 0 = 2 ∧ after.hub.activeConnections = 2 ∧
      after.hub.events 0 "sim-0002" = [.added "sim-0002" false, .removed "sim-0002" .expired] ∧
      after.hub.shown 0 2 = [("sim-0002", .active), ("sim-0002", .inactive)] := by
  intro settings earlier plan during s₀ s after
  have hearlier : ∀ o ∈ earlier, o.isWhole := by decide
  have hstart : s₀.startSweeper.1 = true := by decide +kernel
  have hvacant : s.Vacant := by
    refine ⟨fun id => ?_, fun l => ?_, ⟨0, _, rfl, rfl, fun _ => rfl⟩, fun i e he _ => .inr ?_⟩
    · exact Std.ExtTreeMap.getElem?_empty
    · exact Std.ExtTreeMap.getElem?_empty
    · have hlt : i < 1 := (Array.getElem?_eq_some_iff.mp he).1
      obtain rfl : i = 0 := Nat.lt_one_iff.mp hlt
      decide +kernel
  have hinterval : ∃ m, 0 < m ∧ s₀.sweeper.settings.interval = .ofMillis m := ⟨7, by decide, rfl⟩
  have htraffic : ∃ m, 0 < m ∧ plan.interval = .ofMillis m := ⟨10, by decide, rfl⟩
  have hsilence : ∃ m, 0 < m ∧ plan.silenceAfter = .ofMillis m := ⟨15, by decide, rfl⟩
  have hlimit : plan.interval.nanos ≤ s.sweeper.settings.expireAfter.nanos := by decide +kernel
  have hduring : ∀ o ∈ during, o.isAside := by decide
  have hs₀ : (opened settings).after earlier = s₀ := rfl
  have hs : s₀.startSweeper.2.after [] = s := rfl
  refine ⟨hearlier, hstart, hvacant, hinterval, htraffic, hsilence, hlimit, hduring,
    simulation_end_to_end hs₀ hearlier hstart hs nofun hvacant hinterval htraffic hsilence hlimit hduring, ?_⟩
  decide +kernel

/-- Where a device that talks goes, though it may be silent for as long as the time between two rounds: its mark
counts no more nanoseconds than fit in one word. -/
theorem simulation_loses_talker :
    let settings : SweepSettings := { expireAfter := .ofMillis 946080000000, interval := .ofMillis 914544000000 }
    let plan : SimulationPlan :=
      { devices := 1, silent := 0, interval := .ofMillis 946080000000, silenceAfter := .ofMillis 1000 }
    let s := (opened settings).after [.deed (.onHub (.addWatcher { role := .bridge })), .deed .startSweeper]
    let after := s.after (.deed (.startSimulation plan) :: List.replicate 22 (.advance (.ofMillis 946080000000)))
    s.hub.registry.size = 0 ∧ s.hub.activeConnections = 0 ∧ s.isSweeping = true ∧
      plan.interval.nanos ≤ s.sweeper.settings.expireAfter.nanos ∧
      after.hub.registry.contains (peerId 0) = false := by
  decide +kernel

end Liveness.Station
