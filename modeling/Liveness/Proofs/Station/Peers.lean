import Liveness.Proofs.Station.Lives
import Liveness.Proofs.Station.Visits

/-!
# All synthetic devices together

A floor is `Peopled` by the devices of a simulation if each of them stands as its life
says and no one else is registered or has a connection that is up.  The rounds of traffic,
the silence of the last devices and the sweeps move all lives on at once, each device in
its turn and none of the others with it; everything that only writes to the log leaves
them where they are.
-/

namespace Liveness

namespace Hub

variable {now : Int} {h h' : Hub} {vs : List Visit}

theorem Receives.numbered (hvisits : Receives now h vs h') (hn : h.census.Numbered) : h'.census.Numbered := by
  rw [← hvisits]
  exact numbered_calls hn _

/-- No device changes and no connection, nor what is told of them. -/
structure SameAll (h h' : Hub) : Prop where
  device : ∀ id, SameDevice id h h'
  link : ∀ l, SameLink l h h'
  numbered : h.census.Numbered → h'.census.Numbered

theorem SameAll.refl (h : Hub) : SameAll h h := ⟨fun _ => .refl h, fun _ => .refl h, id⟩

theorem SameAll.trans {h₁ h₂ h₃ : Hub} (h : SameAll h₁ h₂) (h' : SameAll h₂ h₃) : SameAll h₁ h₃ where
  device := fun id => (h.device id).trans (h'.device id)
  link := fun l => (h.link l).trans (h'.link l)
  numbered := fun hn => h'.numbered (h.numbered hn)

/-- Calls that have nothing to do with devices and connections. -/
def Op.isAside : Op → Bool
  | .log _ | .report .. | .addTally => true
  | _ => false

theorem sameAll_step (h : Hub) (now : Int) {op : Op} (hop : op.isAside = true) : SameAll h (h.step now op) := by
  have hmakes : ∀ a, op.Makes a → (∀ id, a.id? ≠ some id) ∧ ∀ l, a.Misses l := by
    intro a ha
    cases op with
    | log line =>
      obtain rfl := ha
      exact ⟨fun _ => nofun, fun _ => trivial⟩
    | report k load => rcases ha with rfl | ⟨churn, rfl⟩ <;> exact ⟨fun _ => nofun, fun _ => trivial⟩
    | addTally =>
      obtain rfl := ha
      exact ⟨fun _ => nofun, fun _ => trivial⟩
    | _ => cases hop
  exact ⟨fun id => sameDevice_of_reaches (fun a ha => (hmakes a ha).1 id) (reaches_step h op),
    fun l => sameLink_of_reaches (fun a ha => (hmakes a ha).2 l) (reaches_step h op), numbered_step h now op⟩

theorem Receives.sameAll (hvisits : Receives now h vs h') (hvs : ∀ v ∈ vs, v.2.isAside = true) : SameAll h h' := by
  rw [← hvisits]
  clear hvisits
  induction vs generalizing h with
  | nil => exact .refl h
  | cons v vs ih =>
    exact (sameAll_step h now (hvs v List.mem_cons_self)).trans (ih fun v' hv' => hvs v' (List.mem_cons_of_mem v hv'))

theorem Logs.sameAll (hlogs : Logs now h h') : SameAll h h' := by
  refine (receives_lines hlogs).sameAll fun v hv => ?_
  obtain ⟨line, -, rfl⟩ := List.mem_map.mp hv
  rfl

end Hub

namespace Station

variable {start h h' : Hub} {born now : Int} {i : SimulationId} {n m : Nat} {lives : Nat → Life} {f f' : Floor}
  {limit : Span}

/-- No one is registered and no connection is up but those of the first so many devices. -/
structure Only (start : Hub) (n : Nat) (h : Hub) : Prop where
  devices : ∀ id, (∀ k < n, id ≠ peerId k) → h.registry.get? id = none
  slots : ∀ l, (∀ k < n, l ≠ start.links.size + k) → h.slot? l = none
  numbered : h.census.Numbered

theorem Only.same (ho : Only start n h) (hsame : Hub.SameAll h h') : Only start n h' where
  devices := fun id hid => (hsame.device id).get?.trans (ho.devices id hid)
  slots := fun l hl => (hsame.link l).slot.trans (ho.slots l hl)
  numbered := hsame.numbered ho.numbered

/-- What touches at most one of the devices leaves no one else there. -/
theorem Only.others (ho : Only start n h) {k : Nat} (hk : k < n)
    (hothers : (∀ id, id ≠ peerId k → Hub.SameDevice id h h') ∧ ∀ l, l ≠ start.links.size + k → Hub.SameLink l h h')
    (hn : h'.census.Numbered) : Only start n h' where
  devices := fun id hid => (hothers.1 id (hid k hk)).get?.trans (ho.devices id hid)
  slots := fun l hl => (hothers.2 l (hl k hk)).slot.trans (ho.slots l hl)
  numbered := hn

/-- The devices of a simulation stand as their lives say, and no one else is there. -/
structure Peopled (start : Hub) (born : Int) (i : SimulationId) (n m : Nat) (lives : Nat → Life) (f : Floor) :
    Prop where
  simulation : ∃ sim, f.simulations[i]? = some sim ∧ sim.silent = m ∧ sim.peers.size = n ∧
    ∀ k p, sim.peers[k]? = some p → Stands start born k (lives k) p f.hub
  only : Only start n f.hub

theorem Peopled.same (hp : Peopled start born i n m lives f) (hsim : f'.simulations[i]? = f.simulations[i]?)
    (hsame : Hub.SameAll f.hub f'.hub) : Peopled start born i n m lives f' where
  simulation := by
    obtain ⟨sim, hi, hsilent, hsize, hpeers⟩ := hp.simulation
    exact ⟨sim, hsim.trans hi, hsilent, hsize, fun k p hk => (hpeers k p hk).same (hsame.device _) (hsame.link _)⟩
  only := hp.only.same hsame

/-! ## A round of traffic -/

theorem link_ne {j k : Nat} (h : j ≠ k) : start.links.size + j ≠ start.links.size + k :=
  fun heq => h (Nat.add_left_cancel heq)

theorem peerId_ne {j k : Nat} (h : j ≠ k) : peerId j ≠ peerId k := fun heq => h (peerId_inj heq)

/-- In the middle of a round: the first devices have come to their next lives. -/
structure MidRound (start : Hub) (born : Int) (now : Int) (limit : Span) (n m : Nat) (lives : Nat → Life)
    (peers : Array Peer) (j : Nat) (acc : Array Peer × Hub) : Prop where
  size : acc.1.size = j
  first : ∀ k p, acc.1[k]? = some p →
    Stands start born k ((lives k).next born limit (n - m ≤ k) ⟨.round, now⟩) p acc.2
  rest : ∀ k p, j ≤ k → peers[k]? = some p → Stands start born k (lives k) p acc.2
  only : Only start n acc.2

theorem midRound_deliver {peers acc : Array Peer} {j : Nat} {p : Peer}
    (hmid : MidRound start born now limit n m lives peers j (acc, h)) (hj : j < n) (hp : peers[j]? = some p)
    (hdated : (lives j).Dated born now) :
    MidRound start born now limit n m lives peers (j + 1)
      (acc.push (Floor.deliver now h p).1, (Floor.deliver now h p).2) := by
  have hstands : Stands start born j (lives j) p h := hmid.rest j p (Nat.le_refl j) hp
  have hothers := hstands.others now
  refine ⟨by rw [Array.size_push, hmid.size], fun k q hq => ?_, fun k q hjk hq => ?_,
    hmid.only.others hj hothers ((Floor.receives_talk h p).numbered hmid.only.numbered)⟩
  · rw [Array.getElem?_push, show acc.size = j from hmid.size] at hq
    split at hq
    · rename_i hk
      subst hk
      obtain rfl := Option.some.inj hq
      exact hstands.deliver hdated
    · rename_i hk
      exact (hmid.first k q hq).same (hothers.1 _ (peerId_ne hk)) (hothers.2 _ (link_ne hk))
  · have hk : k ≠ j := Nat.ne_of_gt hjk
    exact (hmid.rest k q (Nat.le_of_succ_le hjk) hq).same (hothers.1 _ (peerId_ne hk)) (hothers.2 _ (link_ne hk))

/-- A round of traffic moves all lives on. -/
theorem peopled_traffic (hp : Peopled start born i n m lives f) (hdated : ∀ k < n, (lives k).Dated born now) :
    Peopled start born i n m (fun k => (lives k).next born limit (n - m ≤ k) ⟨.round, now⟩) (f.traffic now i) := by
  obtain ⟨⟨sim, hi, hsilent, hsize, hpeers⟩, honly⟩ := hp
  have hround : MidRound start born now limit n m lives sim.peers sim.peers.size
      (sim.peers.foldl (fun acc p => (acc.1.push (Floor.deliver now acc.2 p).1, (Floor.deliver now acc.2 p).2))
        (#[], f.hub)) := by
    refine Array.foldl_induction (MidRound start born now limit n m lives sim.peers) ?_ fun j acc hmid => ?_
    · exact ⟨rfl, nofun, fun k p _ hk => hpeers k p hk, honly⟩
    · have hj : j.1 < n := hsize ▸ j.2
      exact midRound_deliver hmid hj (Array.getElem?_eq_getElem j.2) (hdated j.1 hj)
  obtain ⟨hsize', hfirst, -, honly'⟩ := hround
  simp only [Floor.traffic, hi]
  refine ⟨⟨_, Array.getElem?_setIfInBounds_self_of_lt (Array.getElem?_eq_some_iff.mp hi).1, hsilent,
    hsize'.trans hsize, hfirst⟩, honly'⟩

/-! ## Silence and sweeps -/

/-- The last devices fall silent. -/
theorem peopled_silence (hp : Peopled start born i n m lives f) :
    Peopled start born i n m (fun k => (lives k).next born limit (n - m ≤ k) ⟨.hush, now⟩) (f.silence now i) := by
  obtain ⟨⟨sim, hi, hsilent, hsize, hpeers⟩, honly⟩ := hp
  have hsame : Hub.SameAll f.hub (f.silence now i).hub := (Floor.logs_silence f i).sameAll
  refine ⟨?_, honly.same hsame⟩
  simp only [Floor.silence, hi, hsilent, hsize] at hsame ⊢
  refine ⟨_, Array.getElem?_setIfInBounds_self_of_lt (Array.getElem?_eq_some_iff.mp hi).1, rfl,
    Array.size_mapIdx.trans hsize, fun k p hk => ?_⟩
  rw [Array.getElem?_mapIdx] at hk
  obtain ⟨p', hp', rfl⟩ := Option.map_eq_some_iff.mp hk
  have hhush := (hpeers k p' hp').hush limit (decide (n - m ≤ k)) now
  simp only [decide_eq_true_eq] at hhush
  exact hhush.same (hsame.device _) (hsame.link _)

/-- A device is alone on its connection. -/
theorem Peopled.alone (hp : Peopled start born i n m lives f) (k : Nat) : Alone start k f.hub := by
  obtain ⟨⟨sim, hi, hsilent, hsize, hpeers⟩, honly⟩ := hp
  intro id d hd hlink
  by_cases hid : ∃ j < n, id = peerId j
  · obtain ⟨j, hj, rfl⟩ := hid
    have hstands := hpeers j _ (Array.getElem?_eq_getElem (hsize ▸ hj))
    have hdevice := hstands.shows.device
    cases hlife : lives j with
    | online talking packets seen =>
      rw [hlife] at hdevice
      obtain ⟨d', hd', hrep⟩ := hdevice
      obtain rfl := Option.some.inj (hd.symm.trans hd')
      rw [Nat.add_left_cancel (hrep.link.symm.trans hlink)]
    | evicted | reported =>
      rw [hlife] at hdevice
      cases hdevice.symm.trans hd
  · have hnone : f.hub.registry.get? id = none := honly.devices id fun j hj heq => hid ⟨j, hj, heq⟩
    cases hnone.symm.trans hd

/-- A sweep moves all lives on. -/
theorem peopled_sweep (hp : Peopled start born i n m lives f) :
    Peopled start born i n m (fun k => (lives k).next born limit (n - m ≤ k) ⟨.sweep, now⟩)
      { f with hub := (f.hub.sweep now now limit).1 } := by
  have halone : ∀ k, Alone start k f.hub := hp.alone
  obtain ⟨⟨sim, hi, hsilent, hsize, hpeers⟩, honly⟩ := hp
  refine ⟨⟨sim, hi, hsilent, hsize, fun k p hk => ?_⟩, fun id hid => ?_, fun l hl => ?_,
    Hub.numbered_step f.hub now (.sweep now limit) honly.numbered⟩
  · obtain ⟨hpeer, hshows⟩ := hpeers k p hk
    exact ⟨hpeer.sweep, hshows.sweep honly.numbered (halone k)⟩
  · obtain ⟨gone, hloses, -⟩ := Hub.sweep_spec honly.numbered now now limit
    have hnone : f.hub.registry.get? id = none := honly.devices id hid
    exact (hloses.get? id).trans (by rw [hnone, ite_self])
  · have hcalm : Hub.Calm 0 f.hub (f.hub.step now (.sweep now limit)) := Hub.calm_step f.hub nofun nofun
    exact (congrArg (·[l]?) hcalm.slots).trans (honly.slots l hl)

/-! ## The start -/

/-- So many connections have come up. -/
structure Connected (start : Hub) (j : Nat) (acc : Array Peer × Hub) : Prop where
  size : acc.1.size = j
  peers : ∀ (k : Nat) (p : Peer), acc.1[k]? = some p → p = { id := peerId k, link := start.links.size + k }
  hub : ∃ links : Array Link, acc.2 = { start with links } ∧ links.size = start.links.size + j ∧
    ∀ k < j, links[start.links.size + k]? = some (.counting { peer := peerAddress k, endpoint := simulationEndpoint })

theorem connected_foldl (start : Hub) (count : Nat) :
    Connected start count ((List.range count).foldl
      (fun (peers, h) k => let (p, h) := openPeer h k; (peers.push p, h)) (#[], start)) := by
  induction count with
  | zero => exact ⟨rfl, nofun, start.links, rfl, rfl, nofun⟩
  | succ j ih =>
    rw [List.range_succ, List.foldl_append]
    generalize (List.range j).foldl _ _ = acc at ih ⊢
    obtain ⟨peers, h⟩ := acc
    obtain ⟨hsize, hpeers, links, hhub, hlinks, hopen⟩ := ih
    obtain rfl : h = { start with links } := hhub
    refine ⟨by rw [← hsize]; exact Array.size_push _, fun k p hk => ?_, links.push _, rfl, ?_, fun k hk => ?_⟩
    · change (peers.push _)[k]? = some p at hk
      rw [Array.getElem?_push, show peers.size = j from hsize] at hk
      split at hk
      · rename_i heq
        subst heq
        rw [← Option.some.inj hk, ← hlinks]
      · exact hpeers k p hk
    · rw [Array.size_push, hlinks, Nat.add_assoc]
    · rw [Array.getElem?_push, hlinks]
      split
      · rename_i heq
        rw [Nat.add_left_cancel heq]
      · exact hopen k (by omega)

/-- While connections are reported up: the first devices are there. -/
structure MidStart (start : Hub) (w : Nat) (now : Int) (n : Nat) (j : Nat) (h : Hub) : Prop where
  first : ∀ k < j, Shows start now k (.online true 0 now) h
  rest : ∀ k, j ≤ k → k < n → Awaits start k h
  only : Only start n h
  bridge : Hub.IsBridge w h

theorem midStart_onActive {w j : Nat} (hmid : MidStart start w now n j h) (hj : j < n) :
    MidStart start w now n (j + 1) (h.onActive now (peerId j) (start.links.size + j)).2 := by
  have hawaits : Awaits start j h := hmid.rest j (Nat.le_refl j) hj
  have hothers := hawaits.others now
  refine ⟨fun k hk => ?_, fun k hjk hk => ?_, ?_, ?_⟩
  · rcases Nat.lt_succ_iff_lt_or_eq.mp hk with hk | rfl
    · have hne : k ≠ j := Nat.ne_of_lt hk
      exact (hmid.first k hk).same (hothers.1 _ (peerId_ne hne)) (hothers.2 _ (link_ne hne))
    · exact hawaits.onActive hmid.bridge
  · have hne : k ≠ j := Nat.ne_of_gt hjk
    exact (hmid.rest k (Nat.le_of_succ_le hjk) hk).same (hothers.1 _ (peerId_ne hne)) (hothers.2 _ (link_ne hne))
  · exact hmid.only.others hj hothers (Hub.numbered_step h now (.reportActive _ _) hmid.only.numbered)
  · exact hmid.bridge.reaches (Hub.reaches_onActive h _ _)

/-- Where no one is, so many devices come into the registry, each on a connection of its own. -/
theorem stands_openPeers {w : Nat} (hregistry : ∀ id, start.registry.get? id = none)
    (hslots : ∀ l, start.slot? l = none) (hn : start.census.Numbered) (hw : Hub.IsBridge w start) (now : Int)
    (n : Nat) :
    (openPeers start now n).1.size = n ∧
      (∀ k p, (openPeers start now n).1[k]? = some p →
        Stands start now k (.online true 0 now) p (openPeers start now n).2) ∧
      Only start n (openPeers start now n).2 := by
  unfold openPeers
  have hconnected := connected_foldl start n
  generalize (List.range n).foldl _ _ = acc at hconnected ⊢
  obtain ⟨peers, h⟩ := acc
  obtain ⟨hsize, hpeers, links, hhub, -, hopen⟩ := hconnected
  obtain rfl : h = { start with links } := hhub
  have hstart : MidStart start w now n 0 { start with links } :=
    ⟨nofun, fun k _ hk => ⟨hregistry _, hopen k hk, hslots _, fun _ => rfl, Nat.le_refl _, fun _ => rfl, Nat.le_refl _⟩,
      ⟨fun id _ => hregistry id, fun l _ => hslots l, hn⟩, hw⟩
  have hall : MidStart start w now n peers.size
      (peers.foldl (fun h p => (h.onActive now p.id p.link).2) { start with links }) := by
    refine Array.foldl_induction (MidStart start w now n) hstart fun j h hmid => ?_
    have hpeer : peers[j] = { id := peerId j, link := start.links.size + j } :=
      hpeers j _ (Array.getElem?_eq_getElem j.2)
    rw [hpeer]
    exact midStart_onActive hmid (hsize ▸ j.2)
  refine ⟨hsize, fun k p hk => ⟨?_, hall.first k (Array.getElem?_eq_some_iff.mp hk).1⟩, hall.only⟩
  rw [hpeers k p hk]
  exact ⟨rfl, rfl, rfl, rfl⟩

/-- A simulation that has started is peopled by its devices. -/
theorem peopled_startSimulation {s : Station} {w : Nat} (hregistry : ∀ id, s.hub.registry.get? id = none)
    (hslots : ∀ l, s.hub.slot? l = none) (hn : s.hub.census.Numbered) (hw : Hub.IsBridge w s.hub)
    (plan : SimulationPlan) :
    Peopled s.hub s.now s.floor.simulations.size plan.devices (min plan.silent plan.devices)
      (fun _ => .online true 0 s.now) (s.startSimulation plan).2.floor := by
  obtain ⟨hsize, hstands, honly⟩ := stands_openPeers hregistry hslots hn hw s.now plan.devices
  have hlogs : Hub.Logs s.now (openPeers s.hub s.now plan.devices).2 (s.startSimulation plan).2.hub :=
    logs_every_log (s.onHub (openPeers · s.now plan.devices)).2 "sim-traffic"
      (.traffic s.floor.simulations.size) plan.interval plan.interval _
  have hsame := hlogs.sameAll
  refine ⟨⟨⟨(openPeers s.hub s.now plan.devices).1, s.agenda.entries.size, s.agenda.entries.size + 1,
      min plan.silent plan.devices⟩, ?_, rfl, hsize,
    fun k p hk => (hstands k p hk).same (hsame.device _) (hsame.link _)⟩, honly.same hsame⟩
  unfold startSimulation
  dsimp only
  rw [every_eq]
  simp only [log, once, Floor.log, Agenda.once, Agenda.add_eq, Array.size_push]
  exact Array.getElem?_push_size

end Station

end Liveness
