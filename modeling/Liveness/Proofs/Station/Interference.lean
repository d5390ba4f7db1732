import Liveness.Proofs.Station.Twins
import Mathlib.Logic.Equiv.Fintype

/-!
# Ids do not interfere

What is asked about other ids can be left out of a run, and nothing that is asked about an id or
about none comes out otherwise (`Station.ids_do_not_interfere`): step by step, the station of the one run and
that of the other are twins.

Which numbers stand for each other is known before the second run is made.  Those that what is kept of the first run
gives out, in their order, stand for the numbers that follow one another (`Station.Renumbers`).
-/

namespace Liveness

namespace Station

variable {ν : Naming} {x y : DeviceId} {s s' : Station}

/-! ## Numbers that are given out -/

/-- The numbers that are given out for what is asked about an id or about none. -/
def given (mark : Hub → Nat) (x : DeviceId) : Station → List Ask → List Nat
  | _, [] => []
  | s, a :: as =>
    (if a.concerns x then List.range' (mark s.hub) (mark (s.heed a).hub - mark s.hub) else []) ++
      given mark x (s.heed a) as

section

variable {mark : Hub → Nat} (hmark : ∀ h now op, mark h ≤ mark (h.step now op))

include hmark

/-- What a station gives out never grows less. -/
theorem mark_le_heed (s : Station) (a : Ask) : mark s.hub ≤ mark (s.heed a).hub := by
  cases a with
  | order o =>
    change mark s.hub ≤ mark (s.obey o).hub
    rw [← play_acts, hub_play]
    exact Hub.le_run_of_le_step hmark _ _
  | createFrom id recipe? =>
    cases recipe? with
    | none => exact Nat.le_refl _
    | some recipe => exact hmark s.hub s.now (.getOrCreate id recipe)

theorem le_of_mem_given {asks : List Ask} {n : Nat} (hn : n ∈ given mark x s asks) : mark s.hub ≤ n := by
  induction asks generalizing s with
  | nil => cases hn
  | cons a as ih =>
    rw [given, List.mem_append] at hn
    rcases hn with hn | hn
    · split at hn
      · exact (List.mem_range'_1.mp hn).1
      · cases hn
    · exact Nat.le_trans (mark_le_heed hmark s a) (ih hn)

theorem nodup_given (s : Station) (asks : List Ask) : (given mark x s asks).Nodup := by
  induction asks generalizing s with
  | nil => exact List.nodup_nil
  | cons a as ih =>
    rw [given, List.nodup_append]
    refine ⟨?_, ih _, ?_⟩
    · split
      · exact List.nodup_range'
      · exact List.nodup_nil
    · rintro n hn _ hn' rfl
      have hlater : mark (s.heed a).hub ≤ n := le_of_mem_given hmark hn'
      split at hn
      · have hnow := (List.mem_range'_1.mp hn).2
        have hle := mark_le_heed hmark s a
        omega
      · cases hn

end

/-- Numbers in their order stand for those that follow one another from some number on. -/
def Renumbers (σ : Equiv.Perm Nat) (l : List Nat) (start : Nat) : Prop := l.map σ = List.range' start l.length

theorem exists_renumbers {l : List Nat} (hl : l.Nodup) (start : Nat) : ∃ σ : Equiv.Perm Nat, Renumbers σ l start := by
  obtain ⟨σ, hσ⟩ := Equiv.Perm.exists_extending_pair l.get (fun i : Fin l.length => start + i) hl.injective_get
    fun i j hij => Fin.ext (Nat.add_left_cancel hij)
  refine ⟨σ, List.ext_get ?_ ?_⟩
  · rw [List.length_map, List.length_range']
  · intro i hi hi'
    rw [List.length_map] at hi
    rw [List.get_eq_getElem, List.getElem_map, List.get_eq_getElem, List.getElem_range', Nat.one_mul]
    exact hσ ⟨i, hi⟩

theorem Renumbers.append {σ : Equiv.Perm Nat} {m k start : Nat} {l : List Nat}
    (h : Renumbers σ (List.range' m k ++ l) start) : (0 < k → σ m = start) ∧ Renumbers σ l (start + k) := by
  rw [Renumbers, List.map_append, List.length_append, List.length_range', ← List.range'_append_1] at h
  obtain ⟨hfirst, hrest⟩ := List.append_inj h (by rw [List.length_map, List.length_range', List.length_range'])
  refine ⟨fun hk => ?_, hrest⟩
  obtain ⟨k, rfl⟩ := Nat.exists_eq_succ_of_ne_zero (Nat.ne_of_gt hk)
  rw [List.range'_succ, List.range'_succ, List.map_cons] at hfirst
  exact (List.cons.inj hfirst).1

/-- The number that the next device gets. -/
def nextSerial (h : Hub) : Nat := h.registry.stored + 1

/-- The number that the next connection gets. -/
def nextLink (h : Hub) : Nat := h.links.size

theorem nextSerial_le_step (h : Hub) (now : Int) (op : Hub.Op) : nextSerial h ≤ nextSerial (h.step now op) :=
  Nat.succ_le_succ (Hub.stored_le_step h now op)

/-! ## Transcripts -/

/-- Two exchanges that are the same for an id, up to a naming: what was asked, what was answered, when the one asked
was done, the device under the id, and all that observers had heard of it by then. -/
structure Exchange.Mirrors (ν : Naming) (x : DeviceId) (e e' : Exchange) : Prop where
  ask : e'.ask = ν.ask e.ask
  answer : e.ask.tellsOfOne → e'.answer = ν.outcome e.answer
  time : e'.after.now = e.after.now
  device : e'.after.hub.registry.get? x = (e.after.hub.registry.get? x).map ν.device
  sightings : e'.after.hub.sightings x = (e.after.hub.sightings x).map ν.sighting

theorem Ask.concerns_iff {a : Ask} : a.concerns x ↔ ∀ y ∈ a.id?, y = x := by
  rw [concerns]
  cases a.id? with
  | none => simp
  | some y => simp

theorem mirrors_transcript {asks : List Ask} (hregular : ∀ a ∈ asks, a.IsRegular) (ht : Twins ν x s s')
    (hserial : Renumbers ν.serial (given nextSerial x s asks) (nextSerial s'.hub))
    (hlink : Renumbers ν.link (given nextLink x s asks) (nextLink s'.hub)) :
    List.Forall₂ (Exchange.Mirrors ν x) ((s.transcript asks).filter (·.ask.concerns x))
      (s'.transcript ((asks.filter (Ask.concerns x)).map ν.ask)) := by
  induction asks generalizing s s' with
  | nil => exact .nil
  | cons a as ih =>
    have hrest : ∀ a' ∈ as, a'.IsRegular := fun a' ha' => hregular a' (List.mem_cons_of_mem a ha')
    rw [transcript]
    rw [given] at hserial hlink
    -- what concerns the id is asked of both stations, and the rest of the first one only
    by_cases ha : a.concerns x
    · rw [if_pos ha] at hserial hlink
      obtain ⟨hserial₀, hserial⟩ := hserial.append
      obtain ⟨hlink₀, hlink⟩ := hlink.append
      have hle : nextSerial s.hub ≤ nextSerial (s.heed a).hub := mark_le_heed nextSerial_le_step s a
      have hle' : nextLink s.hub ≤ nextLink (s.heed a).hub := mark_le_heed Hub.size_links_le_step s a
      have hfresh : Hub.Fresh ν s.hub s'.hub (s.heed a).hub := by
        refine ⟨fun hgrows => hserial₀ (Nat.sub_pos_of_lt ?_), fun hgrows => hlink₀ (Nat.sub_pos_of_lt hgrows)⟩
        exact Nat.succ_lt_succ hgrows
      obtain ⟨hanswer, htwins, habreast⟩ :=
        ht.heed (hregular a List.mem_cons_self) (Ask.concerns_iff.mp ha) hfresh
      have hstored : nextSerial s'.hub + (nextSerial (s.heed a).hub - nextSerial s.hub) =
          nextSerial (s'.heed (ν.ask a)).hub := by
        have hcount := habreast.stored
        unfold nextSerial at *
        omega
      have hlinks : nextLink s'.hub + (nextLink (s.heed a).hub - nextLink s.hub) =
          nextLink (s'.heed (ν.ask a)).hub := by
        have hcount := habreast.links
        unfold nextLink at *
        omega
      rw [hstored] at hserial
      rw [hlinks] at hlink
      rw [List.filter_cons_of_pos (p := fun e : Exchange => e.ask.concerns x) ha,
        List.filter_cons_of_pos (p := Ask.concerns x) ha, List.map_cons, transcript]
      exact .cons ⟨rfl, hanswer, htwins.now, htwins.hub.device, htwins.hub.sightings⟩ (ih hrest htwins hserial hlink)
    · rw [if_neg ha, List.nil_append] at hserial hlink
      rw [List.filter_cons_of_neg (p := fun e : Exchange => e.ask.concerns x) ha,
        List.filter_cons_of_neg (p := Ask.concerns x) ha]
      obtain ⟨y, hy, hne⟩ : ∃ y, a.id? = some y ∧ y ≠ x := by
        obtain ⟨y, hy⟩ := not_forall.mp (mt Ask.concerns_iff.mpr ha)
        exact ⟨y, Classical.not_imp.mp hy⟩
      exact ih hrest (ht.skip (hregular a List.mem_cons_self) hy hne) hserial hlink

/-! ## What is left of a run -/

/-- What is asked opens no connection without being told to, and does not look at the number of a device. -/
def Ask.IsPlain : Ask → Prop
  | .order (.deed (.onHub op)) => op.IsPlain
  | .createFrom _ recipe? => ∀ recipe ∈ recipe?, recipe.opensLink = false
  | _ => True

theorem nextLink_heed {a : Ask} (ha : a.id? = some y) (hplain : a.IsPlain) (s : Station) :
    nextLink (s.heed a).hub = nextLink s.hub := by
  apply congrArg Array.size
  cases a with
  | createFrom id recipe? =>
    cases recipe? with
    | none => rfl
    | some recipe => exact Hub.links_getOrCreate s.hub s.now id (hplain recipe rfl)
  | order o =>
    cases o with
    | deed d =>
      cases d with
      | onHub op => exact Hub.links_step s.hub s.now ha hplain
      | _ => cases ha
    | _ => cases ha

/-- Where only what is kept gives out numbers, these follow one another. -/
theorem given_nextLink {asks : List Ask} (hplain : ∀ a ∈ asks, a.IsPlain) (s : Station) :
    given nextLink x s asks = List.range' (nextLink s.hub) (given nextLink x s asks).length := by
  induction asks generalizing s with
  | nil => rfl
  | cons a as ih =>
    have hrest := ih (fun a' ha' => hplain a' (List.mem_cons_of_mem a ha')) (s.heed a)
    rw [given]
    by_cases ha : a.concerns x
    · have hle : nextLink s.hub ≤ nextLink (s.heed a).hub := mark_le_heed Hub.size_links_le_step s a
      have hnext : nextLink s.hub + (nextLink (s.heed a).hub - nextLink s.hub) = nextLink (s.heed a).hub :=
        Nat.add_sub_cancel' hle
      rw [if_pos ha, List.length_append, List.length_range', ← List.range'_append_1, hnext, ← hrest]
    · obtain ⟨y, hy⟩ := not_forall.mp (mt Ask.concerns_iff.mpr ha)
      rw [if_neg ha, List.nil_append, ← nextLink_heed (Classical.not_imp.mp hy).1 (hplain a List.mem_cons_self) s]
      exact hrest

/-- What looks at no number of a device is the same under other numbers of devices. -/
theorem ask_eq_self (hlink : ν.link = .refl Nat) {a : Ask} (hregular : a.IsRegular) (hplain : a.IsPlain) :
    ν.ask a = a := by
  have hprofile : ∀ p : Profile, ν.profile p = p := fun p => by rw [Naming.profile, hlink]; rfl
  have hrecipe : ∀ recipe : Recipe, ν.recipe recipe = recipe := by
    rintro (p | _ | _ | _)
    · exact congrArg Recipe.make (hprofile p)
    all_goals rfl
  cases a with
  | createFrom id recipe? =>
    cases recipe? with
    | none => rfl
    | some recipe => exact congrArg (fun r => Ask.createFrom id (some r)) (hrecipe recipe)
  | order o =>
    cases o with
    | deed d =>
      cases d with
      | onHub op =>
        apply congrArg fun op => Ask.order (.deed (.onHub op))
        cases op with
        | put p => exact congrArg Hub.Op.put (hprofile p)
        | getOrCreate id recipe => exact congrArg (Hub.Op.getOrCreate id) (hrecipe recipe)
        | removeIf id reason check =>
          have hcheck : (fun d => check (ν.inverse.device d)) = check := by
            funext d
            rw [← hplain d (ν.inverse.serial d.serial)]
            rw [Naming.device, Naming.inverse, hlink]
            rfl
          exact congrArg (Hub.Op.removeIf id reason) hcheck
        | send link size => exact congrArg (Hub.Op.send · size) (by rw [hlink]; rfl)
        | close link => exact congrArg Hub.Op.close (by rw [hlink]; rfl)
        | alter link l => exact congrArg (Hub.Op.alter · l) (by rw [hlink]; rfl)
        | sweepOver | reportActive | reportInactive => exact hregular.elim
        | _ => rfl
      | _ => rfl
    | _ => rfl

theorem twins_opened (ν : Naming) (x : DeviceId) (settings : SweepSettings) (walk walk' : Walk) :
    Twins ν x (opened settings walk) (opened settings walk') where
  agenda := rfl
  sweeper := rfl
  jobs := by
    intro i e he
    simp [opened] at he
  errands := nofun
  hub := ⟨by simp [opened, hub], rfl, rfl⟩
  keyed := by
    intro id d hd
    simp [opened, hub] at hd
  keyed' := by
    intro id d hd
    simp [opened, hub] at hd

/-- Ids do not interfere.  Take a run of calls on the registry, with faithful makers and whatever checks, of sweeps
at command, of the sweeper being started, stopped and set up, and of time going by in steps or leaps; and leave out of
it all that was asked about other ids than one.  Everything else comes out the same: what is asked about the id
is answered alike, and after each thing that is asked it is as late, the device under the id is the same with its clock,
and all observers have heard the same of it at the same times.  Sweeps may go over the devices in one order in the one
run and in another order in the other one.

Devices and connections are numbered as they come, so in the run that is left they have other numbers.  They are the
same under a naming, and under that naming the calls that are left say which connections they mean and look at devices.
Where makers open no connections and checks do not look at the numbers of devices, the calls that are left are the very
calls that were made, and connections keep their numbers. -/
theorem ids_do_not_interfere (settings : SweepSettings) (walk walk' : Walk) (x : DeviceId) (asks : List Ask)
    (hregular : ∀ a ∈ asks, a.IsRegular) :
    ∃ ν : Naming,
      List.Forall₂ (Exchange.Mirrors ν x) (((opened settings walk).transcript asks).filter (·.ask.concerns x))
        ((opened settings walk').transcript ((asks.filter (Ask.concerns x)).map ν.ask)) ∧
      ((∀ a ∈ asks, a.IsPlain) →
        ν.link = .refl Nat ∧ (asks.filter (Ask.concerns x)).map ν.ask = asks.filter (Ask.concerns x)) := by
  let serials := given nextSerial x (opened settings walk) asks
  let links := given nextLink x (opened settings walk) asks
  have hserials : serials.Nodup := nodup_given nextSerial_le_step _ asks
  have hlinks : links.Nodup := nodup_given Hub.size_links_le_step _ asks
  obtain ⟨serial, hserial⟩ := exists_renumbers hserials (nextSerial (opened settings walk').hub)
  obtain ⟨link, hlink, hplain⟩ : ∃ link, Renumbers link links (nextLink (opened settings walk').hub) ∧
      ((∀ a ∈ asks, a.IsPlain) → link = .refl Nat) := by
    by_cases hplain : ∀ a ∈ asks, a.IsPlain
    · -- numbers that follow one another as they are can stand for themselves
      refine ⟨.refl Nat, ?_, fun _ => rfl⟩
      rw [Renumbers, Equiv.coe_refl, List.map_id]
      exact given_nextLink hplain (opened settings walk)
    · obtain ⟨link, hlink⟩ := exists_renumbers hlinks (nextLink (opened settings walk').hub)
      exact ⟨link, hlink, fun h => absurd h hplain⟩
  refine ⟨⟨serial, link⟩, ?_, fun h => ⟨hplain h, ?_⟩⟩
  · exact mirrors_transcript hregular (twins_opened _ x settings walk walk') hserial hlink
  · rw [List.map_congr_left (g := id), List.map_id]
    intro a ha
    exact ask_eq_self (hplain h) (hregular a (List.mem_of_mem_filter ha)) (h a (List.mem_of_mem_filter ha))

/-- Two devices share a connection that does not close; the one falls silent and is swept, and nothing that was asked
about it is missed by the other, even when sweeps go over them the other way round. -/
theorem ids_do_not_interfere_on_shared_link :
    let first : List Ask := [.order (.deed (.onHub (.addObserver {}))),
      .order (.deed (.onHub (.openLink (.counting { failsToClose := true }))))]
    let silent : List Ask := [.createFrom "B" (some (.make { id := "B", link := 0 })),
      .createFrom "C" (some (.panic "no device"))]
    let rest : List Ask := [.createFrom "A" (some (.make { id := "A", link := 0 })), .order (.deed .startSweeper),
      .order (.advance (.ofMillis 3000)), .order (.deed (.onHub (.touch "A"))), .order (.jump (.ofMillis 4000)),
      .order (.deed .sweepNow), .order (.deed (.onHub (.removeIf "A" .explicit fun _ => .drop)))]
    let back : Walk := ⟨List.reverse, List.reverse_perm⟩
    (∀ a ∈ first ++ silent ++ rest, a.IsRegular) ∧
      ∃ ν : Naming, ν.link = .refl Nat ∧ List.Forall₂ (Exchange.Mirrors ν "A")
        (((opened {}).transcript (first ++ silent ++ rest)).filter (·.ask.concerns "A"))
        ((opened {} back).transcript (first ++ rest)) := by
  intro first silent rest back
  have hregular : ∀ a ∈ first ++ silent ++ rest, a.IsRegular := by
    simp [first, silent, rest, Ask.IsRegular, Hub.Op.IsRegular, Hub.Op.IsFaithful, Recipe.id?]
  have hplain : ∀ a ∈ first ++ silent ++ rest, a.IsPlain := by
    simp [first, silent, rest, Ask.IsPlain, Hub.Op.IsPlain, Recipe.opensLink]
  have hkept : (first ++ silent ++ rest).filter (Ask.concerns "A") = first ++ rest := rfl
  obtain ⟨ν, hmirrors, hsame⟩ := ids_do_not_interfere {} .byId back "A" (first ++ silent ++ rest) hregular
  obtain ⟨hlink, hasks⟩ := hsame hplain
  rw [hasks, hkept] at hmirrors
  exact ⟨hregular, ν, hlink, hmirrors⟩

end Station

end Liveness
