import Liveness.Proofs.Hub.Panics
import Liveness.Proofs.Registry.Mailbox
import Liveness.Proofs.Registry.Replay

/-!
# Subscribers read what observers are told

What all observers are told in a call goes once through the channel, as events
(`Hub.Tidings`).  So a subscriber that receives now and then, while calls are made and
others subscribe and receive, hears what the owner of a mailbox would into which the
events of each call are put (`Audience.hears_as_owner`), and nothing else makes a
difference to it (`Audience.subscriber_hears`).
-/

namespace Liveness

namespace Hub

variable {h : Hub}

/-- What happens in each of some calls. -/
inductive News : Hub → List Call → List (List Movement) → Prop
  | nil {h : Hub} : News h [] []
  | cons {h : Hub} {c : Call} {cs : List Call} {ms : List Movement} {mss : List (List Movement)} :
    h.Tidings c ms → News (h.step c.1 c.2) cs mss → News h (c :: cs) (ms :: mss)

theorem exists_news (h : Hub) (calls : List Call) : ∃ mss, News h calls mss := by
  induction calls generalizing h with
  | nil => exact ⟨[], .nil⟩
  | cons c cs ih =>
    obtain ⟨ms, hms⟩ := exists_tidings h c
    obtain ⟨mss, hmss⟩ := ih (h.step c.1 c.2)
    exact ⟨ms :: mss, .cons hms hmss⟩

/-- A call that takes a device away silently, or that may make one but fails to. -/
def Op.isUntold : Op → Bool
  | .removeSilently _ | .getOrCreate _ (.fail _) | .getOrCreate _ (.panic _) => true
  | _ => false

/-- There is nothing to read of devices that go silently or are not made. -/
theorem Tidings.events_of_isUntold {c : Call} {ms : List Movement} (hms : h.Tidings c ms) (hc : c.2.isUntold = true) :
    Movement.events ms = [] := by
  obtain ⟨now, op⟩ := c
  have hsame : (h.step now op).channel = h.channel := by
    match op, hc with
    | .removeSilently _, _ => rw [step, removeSilently_eq]
    | .getOrCreate id (.fail _), _ | .getOrCreate id (.panic _), _ =>
      rw [step]
      cases hd : h.registry.get? id with
      | some d => rw [getOrCreate_of_some h _ hd]
      | none =>
        rw [getOrCreate_of_none h _ hd]
        rfl
  have hsent := congrArg Channel.sent (hms.channel.symm.trans hsame)
  rw [Channel.sent_foldl_send] at hsent
  exact List.eq_nil_of_length_eq_zero (by omega)

theorem News.events_of_isUntold {calls : List Call} {mss : List (List Movement)} (hnews : h.News calls mss) :
    ∀ x ∈ calls.zip mss, x.1.2.isUntold = true → Movement.events x.2 = [] := by
  induction hnews with
  | nil => simp
  | cons hms _ ih =>
    rw [List.zip_cons_cons, List.forall_mem_cons]
    exact ⟨hms.events_of_isUntold, ih⟩

end Hub

/-- A hub and those who read of it. -/
structure Audience where
  hub : Hub := {}
  readers : List Subscription := []

namespace Audience

open Hub (Call)

/-- What may happen next: a call, someone who subscribes, or a subscriber who receives. -/
inductive Move where
  | call (c : Call)
  | subscribe
  | receive (k : Nat)

def step (a : Audience) : Move → Audience
  | .call c => { a with hub := a.hub.step c.1 c.2 }
  | .subscribe => { a with readers := a.readers ++ [a.hub.channel.subscribe] }
  | .receive k => { a with readers := a.readers.modify k fun s => (a.hub.channel.receive s).2 }

def run (a : Audience) (moves : List Move) : Audience := moves.foldl step a

/-- What a subscriber gets that receives now. -/
def answer (k : Nat) (a : Audience) : Option (Reception DeviceEvent) :=
  (a.readers[k]?).bind fun s => (a.hub.channel.receive s).1

/-- What a subscriber gets each time it receives. -/
def heard (k : Nat) : Audience → List Move → List (Option (Reception DeviceEvent))
  | _, [] => []
  | a, .receive j :: moves =>
    if j = k then a.answer k :: heard k (a.step (.receive j)) moves else heard k (a.step (.receive j)) moves
  | a, m :: moves => heard k (a.step m) moves

/-- The calls among some moves. -/
def calls : List Move → List Call
  | [] => []
  | .call c :: moves => c :: calls moves
  | .subscribe :: moves | .receive _ :: moves => calls moves

/-- The moves that concern a subscriber, who is then the only one. -/
def own (k : Nat) : List Move → List Move
  | [] => []
  | .call c :: moves => .call c :: own k moves
  | .subscribe :: moves => own k moves
  | .receive j :: moves => if j = k then .receive 0 :: own k moves else own k moves

/-- A call that brings a listener brings one that does not panic. -/
def Move.soothed : Move → Move
  | .call c => .call (c.1, c.2.soothed)
  | .subscribe => .subscribe
  | .receive k => .receive k

/-! ## Mailboxes -/

/-- What happens to a mailbox: something is put into it, or its owner receives. -/
inductive Post where
  | put (events : List DeviceEvent)
  | receive

/-- What the owner of a mailbox gets each time it receives, and what is left in the end. -/
def owner (mail : List DeviceEvent) : List Post → List (Option (Reception DeviceEvent)) × List DeviceEvent
  | [] => ([], mail)
  | .put events :: ps => owner (mail ++ events) ps
  | .receive :: ps =>
    let (rs, left) := owner (Reception.rest channelCapacity mail) ps
    (Reception.ofMail channelCapacity mail :: rs, left)

/-- What happens to a subscriber's mailbox, by what happens in each call. -/
def posts (k : Nat) : List Move → List (List Movement) → List Post
  | .call _ :: moves, ms :: mss => .put (Movement.events ms) :: posts k moves mss
  | .call _ :: moves, [] => posts k moves []
  | .subscribe :: moves, mss => posts k moves mss
  | .receive j :: moves, mss => if j = k then .receive :: posts k moves mss else posts k moves mss
  | [], _ => []

/-- What is put into a mailbox. -/
def put : List Post → List DeviceEvent
  | [] => []
  | .put events :: ps => events ++ put ps
  | .receive :: ps => put ps

/-- The owner of a mailbox hears of all that is put into it. -/
theorem reads_owner {events mail : List DeviceEvent} {rs : List (Reception DeviceEvent)} (h : Reads events rs mail)
    (ps : List Post) : Reads (events ++ put ps) (rs ++ (owner mail ps).1.filterMap id) (owner mail ps).2 := by
  induction ps generalizing events mail rs with
  | nil => simpa [put, owner] using h
  | cons p ps ih =>
    cases p with
    | put new => simpa [put, owner] using ih (h.arrive new)
    | receive =>
      have hnext := ih (h.receive channelCapacity)
      cases hr : Reception.ofMail channelCapacity mail <;> simpa [put, owner, hr] using hnext

/-! ## Runs -/

variable {a b : Audience} {j k : Nat} {history : List DeviceEvent}

/-- What a subscriber has not read is all that was sent from its place on. -/
def Follows (k : Nat) (a : Audience) (mail : List DeviceEvent) : Prop :=
  ∃ history s, a.hub.channel.Carries history ∧ a.readers[k]? = some s ∧ s.next ≤ history.length ∧
    history.drop s.next = mail

variable {mail : List DeviceEvent}

/-- The hub does not know who reads of it. -/
theorem hub_run (a : Audience) (moves : List Move) : (a.run moves).hub = a.hub.run (calls moves) := by
  induction moves generalizing a with
  | nil => rfl
  | cons m moves ih => cases m <;> exact ih _

/-- Something was sent through the channel, whoever reads of it. -/
theorem carries_run (h : a.hub.channel.Carries history) (moves : List Move) :
    ∃ history, (a.run moves).hub.channel.Carries history := by
  induction moves generalizing a history with
  | nil => exact ⟨history, h⟩
  | cons m moves ih =>
    cases m with
    | call c =>
      obtain ⟨ms, hms⟩ := Hub.exists_tidings a.hub c
      exact ih (a := a.step (.call c)) (hms.channel ▸ h.foldl_send _)
    | subscribe | receive => exact ih (a := a.step _) h

theorem Follows.call (h : a.Follows k mail) {c : Call} {ms : List Movement}
    (hms : a.hub.Tidings c ms) : (a.step (.call c)).Follows k (mail ++ Movement.events ms) := by
  obtain ⟨history, s, hcarries, hs, hle, hmail⟩ := h
  refine ⟨history ++ Movement.events ms, s, hms.channel ▸ hcarries.foldl_send _, hs, ?_, ?_⟩
  · rw [List.length_append]
    exact Nat.le_add_right_of_le hle
  · rw [List.drop_append_of_le_length hle, hmail]

/-- Who subscribes has nothing to read. -/
theorem follows_subscribe (h : a.hub.channel.Carries history) : (a.step .subscribe).Follows a.readers.length [] := by
  refine ⟨history, a.hub.channel.subscribe, h, List.getElem?_concat_length, ?_, ?_⟩
  · exact Nat.le_of_eq h.sent
  · rw [Channel.subscribe, h.sent, List.drop_length]

theorem Follows.subscribe (h : a.Follows k mail) : (a.step .subscribe).Follows k mail := by
  obtain ⟨history, s, hcarries, hs, hle, hmail⟩ := h
  have hlt : k < a.readers.length := (List.getElem?_eq_some_iff.mp hs).1
  exact ⟨history, s, hcarries, (List.getElem?_append_left hlt).trans hs, hle, hmail⟩

theorem Follows.receive_of_ne (h : a.Follows k mail) (hj : j ≠ k) : (a.step (.receive j)).Follows k mail := by
  obtain ⟨history, s, hcarries, hs, hle, hmail⟩ := h
  refine ⟨history, s, hcarries, ?_, hle, hmail⟩
  rw [step, List.getElem?_modify_ne _ _ hj, hs]

/-- A subscriber receives as the owner of a mailbox does. -/
theorem Follows.receive (h : a.Follows k mail) :
    a.answer k = Reception.ofMail channelCapacity mail ∧
      (a.step (.receive k)).Follows k (Reception.rest channelCapacity mail) := by
  obtain ⟨history, s, hcarries, hs, hle, rfl⟩ := h
  obtain ⟨s', hreceive, hle', hrest⟩ := hcarries.receive_eq hle
  refine ⟨by rw [answer, hs, Option.bind_some, hreceive], history, s', hcarries, ?_, hle', hrest⟩
  rw [step, List.getElem?_modify_eq, hs, Option.map_eq_map, Option.map_some, hreceive]

/-- A subscriber hears what the owner of a mailbox does into which the events of each call are put. -/
theorem hears_as_owner (h : a.Follows k mail) {moves : List Move} {mss : List (List Movement)}
    (hnews : a.hub.News (calls moves) mss) :
    heard k a moves = (owner mail (posts k moves mss)).1 ∧
      (a.run moves).Follows k (owner mail (posts k moves mss)).2 := by
  induction moves generalizing a mail mss with
  | nil => exact ⟨rfl, h⟩
  | cons m moves ih =>
    cases m with
    | call c =>
      cases hnews with
      | cons hms hrest => exact ih (h.call hms) hrest
    | subscribe => exact ih h.subscribe hnews
    | receive j =>
      by_cases hj : j = k
      · subst hj
        obtain ⟨hanswer, hnext⟩ := h.receive
        obtain ⟨hheard, hrest⟩ := ih hnext hnews
        simp only [heard, posts, if_true, owner, hanswer, hheard, true_and]
        exact hrest
      · simp only [heard, posts, if_neg hj]
        exact ih (h.receive_of_ne hj) hnews

/-! ## What makes no difference -/

theorem calls_own (k : Nat) (moves : List Move) : calls (own k moves) = calls moves := by
  induction moves with
  | nil => rfl
  | cons m moves ih =>
    cases m with
    | call c => exact congrArg (c :: ·) ih
    | subscribe => exact ih
    | receive j =>
      simp only [own]
      split <;> exact ih

theorem posts_own (k : Nat) (moves : List Move) (mss : List (List Movement)) :
    posts 0 (own k moves) mss = posts k moves mss := by
  induction moves generalizing mss with
  | nil => rfl
  | cons m moves ih =>
    cases m with
    | call c =>
      cases mss with
      | nil => exact ih []
      | cons ms mss => exact congrArg (_ :: ·) (ih mss)
    | subscribe => exact ih mss
    | receive j =>
      simp only [own, posts]
      split
      · simp only [posts, if_true, ih]
      · exact ih mss

theorem put_posts {h : Hub} {moves : List Move} {mss : List (List Movement)} (hnews : h.News (calls moves) mss) :
    put (posts k moves mss) = Movement.events mss.flatten := by
  induction moves generalizing h mss with
  | nil =>
    cases hnews
    rfl
  | cons m moves ih =>
    cases m with
    | call c =>
      cases hnews with
      | cons hms hrest => simp [posts, put, ih hrest]
    | subscribe => exact ih hnews
    | receive j =>
      simp only [posts]
      split
      · exact ih hnews
      · exact ih hnews

/-- Panics make no difference to what goes through the channel and to who reads of it. -/
theorem alike_run (hhub : a.hub.Alike b.hub) (hreaders : b.readers = a.readers) (moves : List Move) :
    (a.run moves).hub.Alike (b.run (moves.map Move.soothed)).hub ∧
      (b.run (moves.map Move.soothed)).readers = (a.run moves).readers ∧
      heard k b (moves.map Move.soothed) = heard k a moves := by
  induction moves generalizing a b with
  | nil => exact ⟨hhub, hreaders, rfl⟩
  | cons m moves ih =>
    cases m with
    | call c => exact ih (a := a.step (.call c)) (Hub.agree_step hhub c.1 c.2).alike hreaders
    | subscribe =>
      refine ih (a := a.step .subscribe) (b := b.step .subscribe) hhub ?_
      simp only [step, hreaders, hhub.channel]
    | receive j =>
      have hstep : (b.step (.receive j)).readers = (a.step (.receive j)).readers := by
        simp only [step, hreaders, hhub.channel]
      have hanswer : b.answer k = a.answer k := by simp only [answer, hreaders, hhub.channel]
      obtain ⟨halike, hsame, hheard⟩ := ih (a := a.step (.receive j)) (b := b.step (.receive j)) hhub hstep
      refine ⟨halike, hsame, ?_⟩
      simp only [List.map_cons, Move.soothed, heard, hanswer, hheard]

/-- What a subscriber hears, whenever it subscribes and receives, and whatever else happens in the meantime.  It
hears what the owner of a mailbox would into which, call by call, the events are put of what the observers are
told: the events in their order and none twice, of which it misses some only if more are pending than the channel
keeps, and is then told how many.  None are lost while at most a hundred are pending.  It would hear the same if it
were the only one to subscribe, and if no listener panicked. -/
theorem subscriber_hears (earlier later : List Move) :
    let hub := ({} : Hub).run (calls earlier)
    let before := ({} : Audience).run earlier
    let k := before.readers.length
    let start := before.step .subscribe
    let soothed := (({} : Audience).run (earlier.map Move.soothed)).step .subscribe
    ∃ mss mail,
      -- what observers are told in each call; no event tells of devices that go silently or are not made
      hub.News (calls later) mss ∧
      (∀ x ∈ (calls later).zip mss, x.1.2.isUntold = true → Movement.events x.2 = []) ∧
      -- the mailbox, and what it means
      owner [] (posts k later mss) = (heard k start later, mail) ∧
      Reads (Movement.events mss.flatten) ((heard k start later).filterMap id) mail ∧
      (((heard k start later).filterMap id).filterMap Reception.item?).Sublist (Movement.events mss.flatten) ∧
      (start.run later).answer k = Reception.ofMail channelCapacity mail ∧
      (mail.length ≤ 100 → (start.run later).answer k = mail.head?.map .item) ∧
      -- what makes no difference
      heard 0 ⟨hub, [hub.channel.subscribe]⟩ (own k later) = heard k start later ∧
      heard k soothed (later.map Move.soothed) = heard k start later := by
  intro hub before k start soothed
  have hhub : start.hub = hub := hub_run {} earlier
  obtain ⟨history, hcarries⟩ := carries_run (a := {}) Channel.carries_empty earlier
  have hstart : start.Follows k [] := follows_subscribe hcarries
  obtain ⟨mss, hnews⟩ := Hub.exists_news hub (calls later)
  obtain ⟨hheard, hfollows⟩ := hears_as_owner hstart (hhub ▸ hnews)
  have hanswer := hfollows.receive.1
  have hreads : Reads (put (posts k later mss)) ((owner [] (posts k later mss)).1.filterMap id) _ :=
    reads_owner (.pending []) (posts k later mss)
  rw [put_posts hnews, ← hheard] at hreads
  refine ⟨mss, (owner [] (posts k later mss)).2, hnews, hnews.events_of_isUntold, by rw [hheard], hreads,
    hreads.sublist, hanswer, fun hfew => ?_, ?_, ?_⟩
  · rw [hanswer, Reception.ofMail, if_neg (Nat.not_lt.mpr (Nat.le_trans hfew (by decide)))]
  · have halone : Follows 0 ⟨hub, [hub.channel.subscribe]⟩ [] :=
      follows_subscribe (a := ⟨hub, []⟩) (hhub ▸ hcarries)
    have hnews' : hub.News (calls (own k later)) mss := (calls_own k later).symm ▸ hnews
    rw [(hears_as_owner halone hnews').1, posts_own, hheard]
  · obtain ⟨halike, hreaders, -⟩ := alike_run (k := 0) (a := {}) (b := {}) (Hub.alike_soothed {}) rfl earlier
    refine (alike_run (a := start) (b := soothed) halike ?_ later).2.2
    change _ ++ [Channel.subscribe _] = _ ++ [Channel.subscribe _]
    rw [hreaders, halike.channel]

end Audience

end Liveness
