import Liveness.Registry.Channel
import Mathlib.Data.List.Basic

/-!
# Readers of a channel

All readers share the few items that a channel keeps.  To each of them the channel is
like a mailbox of its own, into which whatever is sent is put for as long as it does
not read, and from which it loses all but the latest items when it next reads: what the
channel keeps is the end of all that was sent (`Channel.Carries`), and a reader's
mailbox is what was sent from its place on (`Channel.Carries.receive_eq`).
-/

namespace Liveness

variable {α : Type}

/-- The item that was received. -/
def Reception.item? : Reception α → Option α
  | .item a => some a
  | .lagged _ => none

/-- What the owner of a mailbox finds in it: the oldest item, unless there are too many. -/
def Reception.ofMail (capacity : Nat) (mail : List α) : Option (Reception α) :=
  if capacity < mail.length then some (.lagged (mail.length - capacity)) else mail.head?.map .item

/-- What is then left in the mailbox. -/
def Reception.rest (capacity : Nat) (mail : List α) : List α :=
  if capacity < mail.length then mail.drop (mail.length - capacity) else mail.tail

/-- What someone received accounts for all items in order, but for those that it has not received yet: items one by
one, and those that it missed by their number. -/
inductive Reads : List α → List (Reception α) → List α → Prop
  | pending (mail : List α) : Reads mail [] mail
  | item {items mail : List α} {rs : List (Reception α)} (a : α) :
    Reads items rs mail → Reads (a :: items) (.item a :: rs) mail
  | lagged {items mail : List α} {rs : List (Reception α)} {lost : List α} :
    lost ≠ [] → Reads items rs mail → Reads (lost ++ items) (.lagged lost.length :: rs) mail

namespace Reads

variable {items mail : List α} {rs : List (Reception α)}

/-- More items come. -/
theorem arrive (h : Reads items rs mail) (new : List α) : Reads (items ++ new) rs (mail ++ new) := by
  induction h with
  | pending mail => exact .pending _
  | item a _ ih => exact ih.item a
  | lagged hlost _ ih => exact List.append_assoc .. ▸ ih.lagged hlost

/-- The owner receives once more. -/
theorem receive (h : Reads items rs mail) (capacity : Nat) :
    Reads items (rs ++ (Reception.ofMail capacity mail).toList) (Reception.rest capacity mail) := by
  induction h with
  | item a _ ih => exact ih.item a
  | lagged hlost _ ih => exact ih.lagged hlost
  | pending mail =>
    unfold Reception.ofMail Reception.rest
    split
    · rename_i hlt
      have hlen : (mail.take (mail.length - capacity)).length = mail.length - capacity := by
        rw [List.length_take]
        omega
      have hlost : mail.take (mail.length - capacity) ≠ [] := List.ne_nil_of_length_pos (by omega)
      have hreads : Reads (mail.take (mail.length - capacity) ++ mail.drop (mail.length - capacity))
          [.lagged (mail.take (mail.length - capacity)).length] _ := .lagged hlost (.pending _)
      rwa [List.take_append_drop, hlen] at hreads
    · cases mail with
      | nil => exact .pending []
      | cons a mail => exact (pending mail).item a

/-- The items that were received are some of those that came, in their order and none twice. -/
theorem sublist (h : Reads items rs mail) : (rs.filterMap Reception.item?).Sublist items := by
  induction h with
  | pending mail => exact List.nil_sublist _
  | item a _ ih => exact ih.cons_cons a
  | lagged _ _ ih => exact ih.trans (List.sublist_append_right ..)

end Reads

namespace Channel

theorem sent_foldl_send (c : Channel α) (items : List α) : (items.foldl send c).sent = c.sent + items.length := by
  induction items generalizing c with
  | nil => rfl
  | cons a items ih =>
    rw [List.foldl_cons, ih, sent_send, List.length_cons]
    omega

/-- All that was ever sent through a channel, of which it keeps the end. -/
structure Carries (c : Channel α) (history : List α) : Prop where
  sent : c.sent = history.length
  recent : c.recent = history.reverse.take channelCapacity

variable {c : Channel α} {history : List α}

theorem carries_empty : ({} : Channel α).Carries [] := ⟨rfl, rfl⟩

theorem Carries.send (h : c.Carries history) (a : α) : (c.send a).Carries (history ++ [a]) where
  sent := by simp [Channel.send, h.sent]
  recent := by
    rw [List.reverse_append, List.reverse_singleton, List.singleton_append]
    simp [Channel.send, h.recent, channelCapacity, List.take_take]

theorem Carries.foldl_send (h : c.Carries history) (items : List α) :
    (items.foldl Channel.send c).Carries (history ++ items) := by
  induction items generalizing c history with
  | nil => simpa using h
  | cons a items ih => simpa using ih (h.send a)

/-- A reader receives as from a mailbox into which all was put from its place on. -/
theorem Carries.receive_eq (h : c.Carries history) {s : Subscription} (hs : s.next ≤ history.length) :
    ∃ s', c.receive s = (Reception.ofMail channelCapacity (history.drop s.next), s') ∧
      s'.next ≤ history.length ∧ history.drop s'.next = Reception.rest channelCapacity (history.drop s.next) := by
  have holdest : c.sent - c.recent.length = history.length - channelCapacity := by
    rw [h.sent, h.recent, List.length_take, List.length_reverse]
    omega
  have hlen : (history.drop s.next).length = history.length - s.next := List.length_drop
  unfold Reception.ofMail Reception.rest
  by_cases hlag : s.next < history.length - channelCapacity
  · have hmany : channelCapacity < (history.drop s.next).length := by omega
    have hlost : (history.drop s.next).length - channelCapacity = history.length - channelCapacity - s.next := by omega
    refine ⟨⟨history.length - channelCapacity⟩, ?_, Nat.sub_le .., ?_⟩
    · rw [if_pos hmany, hlost, receive, holdest, if_pos hlag]
    · rw [if_pos hmany, hlost, List.drop_drop, Nat.add_sub_cancel' (Nat.le_of_lt hlag)]
  · -- what it has not read is still there
    have hkept : (c.recent.take (c.sent - s.next)).getLast? = (history.drop s.next).head? := by
      rw [h.recent, h.sent, List.take_take, Nat.min_eq_left (by omega), List.take_reverse, List.getLast?_reverse]
      congr 2
      omega
    cases hmail : history.drop s.next with
    | nil =>
      refine ⟨s, ?_, hs, ?_⟩ <;> simp [receive, holdest, hlag, hkept, hmail]
    | cons a mail =>
      rw [hmail, List.length_cons] at hlen
      have hnext : ¬channelCapacity < (a :: mail).length := by
        rw [List.length_cons]
        omega
      refine ⟨⟨s.next + 1⟩, ?_, ?_, ?_⟩
      · rw [if_neg hnext, receive, holdest, if_neg hlag, hkept, hmail]
        rfl
      · change s.next + 1 ≤ _
        omega
      · rw [if_neg hnext, List.tail_cons, ← List.drop_drop, hmail, List.drop_one, List.tail_cons]

end Channel

end Liveness
