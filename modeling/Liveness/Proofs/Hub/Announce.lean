import Liveness.Hub.Basic

/-!
# What an announcement leaves behind

Observers that hear of a change touch nothing but themselves, the tallies and the
trace: `Undisturbed` names all the rest.  What any reader picks out of the trace
grows by one item for each observer, as `seen_announce` says.
-/

namespace Liveness.Hub

variable {now : Int} {n : Notice}

/-- Two hubs that differ at most in what those who listen to the registry keep for themselves. -/
structure Undisturbed (h h' : Hub) : Prop where
  registry : h'.registry = h.registry
  links : h'.links = h.links
  slots : h'.slots = h.slots
  watchers : h'.watchers = h.watchers
  observers : h'.observers.length = h.observers.length

namespace Undisturbed

variable {h₁ h₂ h₃ : Hub}

theorem refl (h : Hub) : h.Undisturbed h := ⟨rfl, rfl, rfl, rfl, rfl⟩

theorem trans (h : h₁.Undisturbed h₂) (h' : h₂.Undisturbed h₃) : h₁.Undisturbed h₃ where
  registry := h'.registry.trans h.registry
  links := h'.links.trans h.links
  slots := h'.slots.trans h.slots
  watchers := h'.watchers.trans h.watchers
  observers := h'.observers.trans h.observers

end Undisturbed

theorem undisturbed_emit (h : Hub) (what : Happening) : h.Undisturbed (h.emit now what) :=
  ⟨rfl, rfl, rfl, rfl, rfl⟩

theorem undisturbed_act (h : Hub) (role : ObserverRole) : h.Undisturbed (h.act now n role) := by
  cases role <;> exact ⟨rfl, rfl, rfl, rfl, rfl⟩

theorem undisturbed_tell (h : Hub) (j : Nat) : h.Undisturbed (tell now n h j) := by
  cases hj : h.observers[j]? with
  | none => simpa [tell, hj] using .refl h
  | some o =>
    have hheard : h.Undisturbed
        ({ h with observers := h.observers.set j { o with heard := o.heard + 1 } }.emit now
          (.observed j n (h.registry.contains n.id))) := ⟨rfl, rfl, rfl, rfl, by simp [emit]⟩
    simp only [tell, hj]
    split
    · exact hheard.trans (undisturbed_act _ o.role)
    · exact hheard
    · exact hheard.trans (undisturbed_emit _ _)

theorem undisturbed_foldl_tell (js : List Nat) (h : Hub) : h.Undisturbed (js.foldl (tell now n) h) := by
  induction js generalizing h with
  | nil => exact .refl h
  | cons j js ih => exact (undisturbed_tell h j).trans (ih _)

theorem undisturbed_announce (h : Hub) : h.Undisturbed (h.announce now n) :=
  have hfold : h.Undisturbed ((List.range h.observers.length).foldl (tell now n) h) :=
    undisturbed_foldl_tell _ h
  ⟨hfold.registry, hfold.links, hfold.slots, hfold.watchers, hfold.observers⟩

theorem channel_tell (h : Hub) (i : Nat) : (tell now n h i).channel = h.channel := by
  unfold tell
  split
  · rfl
  · rename_i o _
    dsimp only
    split
    · cases o.role <;> rfl
    · rfl
    · rfl

/-- A notice goes through the channel once. -/
theorem channel_announce (h : Hub) (n : Notice) : (h.announce now n).channel = h.channel.send n.event := by
  have hfold : ∀ (is : List Nat) (h : Hub), (is.foldl (tell now n) h).channel = h.channel := by
    intro is
    induction is with
    | nil => exact fun _ => rfl
    | cons i is ih => exact fun h => (ih _).trans (channel_tell h i)
  exact congrArg (·.send n.event) (hfold _ h)

/-! ## Readers of the trace -/

variable {α : Type} {f : Stamped → Option α}

/-- What a reader picks out of the trace. -/
def seen (f : Stamped → Option α) (h : Hub) : List α := h.trace.toList.filterMap f

@[simp] theorem seen_emit (h : Hub) (what : Happening) :
    (h.emit now what).seen f = h.seen f ++ (f ⟨now, what⟩).toList := by
  cases hf : f ⟨now, what⟩ <;> simp [seen, emit, hf]

/-- Among listeners called in turn, the call of one. -/
theorem filterMap_range_pick {k m : Nat} (hk : k < m) {g : Nat → Option α} (hg : ∀ j, j ≠ k → g j = none) :
    (List.range m).filterMap g = (g k).toList := by
  obtain ⟨r, rfl⟩ : ∃ r, m = k + 1 + r := ⟨_, (Nat.add_sub_of_le hk).symm⟩
  have hbefore : ∀ j ∈ List.range k, g j = none :=
    fun j hj => hg j (Nat.ne_of_lt (List.mem_range.mp hj))
  have hlater : ∀ j ∈ (List.range r).map (k + 1 + ·), g j = none := by
    intro j hj
    obtain ⟨l, -, rfl⟩ := List.mem_map.mp hj
    exact hg _ (by omega)
  rw [List.range_add, List.range_succ, List.filterMap_append, List.filterMap_append,
    List.filterMap_eq_nil_iff.mpr hbefore, List.filterMap_eq_nil_iff.mpr hlater]
  cases hgk : g k <;> simp [hgk]

/-- A reader that takes no notice of the log. -/
def SkipsLog (f : Stamped → Option α) : Prop := ∀ now line, f ⟨now, .logged line⟩ = none

theorem SkipsLog.seen_log (hf : SkipsLog f) (h : Hub) (line : LogLine) :
    (h.log now line).seen f = h.seen f := by
  simp [log, hf now line]

theorem SkipsLog.seen_act (hf : SkipsLog f) (h : Hub) (role : ObserverRole) :
    (h.act now n role).seen f = h.seen f := by
  cases role with
  | idle => rfl
  | logger => exact hf.seen_log h _
  | tally k => rfl

theorem SkipsLog.seen_tell (hf : SkipsLog f) (h : Hub) {j : Nat} (hj : j < h.observers.length) :
    (tell now n h j).seen f =
      h.seen f ++ (f ⟨now, .observed j n (h.registry.contains n.id)⟩).toList := by
  simp only [tell, List.getElem?_eq_getElem hj]
  split
  · rw [hf.seen_act, seen_emit]; rfl
  · rw [seen_emit]; rfl
  · rw [hf.seen_log, seen_emit]; rfl

/-- A notice reaches every observer once, in turn, and each one finds the registry as it is then. -/
theorem SkipsLog.seen_announce (hf : SkipsLog f) (h : Hub) :
    (h.announce now n).seen f =
      h.seen f ++ (List.range h.observers.length).filterMap fun j =>
        f ⟨now, .observed j n (h.registry.contains n.id)⟩ := by
  suffices ∀ js : List Nat, (∀ j ∈ js, j < h.observers.length) →
      (js.foldl (tell now n) h).seen f =
        h.seen f ++ js.filterMap fun j => f ⟨now, .observed j n (h.registry.contains n.id)⟩ from
    this _ fun j => List.mem_range.mp
  intro js
  induction js generalizing h with
  | nil => simp
  | cons j js ih =>
    intro hjs
    have htell : h.Undisturbed (tell now n h j) := undisturbed_tell h j
    rw [List.foldl_cons, ih _ fun k hk => htell.observers ▸ hjs k (List.mem_cons_of_mem j hk),
      hf.seen_tell h (hjs j List.mem_cons_self), htell.registry, List.append_assoc]
    cases hfj : f ⟨now, .observed j n (h.registry.contains n.id)⟩ <;> simp [hfj]

end Liveness.Hub
