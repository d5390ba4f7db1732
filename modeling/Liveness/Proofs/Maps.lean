import Std.Data.DTreeMap.Internal.WF.Lemmas
import Std.Data.ExtTreeMap

/-!
# Maps

What a change of a map comes to, and its values in the order of their keys.
-/

namespace Liveness

variable {α β : Type} {cmp : α → α → Ordering} [Std.TransCmp cmp]

/-- The values of a map are those of its list. -/
theorem values_eq_map_snd_toList (m : Std.ExtTreeMap α β cmp) : m.values = m.toList.map Prod.snd := by
  obtain ⟨⟨q⟩⟩ := m
  induction q using Quotient.ind with
  | _ t =>
    change t.inner.values = (Std.DTreeMap.Internal.Impl.Const.toList t.inner).map Prod.snd
    rw [Std.DTreeMap.Internal.Impl.values_eq_map_snd,
      Std.DTreeMap.Internal.Impl.Const.toList_eq_toListModel_map, List.map_map]
    rfl

variable [Std.LawfulEqCmp cmp]

theorem insert_of_getElem? {m : Std.ExtTreeMap α β cmp} {a : α} {b : β}
    (h : m[a]? = some b) : m.insert a b = m := by
  refine Std.ExtTreeMap.ext_getElem? fun a' => ?_
  rw [Std.ExtTreeMap.getElem?_insert]
  split
  · rename_i heq
    obtain rfl : a = a' := Std.LawfulEqCmp.eq_of_compare heq
    exact h.symm
  · rfl

theorem insert_insert (m : Std.ExtTreeMap α β cmp) (a : α) (b c : β) :
    (m.insert a b).insert a c = m.insert a c := by
  refine Std.ExtTreeMap.ext_getElem? fun a' => ?_
  simp only [Std.ExtTreeMap.getElem?_insert]
  split <;> rfl

theorem erase_insert {m : Std.ExtTreeMap α β cmp} {a : α} (h : m[a]? = none)
    (b : β) : (m.insert a b).erase a = m := by
  refine Std.ExtTreeMap.ext_getElem? fun a' => ?_
  rw [Std.ExtTreeMap.getElem?_erase, Std.ExtTreeMap.getElem?_insert]
  split
  · rename_i heq
    obtain rfl : a = a' := Std.LawfulEqCmp.eq_of_compare heq
    exact h.symm
  · rfl

theorem erase_insert_eq_erase (m : Std.ExtTreeMap α β cmp) (a : α) (b : β) :
    (m.insert a b).erase a = m.erase a := by
  refine Std.ExtTreeMap.ext_getElem? fun a' => ?_
  simp only [Std.ExtTreeMap.getElem?_erase, Std.ExtTreeMap.getElem?_insert]
  split <;> rfl

/-- The keys in the list of a map are different. -/
theorem nodup_map_fst_toList (m : Std.ExtTreeMap α β cmp) :
    (m.toList.map Prod.fst).Nodup := by
  refine List.pairwise_map.mpr ((Std.ExtTreeMap.distinct_keys_toList (t := m)).imp ?_)
  rintro a b hne heq
  exact hne (heq ▸ Std.ReflCmp.compare_self)

/-- The values that pass a test are as many as the keys that lead to them, which are all different. -/
theorem length_filter_values (m : Std.ExtTreeMap α β cmp) (p : β → Bool) :
    ∃ keys : List α, keys.Nodup ∧ (∀ a, a ∈ keys ↔ ∃ b, m[a]? = some b ∧ p b) ∧
      (m.values.filter p).length = keys.length := by
  refine ⟨(m.toList.filter (p ·.2)).map Prod.fst, ?_, ?_, ?_⟩
  · exact (nodup_map_fst_toList m).sublist (List.filter_sublist.map _)
  · intro a
    simp only [List.mem_map, List.mem_filter, Prod.exists, exists_and_right, exists_eq_right,
      Std.ExtTreeMap.mem_toList_iff_getElem?_eq_some]
  · rw [values_eq_map_snd_toList, List.filter_map, List.length_map, List.length_map]
    rfl

end Liveness
