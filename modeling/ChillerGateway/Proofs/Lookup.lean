import Mathlib.Data.List.Nodup

/-!
# Tables

The gateway keeps its tables as lists of keys with values, in which each key stands once.  These are
the laws of looking a key up after entries were dropped.

* `lookup_eq_some_iff` — looking a key up finds its entry.
* `lookup_filter_ne` — dropping one key leaves the others.
* `lookup_filter` — any other selection acts on each entry by itself.
* `mergeSort_keys` — sorted by its keys, a table ascends strictly.
-/

namespace ChillerGateway

namespace Table

variable {α β : Type} [BEq α] [LawfulBEq α]

theorem lookup_eq_none_of_not_mem {l : List (α × β)} {k : α} (h : k ∉ l.map Prod.fst) :
    l.lookup k = none := by
  rw [List.lookup_eq_none_iff]
  intro p hp
  have : k ≠ p.1 := fun he => h (he ▸ List.mem_map_of_mem hp)
  simpa using this

theorem mem_of_lookup {l : List (α × β)} {k : α} {b : β} (h : l.lookup k = some b) :
    (k, b) ∈ l := by
  obtain ⟨before, after, rfl, -⟩ := List.lookup_eq_some_iff.mp h
  exact List.mem_append_right before List.mem_cons_self

/-- In a table, looking a key up finds its entry, whatever stands around it. -/
theorem lookup_eq_some_iff {l : List (α × β)} (hl : (l.map Prod.fst).Nodup) {k : α} {b : β} :
    l.lookup k = some b ↔ (k, b) ∈ l := by
  refine ⟨mem_of_lookup, fun h => ?_⟩
  obtain ⟨before, after, rfl⟩ := List.append_of_mem h
  refine List.lookup_eq_some_iff.mpr ⟨before, after, rfl, fun p hp => bne_iff_ne.mpr ?_⟩
  rintro rfl
  rw [List.map_append, List.nodup_append] at hl
  exact hl.2.2 p.1 (List.mem_map_of_mem hp) p.1 List.mem_cons_self rfl

theorem lookup_filter_self [DecidableEq α] (l : List (α × β)) (k : α) :
    (l.filter (·.1 ≠ k)).lookup k = none := by
  rw [List.lookup_eq_none_iff]
  intro p hp
  have := (List.mem_filter.mp hp).2
  simp only [decide_not, Bool.not_eq_true', decide_eq_false_iff_not] at this
  simpa using Ne.symm this

theorem lookup_filter_ne [DecidableEq α] (l : List (α × β)) {k k' : α} (h : k' ≠ k) :
    (l.filter (·.1 ≠ k)).lookup k' = l.lookup k' := by
  induction l with
  | nil => rfl
  | cons p l ih =>
    obtain ⟨a, b⟩ := p
    by_cases ha : a = k
    · subst ha
      have hka : (k' == a) = false := by simpa using h
      rw [List.filter_cons_of_neg (by simp), ih, List.lookup_cons, hka]
    · rw [List.filter_cons_of_pos (by simpa using ha), List.lookup_cons, List.lookup_cons, ih]

/-- In a table, what a selection leaves of a key is decided by the key's own entry. -/
theorem lookup_filter {l : List (α × β)} (hl : (l.map Prod.fst).Nodup) (p : α × β → Bool)
    (k : α) : (l.filter p).lookup k = (l.lookup k).filter fun b => p (k, b) := by
  induction l with
  | nil => rfl
  | cons e l ih =>
    obtain ⟨a, b⟩ := e
    obtain ⟨hm, hn⟩ := List.nodup_cons.mp hl
    rw [List.lookup_cons]
    by_cases hk : k = a
    · subst hk
      have hout : (l.filter p).lookup k = none :=
        lookup_eq_none_of_not_mem fun hx =>
          hm (List.Sublist.subset (List.filter_sublist.map Prod.fst) hx)
      cases hp : p (k, b) with
      | true =>
        rw [List.filter_cons_of_pos hp]
        simp [Option.filter, hp]
      | false =>
        rw [List.filter_cons_of_neg (by simp [hp]), hout]
        simp [Option.filter, hp]
    · have hka : (k == a) = false := by simpa using hk
      simp only [hka]
      cases hp : p (a, b) with
      | true => rw [List.filter_cons_of_pos hp, List.lookup_cons, hka]; exact ih hn
      | false => rw [List.filter_cons_of_neg (by simp [hp])]; exact ih hn

/-- Sorted by its keys, a table ascends strictly. -/
theorem mergeSort_keys {l : List (String × β)} (hl : (l.map Prod.fst).Nodup) :
    ((l.mergeSort fun a b => decide (a.1 ≤ b.1)).map Prod.fst).Pairwise (· < ·) := by
  have hsorted : (l.mergeSort fun a b => decide (a.1 ≤ b.1)).Pairwise
      fun a b => decide (a.1 ≤ b.1) = true := by
    apply List.pairwise_mergeSort
    · exact fun a b c hab hbc =>
        decide_eq_true (String.le_trans (of_decide_eq_true hab) (of_decide_eq_true hbc))
    · intro a b
      rw [Bool.or_eq_true, decide_eq_true_eq, decide_eq_true_eq]
      exact String.le_total a.1 b.1
  have hdistinct : ((l.mergeSort fun a b => decide (a.1 ≤ b.1)).map Prod.fst).Nodup :=
    ((List.mergeSort_perm _ _).map Prod.fst).nodup_iff.mpr hl
  rw [List.pairwise_map]
  refine (hsorted.and (List.pairwise_map.mp hdistinct)).imp ?_
  rintro a b ⟨hle, hne⟩
  exact Std.lt_of_le_of_ne (of_decide_eq_true hle) hne

end Table

end ChillerGateway
