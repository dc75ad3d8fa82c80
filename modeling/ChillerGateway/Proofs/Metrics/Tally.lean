import ChillerGateway.Metrics.Basic
import Mathlib.Data.List.Induction

/-!
# What the counters add up to

A counter has one series for each label that came up, and all of its series together are as many as
there were counts.

* `Counts.tally` — the counts of some labels, one after the other.
* `Metrics.Tallies` — what was measured of some commands and failures.
-/

namespace ChillerGateway

namespace Counts

variable {label l : String} {counts : Counts}

theorem total_cons (label : String) (n : Nat) (counts : Counts) :
    total ((label, n) :: counts) = n + total counts := rfl

theorem total_increment (label : String) (counts : Counts) :
    (counts.increment label).total = counts.total + 1 := by
  unfold increment
  induction counts with
  | nil => rfl
  | cons series rest ih =>
    obtain ⟨l, n⟩ := series
    unfold modify
    split
    · rw [total_cons, total_cons]
      omega
    · split
      · rw [total_cons, Nat.add_comm]
      · rw [total_cons, total_cons, ih]
        omega

theorem mem_labels_increment (h : l ∈ (counts.increment label).map Prod.fst) :
    l = label ∨ l ∈ counts.map Prod.fst := by
  unfold increment at h
  induction counts with
  | nil => exact .inl (List.mem_singleton.mp h)
  | cons series rest ih =>
    obtain ⟨k, n⟩ := series
    unfold modify at h
    split at h
    · exact .inr h
    · split at h
      · exact List.mem_cons.mp h
      · rcases List.mem_cons.mp h with hk | hrest
        · exact .inr (List.mem_cons.mpr (.inl hk))
        · exact (ih hrest).imp_right (List.mem_cons_of_mem k)

/-- The counts of labels that came up one after the other. -/
def tally (labels : List String) : Counts :=
  labels.foldl (fun counts label => counts.increment label) []

theorem tally_concat (labels : List String) (label : String) :
    tally (labels ++ [label]) = (tally labels).increment label := by
  unfold tally
  rw [List.foldl_append]
  rfl

/-- All series together are as many as there were counts. -/
theorem total_tally (labels : List String) : (tally labels).total = labels.length := by
  induction labels using List.reverseRecOn with
  | nil => rfl
  | append_singleton labels label ih =>
    rw [tally_concat, total_increment, ih, List.length_append]
    rfl

/-- There is a series for no other label. -/
theorem mem_of_mem_tally {labels : List String} (h : l ∈ (tally labels).map Prod.fst) :
    l ∈ labels := by
  induction labels using List.reverseRecOn with
  | nil => cases h
  | append_singleton labels label ih =>
    rw [tally_concat] at h
    rcases mem_labels_increment h with rfl | hold
    · exact List.mem_append_right _ (List.mem_singleton_self _)
    · exact List.mem_append_left _ (ih hold)

end Counts

namespace Metrics

variable {m : Metrics} {names kinds : List String}

/-- What was measured when commands of these names had been processed, and failures of these kinds
counted. -/
structure Tallies (m : Metrics) (names kinds : List String) : Prop where
  commands : m.commands = Counts.tally names
  errors : m.errors = Counts.tally kinds
  latencies : m.latency.count = names.length

theorem Tallies.none : Tallies {} [] [] := ⟨rfl, rfl, rfl⟩

theorem Tallies.recordCommand (h : m.Tallies names kinds) (name : String)
    (seconds : Binary64) :
    (m.recordCommand name seconds).Tallies (names ++ [name]) kinds where
  commands := by
    rw [Counts.tally_concat, ← h.commands]
    rfl
  errors := h.errors
  latencies := by
    rw [List.length_append, ← h.latencies]
    rfl

theorem Tallies.cacheStatus (h : m.Tallies names kinds) (status : Json) :
    (m.cacheStatus status).Tallies names kinds := ⟨h.commands, h.errors, h.latencies⟩

theorem Tallies.recordError (h : m.Tallies names kinds) (kind : String) :
    (m.recordError kind).Tallies names (kinds ++ [kind]) where
  commands := h.commands
  errors := by
    rw [Counts.tally_concat, ← h.errors]
    rfl
  latencies := h.latencies

end Metrics

end ChillerGateway
