import ChillerGateway.Proofs.RateLimiter.Window

/-!
# The calls of one window

Within one window nothing that a key was admitted at is forgotten, whatever order the readings come in
and whoever else calls.  So a key is admitted there at most as often as its limit says, and a key that
was not heard of before exactly as often.

* `Remembers` — what a limiter knows of a key since a window began.
* `Remembers.call` — what is left of it after a call of whichever key.
-/

namespace ChillerGateway

namespace RateLimiter

variable {l : RateLimiter} {key : String} {start now : Nat} {old recent : List Nat}

/-- A limiter remembers of a key some readings and, after them, all at which it was admitted since
the window began. -/
structure Remembers (l : RateLimiter) (key : String) (start : Nat) (old recent : List Nat) :
    Prop where
  /-- Each key has one queue. -/
  unique : (l.queues.map Prod.fst).Nodup
  queue : l.queue key = old ++ recent
  since : ∀ t ∈ recent, start ≤ t
  short : recent.length ≤ l.maxRequests

theorem Remembers.beginning (hu : (l.queues.map Prod.fst).Nodup) (key : String) (start : Nat) :
    Remembers l key start (l.queue key) [] where
  unique := hu
  queue := (List.append_nil _).symm
  since := fun t ht => by cases ht
  short := Nat.zero_le _

section

variable (h : Remembers l key start old recent) (hpos : 0 < l.window)
  (hnow : now < start + l.window)

include h hpos hnow

/-- Until the window ends no reading in it expires. -/
theorem Remembers.not_expired : ∀ t ∈ recent, l.expired now t = false := by
  intro t ht
  have hsince := h.since t ht
  simp only [expired, decide_eq_false_iff_not]
  omega

/-- A sweep drops older readings at most. -/
theorem Remembers.swept : ∃ left, left <:+ old ∧ (l.sweep now).queue key = left ++ recent := by
  rcases queue_sweep h.unique now key with hsame | ⟨hnone, hlast⟩
  · exact ⟨old, List.suffix_refl old, hsame.trans h.queue⟩
  · rcases List.eq_nil_or_concat recent with rfl | ⟨init, last, rfl⟩
    · exact ⟨[], List.nil_suffix, hnone⟩
    · -- The newest reading is a recent one.
      rw [h.queue, List.concat_eq_append, ← List.append_assoc, List.getLast?_concat] at hlast
      have hmem : last ∈ init.concat last := by simp
      cases (hlast last rfl).symm.trans (h.not_expired hpos hnow last hmem)

/-- The purge before a call of the key drops older readings at most. -/
theorem Remembers.purged : ∃ left, left <:+ old ∧ l.purged key now = left ++ recent := by
  obtain ⟨swept, hswept, hqueue⟩ := h.swept hpos hnow
  have hrecent : recent.dropWhile (l.expired now) = recent := by
    cases recent with
    | nil => rfl
    | cons t rest =>
      rw [List.dropWhile_cons_of_neg]
      rw [h.not_expired hpos hnow t List.mem_cons_self]
      exact Bool.false_ne_true
  rw [purged_eq_dropWhile, hqueue, List.dropWhile_append]
  split
  · exact ⟨[], List.nil_suffix, hrecent⟩
  · exact ⟨_, (List.dropWhile_suffix _).trans hswept, rfl⟩

/-- **A key is admitted within the window only while it keeps to its limit**, and if nothing older is
remembered of it, as long as it does. -/
theorem Remembers.allowed :
    ((l.allowAt key now).1 = true → recent.length < l.maxRequests) ∧
      (old = [] → recent.length < l.maxRequests → (l.allowAt key now).1 = true) := by
  obtain ⟨left, hleft, hpurged⟩ := h.purged hpos hnow
  rw [allowAt_fst, hpurged, decide_eq_true_eq, List.length_append]
  refine ⟨fun hlt => by omega, ?_⟩
  rintro rfl hlt
  rw [List.suffix_nil.mp hleft, List.length_nil, Nat.zero_add]
  exact hlt

/-- **A call before the window ends leaves all that was remembered since it began**, with its own
reading if it is of that key, and then within the window, and admitted. -/
theorem Remembers.call (other : String) (hstart : other = key → start ≤ now) :
    ∃ left, left <:+ old ∧ Remembers (l.allowAt other now).2 key start left
      (recent ++ if other = key ∧ (l.allowAt other now).1 = true then [now] else []) := by
  have hunique := allowAt_unique h.unique other now
  by_cases hkey : other = key
  · subst hkey
    obtain ⟨left, hleft, hpurged⟩ := h.purged hpos hnow
    have hqueue := queue_allowAt l other other now
    rw [if_pos rfl, hpurged, List.append_assoc] at hqueue
    simp only [true_and]
    refine ⟨left, hleft, hunique, hqueue, ?_, ?_⟩
    · refine List.forall_mem_append.mpr ⟨h.since, ?_⟩
      split
      · exact List.forall_mem_singleton.mpr (hstart rfl)
      · exact fun t ht => by cases ht
    · rw [allowAt_maxRequests, List.length_append]
      split
      · exact (h.allowed hpos hnow).1 ‹_›
      · exact h.short
  · obtain ⟨left, hleft, hswept⟩ := h.swept hpos hnow
    rw [if_neg fun hboth => hkey hboth.1, List.append_nil]
    refine ⟨left, hleft, hunique, ?_, h.since, (allowAt_maxRequests l other now).symm ▸ h.short⟩
    rw [queue_allowAt, if_neg (Ne.symm hkey), hswept]

end

end RateLimiter

end ChillerGateway
