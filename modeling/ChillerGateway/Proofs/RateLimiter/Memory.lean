import ChillerGateway.Proofs.RateLimiter.Window
import Mathlib.Data.List.Dedup
import Mathlib.Data.List.Perm.Subperm

/-!
# What a limiter remembers

A key is forgotten when it calls after all its readings left the window, when a sweep that any key
triggers finds its newest reading outside, and at once under a limit of zero.  No timer sees to
this, so a key can stay for longer than a window, but not for two: the last sweep is less than a
window ago, and the newest reading of a key that it left was inside the window then.

* `Compact` — the invariant: short queues, each with a newest reading that the last sweep would
  leave.
* `Compact.call` — every call keeps it, and finds or makes a sweep less than a window ago.
* `remembers_recent_keys` — what is remembered after each call, and that a call which is refused
  adds no key.
-/

namespace ChillerGateway

namespace RateLimiter

variable {l : RateLimiter} {key : String} {now last : Nat}

/-- The keys that are remembered. -/
def keys (l : RateLimiter) : List String := l.queues.map Prod.fst

theorem length_keys (l : RateLimiter) : l.keys.length = l.trackedKeys := List.length_map _

/-! ## What a call leaves -/

theorem mem_put {q : List Nat} {queues : List (String × List Nat)} {e : String × List Nat} :
    e ∈ put key q queues ↔ e = (key, q) ∧ q ≠ [] ∨ e ∈ queues ∧ e.1 ≠ key := by
  unfold put
  cases q with
  | nil => simp
  | cons t rest => simp

theorem lastSweep_allowAt (l : RateLimiter) (key : String) (now : Nat) :
    (l.allowAt key now).2.lastSweep = (l.sweep now).lastSweep := by
  unfold allowAt
  simp only
  split <;> rfl

/-- A queue that is not empty stands in the table. -/
theorem mem_of_queue_ne_nil (h : l.queue key ≠ []) : (key, l.queue key) ∈ l.queues := by
  unfold queue at h ⊢
  cases hq : l.queues.lookup key with
  | none =>
    rw [hq] at h
    exact absurd rfl h
  | some q => exact Table.mem_of_lookup hq

/-- A queue after a call is what the call left of one, with its newest reading, or has the reading
of an admitted call at its end. -/
theorem mem_queues_allowAt {e : String × List Nat} (he : e ∈ (l.allowAt key now).2.queues) :
    (∃ q, (e.1, q) ∈ (l.sweep now).queues ∧ e.2 <:+ q ∧ e.2.getLast? = q.getLast?) ∨
      (l.allowAt key now).1 = true ∧ e = (key, l.purged key now ++ [now]) := by
  rw [queues_allowAt] at he
  rcases mem_put.mp he with ⟨rfl, hne⟩ | ⟨he, -⟩
  · cases hallowed : (l.allowAt key now).1 with
    | true => exact .inr ⟨rfl, rfl⟩
    | false =>
      left
      simp only [hallowed, Bool.false_eq_true, if_false, List.append_nil] at hne ⊢
      have hsplit := takeWhile_append_purged l key now
      refine ⟨(l.sweep now).queue key, mem_of_queue_ne_nil ?_, ⟨_, hsplit⟩, ?_⟩
      · rw [← hsplit]
        exact List.append_ne_nil_of_right_ne_nil _ hne
      · rw [← hsplit, List.getLast?_append_of_ne_nil _ hne]
  · exact .inl ⟨e.2, he, List.suffix_refl _, rfl⟩

/-- **A call that is refused adds no key.** -/
theorem keys_of_refused (h : (l.allowAt key now).1 = false) :
    (l.allowAt key now).2.keys ⊆ l.keys := by
  have hswept : (l.sweep now).keys ⊆ l.keys := ((queues_sweep_sublist l now).map Prod.fst).subset
  intro k hk
  obtain ⟨e, he, rfl⟩ := List.mem_map.mp hk
  rcases mem_queues_allowAt he with ⟨q, hq, -⟩ | ⟨hallowed, -⟩
  · exact hswept (List.mem_map.mpr ⟨_, hq, rfl⟩)
  · rw [h] at hallowed
    cases hallowed

/-! ## The invariant -/

/-- What holds of a limiter while its calls came in order, none of them after `now`. -/
structure Compact (l : RateLimiter) (now : Nat) : Prop where
  short : ∀ e ∈ l.queues, e.2.length ≤ l.maxRequests
  past : ∀ last ∈ l.lastSweep, last ≤ now
  /-- Each queue has a newest reading, and the last sweep would leave it. -/
  recent : ∀ e ∈ l.queues, ∃ last ∈ l.lastSweep, ∃ newest ∈ e.2.getLast?,
    last < newest + l.window

/-- The last sweep was less than a window ago. -/
def SweptLately (l : RateLimiter) (now : Nat) : Prop :=
  ∃ last ∈ l.lastSweep, last ≤ now ∧ now < last + l.window

namespace Compact

theorem start (maxRequests window now : Nat) : Compact { maxRequests, window } now where
  short := fun _ he => by cases he
  past := fun _ hlast => by cases hlast
  recent := fun _ he => by cases he

theorem mono {later : Nat} (h : Compact l now) (hl : now ≤ later) : Compact l later where
  short := h.short
  past := fun last hlast => (h.past last hlast).trans hl
  recent := h.recent

/-- The sweep before a call keeps the invariant. -/
theorem sweep (h : Compact l now) (hw : 0 < l.window) :
    Compact (l.sweep now) now ∧ SweptLately (l.sweep now) now := by
  unfold RateLimiter.sweep
  split
  · -- Before the first sweep nothing is remembered.
    rename_i hnone
    refine ⟨⟨h.short, ?_, ?_⟩, now, rfl, Nat.le_refl now, Nat.lt_add_of_pos_right hw⟩
    · rintro last ⟨⟩
      exact Nat.le_refl now
    · intro e he
      obtain ⟨last, hlast, -⟩ := h.recent e he
      rw [hnone] at hlast
      cases hlast
  · rename_i last hlast
    split
    · refine ⟨⟨?_, ?_, ?_⟩, now, rfl, Nat.le_refl now, Nat.lt_add_of_pos_right hw⟩
      · exact fun e he => h.short e (List.mem_filter.mp he).1
      · rintro last ⟨⟩
        exact Nat.le_refl now
      · intro e he
        obtain ⟨newest, hnewest, hinside⟩ :=
          (Option.any_eq_true _ _).mp (List.mem_filter.mp he).2
        simp only [expired, Bool.not_eq_true', decide_eq_false_iff_not, Nat.not_le] at hinside
        have hleft : now < newest + l.window := by omega
        exact ⟨now, rfl, newest, hnewest, hleft⟩
    · rename_i hinside
      simp only [expired, decide_eq_true_eq, Nat.not_le] at hinside
      exact ⟨h, last, hlast, h.past last hlast, by omega⟩

/-- **Every call keeps the invariant**, and finds or makes a sweep less than a window ago. -/
theorem allowAt (h : Compact l now) (hw : 0 < l.window) (key : String) :
    Compact (l.allowAt key now).2 now ∧ SweptLately (l.allowAt key now).2 now := by
  obtain ⟨hswept, last, hlast, hpast, hnow⟩ := h.sweep hw
  rw [sweep_window] at hnow
  have hafter : (l.allowAt key now).2.lastSweep = some last :=
    (lastSweep_allowAt l key now).trans hlast
  refine ⟨⟨?_, ?_, ?_⟩, last, hafter, hpast, by rwa [allowAt_window]⟩
  · intro e he
    rw [allowAt_maxRequests]
    rcases mem_queues_allowAt he with ⟨q, hq, hsuffix, -⟩ | ⟨hallowed, rfl⟩
    · exact hsuffix.length_le.trans (sweep_maxRequests l now ▸ hswept.short _ hq)
    · rw [allowAt_fst, decide_eq_true_eq] at hallowed
      rw [List.length_append]
      exact hallowed
  · intro t ht
    rw [hafter] at ht
    cases ht
    exact hpast
  · intro e he
    rw [allowAt_window]
    rcases mem_queues_allowAt he with ⟨q, hq, -, hnewest⟩ | ⟨-, rfl⟩
    · obtain ⟨t, ht, newest, hn, hlt⟩ := hswept.recent _ hq
      rw [sweep_window] at hlt
      rw [hnewest]
      exact ⟨t, hafter.trans (hlast.symm.trans ht), newest, hn, hlt⟩
    · exact ⟨last, hafter, now, by simp, by omega⟩

/-- What the last sweep left is younger than two windows, if that sweep was less than one ago. -/
theorem newest_lt (h : Compact l now) (hswept : SweptLately l now) :
    ∀ e ∈ l.queues, ∃ newest ∈ e.2.getLast?, now < newest + 2 * l.window := by
  intro e he
  obtain ⟨last, hlast, -, hnow⟩ := hswept
  obtain ⟨t, ht, newest, hn, hlt⟩ := h.recent e he
  obtain rfl : last = t := Option.some.inj (hlast.symm.trans ht)
  exact ⟨newest, hn, by omega⟩

/-- The step of a run: one more call, at its own reading. -/
theorem call {maxRequests window : Nat} {calls : List Call} {c : Call}
    (h : Compact (serve maxRequests window calls).limiter c.reading) (hw : 0 < window) :
    Compact (serve maxRequests window (calls ++ [c])).limiter c.reading ∧
      SweptLately (serve maxRequests window (calls ++ [c])).limiter c.reading := by
  have hwindow : 0 < (serve maxRequests window calls).limiter.window := by
    rwa [(serve_settings maxRequests window calls).2]
  rw [serve_concat]
  exact h.allowAt hwindow c.key

end Compact

/-- After calls in order the invariant holds at any later reading. -/
theorem compact_serve (maxRequests : Nat) {window : Nat} (hw : 0 < window) {calls : List Call}
    (hs : (calls.map Call.reading).Pairwise (· ≤ ·)) (hp : ∀ c ∈ calls, c.reading ≤ now) :
    Compact (serve maxRequests window calls).limiter now := by
  induction calls using List.reverseRecOn generalizing now with
  | nil => exact Compact.start maxRequests window now
  | append_singleton calls c ih =>
    have hbefore := ih (ordered_init hs) (ordered_before hs)
    exact (hbefore.call hw).1.mono (hp c (by simp))

/-! ## What is remembered -/

/-- The keys that were admitted within a span of time before `now`, each once. -/
def Served.active (s : Served) (now span : Nat) : List String :=
  ((s.admitted.filter fun c => decide (now < c.reading + span)).map Call.key).dedup

/-- A queue is the end of what its key was admitted at. -/
theorem Tracks.suffix_of_mem {s : Served} {e : String × List Nat} (h : Tracks s now)
    (he : e ∈ s.limiter.queues) : e.2 <:+ s.readings e.1 ∧ e.2.Pairwise (· ≤ ·) := by
  have hqueue : s.limiter.queue e.1 = e.2 := by
    rw [queue, (Table.lookup_eq_some_iff h.unique).mpr he]
    rfl
  obtain ⟨gone, hk, -⟩ := h.kept e.1
  rw [hqueue] at hk
  exact ⟨⟨gone, hk.symm⟩, hqueue ▸ h.queue_sorted e.1⟩

/-- The newest reading of a queue is that of an admitted call. -/
theorem Tracks.exists_admitted {s : Served} {e : String × List Nat} {newest : Nat}
    (h : Tracks s now) (he : e ∈ s.limiter.queues) (hn : newest ∈ e.2.getLast?) :
    ∃ d ∈ s.admitted, d.key = e.1 ∧ d.reading = newest := by
  have hmem := (h.suffix_of_mem he).1.subset (List.mem_of_getLast? hn)
  obtain ⟨d, hd, hreading⟩ := List.mem_map.mp hmem
  obtain ⟨hd, hkey⟩ := List.mem_filter.mp hd
  exact ⟨d, hd, of_decide_eq_true hkey, hreading⟩

/-- If each queue has a reading within a span of time, no more keys are remembered than were admitted
in it. -/
theorem Tracks.trackedKeys_le {s : Served} {span : Nat} (h : Tracks s last)
    (hrecent : ∀ e ∈ s.limiter.queues, ∃ newest ∈ e.2.getLast?, now < newest + span) :
    s.limiter.trackedKeys ≤ (s.active now span).length := by
  have hactive : s.limiter.keys ⊆ s.active now span := by
    intro k hk
    obtain ⟨e, he, rfl⟩ := List.mem_map.mp hk
    obtain ⟨newest, hn, hlt⟩ := hrecent e he
    obtain ⟨d, hd, hkey, rfl⟩ := h.exists_admitted he hn
    exact List.mem_dedup.mpr
      (List.mem_map.mpr ⟨d, List.mem_filter.mpr ⟨hd, decide_eq_true hlt⟩, hkey⟩)
  rw [← length_keys]
  exact (List.subperm_of_subset h.unique hactive).length_le

/-- **What is remembered.**  After every call each key has one queue that is not empty, holds no
more readings than the limit, in order, the latest at which the key was admitted, and the newest of
them is younger than two windows.  The last sweep was less than a window ago.  So no more keys are
remembered than were admitted within the last two windows, and a call that is refused adds none. -/
theorem remembers_recent_keys (maxRequests : Nat) {window : Nat} (hw : 0 < window)
    {calls : List Call} {c : Call}
    (hs : ((calls ++ [c]).map Call.reading).Pairwise (· ≤ ·)) :
    let s := serve maxRequests window (calls ++ [c])
    (s.limiter.keys.Nodup ∧ ∀ e ∈ s.limiter.queues,
      e.2 ≠ [] ∧ e.2.length ≤ maxRequests ∧ e.2.Pairwise (· ≤ ·) ∧ e.2 <:+ s.readings e.1 ∧
      ∃ newest ∈ e.2.getLast?, newest ≤ c.reading ∧ c.reading < newest + 2 * window) ∧
    (∃ last ∈ s.limiter.lastSweep, last ≤ c.reading ∧ c.reading < last + window) ∧
    s.limiter.trackedKeys ≤ (s.active c.reading (2 * window)).length ∧
    ((serve maxRequests window calls).answer c.key c.reading = false →
      s.limiter.keys ⊆ (serve maxRequests window calls).limiter.keys) := by
  intro s
  have hpast : ∀ d ∈ calls ++ [c], d.reading ≤ c.reading :=
    List.forall_mem_append.mpr ⟨ordered_before hs, by simp⟩
  obtain ⟨last, hlast, htracks⟩ := tracks_serve maxRequests window hs hpast
  obtain ⟨hcompact, hswept⟩ :=
    (compact_serve maxRequests hw (ordered_init hs) (ordered_before hs)).call hw
  obtain ⟨hmax, hwindow⟩ := serve_settings maxRequests window (calls ++ [c])
  have hrecent := hcompact.newest_lt hswept
  unfold SweptLately at hswept
  rw [hwindow] at hrecent hswept
  refine ⟨⟨htracks.unique, fun e he => ?_⟩, hswept, htracks.trackedKeys_le hrecent,
    fun hrefused => ?_⟩
  · obtain ⟨hsuffix, hsorted⟩ := htracks.suffix_of_mem he
    obtain ⟨newest, hn, hlt⟩ := hrecent e he
    obtain ⟨d, hd, -, rfl⟩ := htracks.exists_admitted he hn
    refine ⟨?_, hmax ▸ hcompact.short e he, hsorted, hsuffix, d.reading, hn,
      (htracks.past d hd).trans hlast, hlt⟩
    intro hnil
    rw [hnil] at hn
    cases hn
  · have hcall : s = (serve maxRequests window calls).call c := serve_concat ..
    rw [hcall]
    exact keys_of_refused hrefused

/-- A key whose readings left the window is forgotten by the call of another one; the next call of
that one is refused and adds nothing. -/
theorem remembers_recent_keys_refused :
    0 < 10 ∧ [0, 12, 21].Pairwise (· ≤ ·) ∧
      (serve 1 10 [⟨"idle", 0⟩, ⟨"busy", 12⟩]).answer "busy" 21 = false ∧
      (serve 1 10 [⟨"idle", 0⟩, ⟨"busy", 12⟩, ⟨"busy", 21⟩]).limiter.trackedKeys ≤ 1 ∧
      (serve 1 10 [⟨"idle", 0⟩, ⟨"busy", 12⟩, ⟨"busy", 21⟩]).limiter.keys ⊆
        (serve 1 10 [⟨"idle", 0⟩, ⟨"busy", 12⟩]).limiter.keys := by
  have hrefused : (serve 1 10 [⟨"idle", 0⟩, ⟨"busy", 12⟩]).answer "busy" 21 = false := by
    decide +kernel
  obtain ⟨-, -, htracked, hkeys⟩ := @remembers_recent_keys 1 10 (by decide)
    [⟨"idle", 0⟩, ⟨"busy", 12⟩] ⟨"busy", 21⟩ (by decide)
  exact ⟨by decide, by decide, hrefused, htracked.trans (by decide +kernel), hkeys hrefused⟩

end RateLimiter

end ChillerGateway
