import ChillerGateway.Proofs.Lookup
import ChillerGateway.RateLimiter
import Mathlib.Data.List.Induction
import Mathlib.Data.List.TakeWhile

/-!
# The limit is a sliding window

Queues are purged lazily, keys without readings are forgotten, and a sweep that any key triggers
drops whole queues.  None of this can be seen from the answers: while the clock does not go back, a
call is admitted exactly if fewer than `maxRequests` admitted calls of its key lie inside the
window.

* `Tracks` — the invariant: a queue is what its key was admitted at, less a front that expired.
* `Tracks.call` — every call keeps it.
* `allowAt_iff_window` — the answer of every call, and that the calls of other keys play no part.
-/

namespace ChillerGateway

namespace RateLimiter

/-- A call: who asks, and the reading of the clock. -/
structure Call where
  key : String
  reading : Nat
  deriving DecidableEq, Repr

/-- A limiter in use with the calls that it admitted, oldest first. -/
structure Served where
  limiter : RateLimiter
  admitted : List Call := []

/-- One more call. -/
def Served.call (s : Served) (c : Call) : Served :=
  let (allowed, limiter) := s.limiter.allowAt c.key c.reading
  { limiter, admitted := if allowed then s.admitted ++ [c] else s.admitted }

/-- A new limiter after some calls. -/
def serve (maxRequests window : Nat) (calls : List Call) : Served :=
  calls.foldl Served.call { limiter := { maxRequests, window } }

/-- The answer to one more call of a key. -/
def Served.answer (s : Served) (key : String) (now : Nat) : Bool := (s.limiter.allowAt key now).1

/-- Whether an admitted call uses up the budget of a key at a reading. -/
def Call.counts (window : Nat) (key : String) (now : Nat) (c : Call) : Bool :=
  c.key = key && decide (now - c.reading < window)

/-- The readings at which a key was admitted. -/
def Served.readings (s : Served) (key : String) : List Nat :=
  (s.admitted.filter (·.key = key)).map Call.reading

/-- The readings that are remembered of a key. -/
def queue (l : RateLimiter) (key : String) : List Nat := (l.queues.lookup key).getD []

/-! ## Expiry -/

theorem expired_mono {l : RateLimiter} {now later reading : Nat} (h : now ≤ later)
    (he : l.expired now reading = true) : l.expired later reading = true := by
  simp only [expired, decide_eq_true_eq] at he ⊢
  omega

theorem expired_older {l : RateLimiter} {now reading older : Nat} (h : older ≤ reading)
    (he : l.expired now reading = true) : l.expired now older = true := by
  simp only [expired, decide_eq_true_eq] at he ⊢
  omega

/-- In a queue in order, all readings left the window if the newest one did. -/
theorem expired_of_getLast {l : RateLimiter} {now : Nat} {readings : List Nat}
    (hs : readings.Pairwise (· ≤ ·)) (hl : ∀ t ∈ readings.getLast?, l.expired now t = true) :
    ∀ t ∈ readings, l.expired now t = true := by
  intro t ht
  obtain ⟨init, last, rfl⟩ := (List.eq_nil_or_concat' readings).resolve_left (List.ne_nil_of_mem ht)
  have hlast : l.expired now last = true := hl last (by simp)
  rcases List.mem_append.mp ht with ht | ht
  · exact expired_older ((List.pairwise_append.mp hs).2.2 t ht last (by simp)) hlast
  · rw [List.mem_singleton.mp ht]; exact hlast

/-- In a queue in order, what a purge of the front leaves is all that is inside the window. -/
theorem dropWhile_expired (l : RateLimiter) (now : Nat) {readings : List Nat}
    (hs : readings.Pairwise (· ≤ ·)) :
    readings.dropWhile (l.expired now) = readings.filter fun t => !l.expired now t := by
  induction readings with
  | nil => rfl
  | cons t rest ih =>
    obtain ⟨ht, hrest⟩ := List.pairwise_cons.mp hs
    cases he : l.expired now t with
    | true => rw [List.dropWhile_cons_of_pos he, List.filter_cons_of_neg (by simp [he]), ih hrest]
    | false =>
      have hin : ∀ u ∈ t :: rest, (!l.expired now u) = true := by
        intro u hu
        rcases List.mem_cons.mp hu with rfl | hu
        · simp [he]
        · by_contra hx
          have hx : l.expired now u = true := by simpa using hx
          rw [expired_older (ht u hu) hx] at he
          cases he
      rw [List.dropWhile_cons_of_neg (by simp [he]), List.filter_eq_self.mpr hin]

/-! ## What a call does to the queues -/

@[simp] theorem sweep_window (l : RateLimiter) (now : Nat) : (l.sweep now).window = l.window := by
  unfold sweep
  split
  · rfl
  · split <;> rfl

@[simp] theorem sweep_maxRequests (l : RateLimiter) (now : Nat) :
    (l.sweep now).maxRequests = l.maxRequests := by
  unfold sweep
  split
  · rfl
  · split <;> rfl

@[simp] theorem sweep_expired (l : RateLimiter) (now : Nat) :
    (l.sweep now).expired = l.expired := by
  funext t reading
  simp only [expired, sweep_window]

/-- A sweep leaves a queue or drops all of it, and then its newest reading left the window. -/
theorem queue_sweep {l : RateLimiter} (hu : (l.queues.map Prod.fst).Nodup) (now : Nat)
    (key : String) :
    (l.sweep now).queue key = l.queue key ∨
      (l.sweep now).queue key = [] ∧ ∀ t ∈ (l.queue key).getLast?, l.expired now t = true := by
  unfold sweep
  split
  · exact .inl rfl
  · split
    · unfold queue
      simp only [Table.lookup_filter hu]
      cases hq : l.queues.lookup key with
      | none => exact .inl rfl
      | some q =>
        by_cases hp : (q.getLast?.any fun newest => !l.expired now newest) = true
        · left
          simp [Option.filter, hp]
        · right
          refine ⟨by simp [Option.filter, hp], ?_⟩
          intro t ht
          simp only [Option.getD_some] at ht
          rw [Option.mem_def.mp ht] at hp
          simpa using hp
    · exact .inl rfl

theorem queues_sweep_sublist (l : RateLimiter) (now : Nat) :
    (l.sweep now).queues.Sublist l.queues := by
  unfold sweep
  split
  · exact List.Sublist.refl _
  · split
    · exact List.filter_sublist
    · exact List.Sublist.refl _

theorem lookup_put (key other : String) (q : List Nat) (queues : List (String × List Nat)) :
    ((put key q queues).lookup other).getD [] =
      if other = key then q else (queues.lookup other).getD [] := by
  unfold put
  split
  · split
    · rename_i h
      rw [h, Table.lookup_filter_self]; rfl
    · rename_i h
      rw [Table.lookup_filter_ne _ h]
  · rw [List.lookup_cons]
    split
    · rename_i h
      simp only [beq_iff_eq] at h
      simp [h]
    · rename_i h
      have h : other ≠ key := by simpa using h
      rw [if_neg h, Table.lookup_filter_ne _ h]

theorem nodup_put {key : String} {q : List Nat} {queues : List (String × List Nat)}
    (h : (queues.map Prod.fst).Nodup) : ((put key q queues).map Prod.fst).Nodup := by
  have hrest : ((queues.filter (·.1 ≠ key)).map Prod.fst).Nodup :=
    h.sublist (List.filter_sublist.map Prod.fst)
  unfold put
  split
  · exact hrest
  · refine List.nodup_cons.mpr ⟨?_, hrest⟩
    simp

/-- The queue of the key that calls, past the sweep and the purge. -/
def purged (l : RateLimiter) (key : String) (now : Nat) : List Nat := (l.sweep now).current key now

theorem purged_eq_dropWhile (l : RateLimiter) (key : String) (now : Nat) :
    l.purged key now = ((l.sweep now).queue key).dropWhile (l.expired now) := by
  rw [purged, current, sweep_expired]
  rfl

/-- The purge takes a front of the queue. -/
theorem takeWhile_append_purged (l : RateLimiter) (key : String) (now : Nat) :
    ((l.sweep now).queue key).takeWhile (l.expired now) ++ l.purged key now =
      (l.sweep now).queue key := by
  rw [purged_eq_dropWhile]
  exact List.takeWhile_append_dropWhile

theorem allowAt_fst (l : RateLimiter) (key : String) (now : Nat) :
    (l.allowAt key now).1 = decide ((l.purged key now).length < l.maxRequests) := by
  unfold allowAt purged
  simp only [sweep_maxRequests]
  split
  · rename_i h; simp [h]
  · rename_i h; simp [h]

theorem allowAt_window (l : RateLimiter) (key : String) (now : Nat) :
    (l.allowAt key now).2.window = l.window := by
  unfold allowAt
  simp only
  split <;> simp

theorem allowAt_maxRequests (l : RateLimiter) (key : String) (now : Nat) :
    (l.allowAt key now).2.maxRequests = l.maxRequests := by
  unfold allowAt
  simp only
  split <;> simp

/-- The queues after a call are those of the sweep, with what the caller has then. -/
theorem queues_allowAt (l : RateLimiter) (key : String) (now : Nat) :
    (l.allowAt key now).2.queues =
      put key (l.purged key now ++ if (l.allowAt key now).1 then [now] else [])
        (l.sweep now).queues := by
  rw [allowAt_fst]
  unfold allowAt purged
  simp only [sweep_maxRequests]
  split
  · rename_i h
    simp only [h, decide_true, if_true]
  · rename_i h
    simp only [h, decide_false, Bool.false_eq_true, if_false, List.append_nil]

theorem allowAt_unique {l : RateLimiter} (hu : (l.queues.map Prod.fst).Nodup) (key : String)
    (now : Nat) : ((l.allowAt key now).2.queues.map Prod.fst).Nodup := by
  rw [queues_allowAt]
  exact nodup_put (hu.sublist ((queues_sweep_sublist l now).map Prod.fst))

/-- The queues after a call: the caller's is purged and gets the reading of an admitted call, any
other is as the sweep left it. -/
theorem queue_allowAt (l : RateLimiter) (key other : String) (now : Nat) :
    (l.allowAt key now).2.queue other =
      if other = key then
        l.purged key now ++ if (l.allowAt key now).1 then [now] else []
      else (l.sweep now).queue other := by
  unfold queue
  rw [queues_allowAt, lookup_put]

/-! ## The invariant -/

/-- What holds of a limiter in use while its calls came in order, the last one at `now`. -/
structure Tracks (s : Served) (now : Nat) : Prop where
  /-- Each key has one queue. -/
  unique : (s.limiter.queues.map Prod.fst).Nodup
  sorted : (s.admitted.map Call.reading).Pairwise (· ≤ ·)
  past : ∀ c ∈ s.admitted, c.reading ≤ now
  /-- A queue lacks nothing of what its key was admitted at but a front that left the window. -/
  kept : ∀ key, ∃ gone, s.readings key = gone ++ s.limiter.queue key ∧
    ∀ t ∈ gone, s.limiter.expired now t = true

theorem Served.readings_sublist (s : Served) (key : String) :
    (s.readings key).Sublist (s.admitted.map Call.reading) :=
  List.filter_sublist.map Call.reading

theorem Served.call_admitted (s : Served) (c : Call) :
    (s.call c).admitted = s.admitted ++ if s.answer c.key c.reading then [c] else [] := by
  unfold Served.call Served.answer
  simp only
  split <;> simp

theorem Served.readings_call (s : Served) (c : Call) (key : String) :
    (s.call c).readings key = s.readings key ++
      if key = c.key ∧ s.answer c.key c.reading = true then [c.reading] else [] := by
  unfold Served.readings
  rw [Served.call_admitted, List.filter_append, List.map_append]
  congr 1
  by_cases ha : s.answer c.key c.reading = true
  · by_cases hk : key = c.key
    · simp [ha, hk]
    · simp [ha, hk, Ne.symm hk]
  · simp [ha]

namespace Tracks

variable {s : Served} {now later : Nat}

theorem start (maxRequests window now : Nat) :
    Tracks { limiter := { maxRequests, window } } now where
  unique := List.nodup_nil
  sorted := List.Pairwise.nil
  past := fun c hc => by cases hc
  kept := fun key => ⟨[], rfl, fun t ht => by cases ht⟩

theorem queue_sorted (h : Tracks s now) (key : String) :
    (s.limiter.queue key).Pairwise (· ≤ ·) := by
  obtain ⟨gone, hk, -⟩ := h.kept key
  have hr := h.sorted.sublist (s.readings_sublist key)
  rw [hk] at hr
  exact (List.pairwise_append.mp hr).2.1

/-- A sweep takes nothing from a queue but readings that left the window. -/
theorem swept (h : Tracks s now) (hl : now ≤ later) (key : String) :
    ∃ gone, s.readings key = gone ++ (s.limiter.sweep later).queue key ∧
      ∀ t ∈ gone, s.limiter.expired later t = true := by
  obtain ⟨gone, hk, hg⟩ := h.kept key
  have hg : ∀ t ∈ gone, s.limiter.expired later t = true := fun t ht => expired_mono hl (hg t ht)
  rcases queue_sweep h.unique later key with hq | ⟨hq, hx⟩
  · exact ⟨gone, by rw [hq, hk], hg⟩
  · refine ⟨s.readings key, by rw [hq, List.append_nil], ?_⟩
    rw [hk]
    intro t ht
    rcases List.mem_append.mp ht with ht | ht
    · exact hg t ht
    · exact expired_of_getLast (h.queue_sorted key) hx t ht

/-- The purge leaves exactly the admitted readings of the key that are inside the window. -/
theorem purged_eq (h : Tracks s now) (hl : now ≤ later) (key : String) :
    s.limiter.purged key later =
      (s.readings key).filter fun t => !s.limiter.expired later t := by
  obtain ⟨gone, hk, hg⟩ := h.swept hl key
  have hsorted : ((s.limiter.sweep later).queue key).Pairwise (· ≤ ·) := by
    have hr := h.sorted.sublist (s.readings_sublist key)
    rw [hk] at hr
    exact (List.pairwise_append.mp hr).2.1
  have hgone : gone.filter (fun t => !s.limiter.expired later t) = [] :=
    List.filter_eq_nil_iff.mpr fun t ht => by simp [hg t ht]
  rw [hk, List.filter_append, hgone, List.nil_append, ← dropWhile_expired _ _ hsorted,
    purged_eq_dropWhile]

/-- **Every call keeps the invariant**, at its own reading. -/
theorem call (h : Tracks s now) (c : Call) (hl : now ≤ c.reading) :
    Tracks (s.call c) c.reading where
  unique := allowAt_unique h.unique c.key c.reading
  sorted := by
    rw [Served.call_admitted, List.map_append, List.pairwise_append]
    refine ⟨h.sorted, by split <;> simp, ?_⟩
    intro t ht u hu
    obtain ⟨d, hd, rfl⟩ := List.mem_map.mp ht
    have hpast := h.past d hd
    split at hu
    · simp only [List.map_cons, List.map_nil, List.mem_singleton] at hu
      omega
    · cases hu
  past := by
    intro d hd
    rw [Served.call_admitted] at hd
    rcases List.mem_append.mp hd with hd | hd
    · exact (h.past d hd).trans hl
    · split at hd
      · rw [List.mem_singleton.mp hd]
      · cases hd
  kept := by
    intro key
    have hexp : (s.call c).limiter.expired = s.limiter.expired := by
      funext t reading
      simp only [expired, Served.call, allowAt_window]
    obtain ⟨gone, hk, hg⟩ := h.swept hl key
    have hq : (s.call c).limiter.queue key = _ := queue_allowAt s.limiter c.key key c.reading
    rw [Served.readings_call, hexp, hq, hk]
    by_cases hc : key = c.key
    · -- The caller's own queue loses the front that the purge takes.
      subst hc
      refine ⟨gone ++ ((s.limiter.sweep c.reading).queue c.key).takeWhile
        (s.limiter.expired c.reading), ?_, ?_⟩
      · conv_lhs => rw [← takeWhile_append_purged]
        simp [Served.answer, List.append_assoc]
      · intro t ht
        rcases List.mem_append.mp ht with ht | ht
        · exact hg t ht
        · exact List.mem_takeWhile_imp ht
    · exact ⟨gone, by simp [hc], hg⟩

end Tracks

theorem serve_concat (maxRequests window : Nat) (calls : List Call) (c : Call) :
    serve maxRequests window (calls ++ [c]) = (serve maxRequests window calls).call c := by
  unfold serve
  rw [List.foldl_append]
  rfl

/-- Calls in order are in order without the last one. -/
theorem ordered_init {calls : List Call} {c : Call}
    (hs : ((calls ++ [c]).map Call.reading).Pairwise (· ≤ ·)) :
    (calls.map Call.reading).Pairwise (· ≤ ·) :=
  hs.sublist ((List.sublist_append_left _ _).map _)

/-- Of calls in order the last one has the latest reading. -/
theorem ordered_before {calls : List Call} {c : Call}
    (hs : ((calls ++ [c]).map Call.reading).Pairwise (· ≤ ·)) :
    ∀ d ∈ calls, d.reading ≤ c.reading := by
  rw [List.map_append, List.pairwise_append] at hs
  exact fun d hd => hs.2.2 _ (List.mem_map_of_mem hd) _ (by simp)

/-- After calls in order the invariant holds at any later reading. -/
theorem tracks_serve (maxRequests window : Nat) {calls : List Call} {now : Nat}
    (hs : (calls.map Call.reading).Pairwise (· ≤ ·)) (hp : ∀ c ∈ calls, c.reading ≤ now) :
    ∃ last ≤ now, Tracks (serve maxRequests window calls) last := by
  induction calls using List.reverseRecOn generalizing now with
  | nil => exact ⟨now, Nat.le_refl now, Tracks.start maxRequests window now⟩
  | append_singleton calls c ih =>
    obtain ⟨last, hle, ht⟩ := ih (ordered_init hs) (ordered_before hs)
    refine ⟨c.reading, hp c (by simp), ?_⟩
    rw [serve_concat]
    exact ht.call c hle

theorem serve_settings (maxRequests window : Nat) (calls : List Call) :
    (serve maxRequests window calls).limiter.maxRequests = maxRequests ∧
      (serve maxRequests window calls).limiter.window = window := by
  induction calls using List.reverseRecOn with
  | nil => exact ⟨rfl, rfl⟩
  | append_singleton calls c ih =>
    rw [serve_concat]
    exact ⟨(allowAt_maxRequests _ _ _).trans ih.1, (allowAt_window _ _ _).trans ih.2⟩

/-! ## The answers -/

/-- Calls in order are in order without those of other keys. -/
theorem ordered_filter {calls : List Call} {c : Call} (key : String)
    (hs : ((calls ++ [c]).map Call.reading).Pairwise (· ≤ ·)) :
    ((calls.filter (·.key = key) ++ [c]).map Call.reading).Pairwise (· ≤ ·) :=
  hs.sublist ((List.filter_sublist.append_right _).map _)

theorem countP_counts (window : Nat) (key : String) (now : Nat) (calls : List Call) :
    calls.countP (Call.counts window key now) =
      (calls.filter (·.key = key)).countP (Call.counts window key now) := by
  rw [List.countP_filter]
  congr 1
  funext c
  simp only [Call.counts]
  cases decide (c.key = key) <;> simp

/-- While the clock does not go back, a call is admitted exactly if its key has budget left. -/
theorem answer_serve (maxRequests window : Nat) {calls : List Call} {key : String} {now : Nat}
    (hs : ((calls ++ [Call.mk key now]).map Call.reading).Pairwise (· ≤ ·)) :
    (serve maxRequests window calls).answer key now =
      decide ((serve maxRequests window calls).admitted.countP (Call.counts window key now) <
        maxRequests) := by
  obtain ⟨last, hle, ht⟩ := tracks_serve maxRequests window (ordered_init hs) (ordered_before hs)
  obtain ⟨hm, hw⟩ := serve_settings maxRequests window calls
  have hcount : ((serve maxRequests window calls).limiter.purged key now).length =
      (serve maxRequests window calls).admitted.countP (Call.counts window key now) := by
    rw [ht.purged_eq hle, Served.readings, List.filter_map, List.length_map, List.filter_filter,
      ← List.countP_eq_length_filter]
    congr 1
    funext c
    simp only [Call.counts, expired, hw, Function.comp_apply, ← decide_not, Nat.not_le]
    exact Bool.and_comm _ _
  rw [Served.answer, allowAt_fst, hcount, hm]

/-- The calls of other keys and the sweeps that they trigger leave no trace in what a key is
admitted at. -/
theorem admitted_filter (maxRequests window : Nat) {calls : List Call} (key : String)
    (hs : (calls.map Call.reading).Pairwise (· ≤ ·)) :
    (serve maxRequests window (calls.filter (·.key = key))).admitted.filter (·.key = key) =
      (serve maxRequests window calls).admitted.filter (·.key = key) := by
  induction calls using List.reverseRecOn with
  | nil => rfl
  | append_singleton calls c ih =>
    have ih := ih (ordered_init hs)
    by_cases hk : c.key = key
    · subst hk
      have hanswer : (serve maxRequests window (calls.filter (·.key = c.key))).answer c.key
          c.reading = (serve maxRequests window calls).answer c.key c.reading := by
        rw [answer_serve maxRequests window (ordered_filter c.key hs),
          answer_serve maxRequests window hs, countP_counts, ih, ← countP_counts]
      rw [List.filter_append, List.filter_cons_of_pos (by simp), List.filter_nil, serve_concat,
        serve_concat, Served.call_admitted, Served.call_admitted, List.filter_append,
        List.filter_append, ih, hanswer]
    · have hnone : ∀ b : Bool, ((if b then [c] else []).filter (·.key = key)) = [] := by
        intro b
        cases b <;> simp [hk]
      rw [List.filter_append, List.filter_cons_of_neg (by simpa using hk), List.filter_nil,
        List.append_nil, ih, serve_concat, Served.call_admitted, List.filter_append, hnone,
        List.append_nil]

/-- **The answers are those of a sliding window.**  For any limit and window and any calls in the
order of the clock, one more call is admitted exactly if fewer than `maxRequests` admitted calls of
its key lie inside the window; the answer is the same without all calls of other keys. -/
theorem allowAt_iff_window (maxRequests window : Nat) {calls : List Call} {key : String}
    {now : Nat} (hs : ((calls ++ [Call.mk key now]).map Call.reading).Pairwise (· ≤ ·)) :
    (((serve maxRequests window calls).limiter.allowAt key now).1 = true ↔
      (serve maxRequests window calls).admitted.countP (Call.counts window key now) <
        maxRequests) ∧
    ((serve maxRequests window (calls.filter (·.key = key))).limiter.allowAt key now).1 =
      ((serve maxRequests window calls).limiter.allowAt key now).1 := by
  have hanswer := answer_serve maxRequests window hs
  refine ⟨by rw [← Served.answer, hanswer, decide_eq_true_eq], ?_⟩
  rw [← Served.answer, ← Served.answer, hanswer,
    answer_serve maxRequests window (ordered_filter key hs), countP_counts,
    admitted_filter maxRequests window key (ordered_init hs), ← countP_counts]

/-- A key that was idle while another one swept has its whole budget again. -/
theorem allowAt_after_idle :
    [0, 6, 8, 20, 21].Pairwise (· ≤ ·) ∧
      ((serve 2 10 [⟨"k", 0⟩, ⟨"k", 6⟩, ⟨"k", 8⟩, ⟨"other", 20⟩]).limiter.allowAt "k" 21).1 = true :=
  ⟨by decide, (allowAt_iff_window 2 10 (by decide)).1.mpr (by decide +kernel)⟩

end RateLimiter

end ChillerGateway
