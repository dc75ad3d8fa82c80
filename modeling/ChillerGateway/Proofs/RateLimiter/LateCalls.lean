import ChillerGateway.Proofs.RateLimiter.Window
import Mathlib.Data.List.Perm.Basic

/-!
# Calls that come late

Callers read the clock before they have the limiter to themselves, so a reading may be behind one
that came earlier.  The purge looks at the front of a queue and the sweep at its back, which need
not be the oldest and the newest reading then; a reading can be forgotten that still shares a window
with one to come.

* `Late` — no reading is more than so much behind an earlier one.
* `Recalls` — the invariant: what was forgotten had left the window, but for the slack.
* `limit_kept_iff_span` — on which spans a limit is kept when calls come late.
* `limit_exceeded_by_late_call` — on whole windows it is not.
-/

namespace ChillerGateway

namespace RateLimiter

/-- No reading is more than `lag` behind that of an earlier call. -/
def Late (lag : Nat) (calls : List Call) : Prop :=
  (calls.map Call.reading).Pairwise fun earlier later => earlier ≤ later + lag

instance (lag : Nat) (calls : List Call) : Decidable (Late lag calls) := by
  unfold Late; infer_instance

/-- Whether a reading lies in a span of time. -/
def within (start span reading : Nat) : Bool := decide (start ≤ reading ∧ reading < start + span)

/-- How often a key was admitted in a span of time. -/
def Served.countWithin (s : Served) (key : String) (start span : Nat) : Nat :=
  (s.readings key).countP (within start span)

/-- How long before it leaves the window a reading can be swept, because the last one of its queue
is older.  The queue of a key that may call but once holds one reading. -/
def slack (maxRequests lag : Nat) : Nat := if maxRequests ≤ 1 then 0 else lag

theorem Late.init {lag : Nat} {calls : List Call} {c : Call} (h : Late lag (calls ++ [c])) :
    Late lag calls := h.sublist ((List.sublist_append_left _ _).map _)

/-! ## What is forgotten -/

/-- What holds of a limiter after calls of which none was more than `lag` late. -/
structure Recalls (lag : Nat) (calls : List Call) (s : Served) : Prop where
  /-- Each key has one queue. -/
  unique : (s.limiter.queues.map Prod.fst).Nodup
  short : ∀ key, (s.limiter.queue key).length ≤ s.limiter.maxRequests
  /-- A queue is in the order of the calls. -/
  order : ∀ key, (s.limiter.queue key).Sublist (s.readings key)
  /-- A reading that was forgotten had left the window, but for the slack. -/
  gone : ∀ key, ∃ gone, (s.readings key).Perm (gone ++ s.limiter.queue key) ∧
    ∀ t ∈ gone, ∃ c ∈ calls, t + s.limiter.window ≤ c.reading + slack s.limiter.maxRequests lag

theorem add_window_le {l : RateLimiter} {now t : Nat} (hw : 0 < l.window)
    (h : l.expired now t = true) : t + l.window ≤ now := by
  simp only [expired, decide_eq_true_eq] at h
  omega

/-- When the last reading of a queue left the window, so did all of them, but for the slack. -/
theorem add_window_le_of_getLast {l : RateLimiter} {lag now : Nat} {readings : List Nat}
    (hw : 0 < l.window) (hs : readings.Pairwise fun earlier later => earlier ≤ later + lag)
    (hshort : readings.length ≤ l.maxRequests)
    (hl : ∀ t ∈ readings.getLast?, l.expired now t = true) :
    ∀ t ∈ readings, t + l.window ≤ now + slack l.maxRequests lag := by
  intro t ht
  obtain ⟨init, last, rfl⟩ := (List.eq_nil_or_concat' readings).resolve_left (List.ne_nil_of_mem ht)
  have hlast := add_window_le hw (hl last (by simp))
  rcases List.mem_append.mp ht with ht | ht
  · have hlong : ¬ l.maxRequests ≤ 1 := by
      have := List.length_pos_of_mem ht
      rw [List.length_append, List.length_singleton] at hshort
      omega
    have := (List.pairwise_append.mp hs).2.2 t ht last (by simp)
    rw [slack, if_neg hlong]
    omega
  · rw [List.mem_singleton.mp ht]
    omega

theorem admitted_sublist (maxRequests window : Nat) (calls : List Call) :
    (serve maxRequests window calls).admitted.Sublist calls := by
  induction calls using List.reverseRecOn with
  | nil => exact List.Sublist.refl _
  | append_singleton calls c ih =>
    rw [serve_concat, Served.call_admitted]
    refine ih.append ?_
    split
    · exact List.Sublist.refl _
    · exact List.nil_sublist _

namespace Recalls

variable {lag : Nat} {calls : List Call} {s : Served} {c : Call}

theorem start (lag maxRequests window : Nat) :
    Recalls lag [] { limiter := { maxRequests, window } } where
  unique := List.nodup_nil
  short := fun _ => Nat.zero_le _
  order := fun _ => List.Sublist.refl _
  gone := fun _ => ⟨[], List.Perm.refl _, fun t ht => by cases ht⟩

/-- A sweep takes nothing from a queue but readings that left the window, but for the slack. -/
theorem swept (h : Recalls lag calls s) (hw : 0 < s.limiter.window)
    (hlate : (s.admitted.map Call.reading).Pairwise fun earlier later => earlier ≤ later + lag)
    (now : Nat) (key : String) :
    ∃ gone, s.limiter.queue key = gone ++ (s.limiter.sweep now).queue key ∧
      ∀ t ∈ gone, t + s.limiter.window ≤ now + slack s.limiter.maxRequests lag := by
  rcases queue_sweep h.unique now key with hq | ⟨hq, hx⟩
  · refine ⟨[], by rw [hq, List.nil_append], ?_⟩
    intro t ht
    cases ht
  · refine ⟨s.limiter.queue key, by rw [hq, List.append_nil], ?_⟩
    have hqueue := hlate.sublist ((h.order key).trans (s.readings_sublist key))
    exact add_window_le_of_getLast hw hqueue (h.short key) hx

/-- The sweep and the purge take nothing from the queue of the key that calls but readings that
left the window, but for the slack. -/
theorem purged (h : Recalls lag calls s) (hw : 0 < s.limiter.window)
    (hlate : (s.admitted.map Call.reading).Pairwise fun earlier later => earlier ≤ later + lag)
    (now : Nat) (key : String) :
    ∃ gone, s.limiter.queue key = gone ++ s.limiter.purged key now ∧
      ∀ t ∈ gone, t + s.limiter.window ≤ now + slack s.limiter.maxRequests lag := by
  obtain ⟨gone, hq, hgone⟩ := h.swept hw hlate now key
  refine ⟨gone ++ ((s.limiter.sweep now).queue key).takeWhile (s.limiter.expired now), ?_, ?_⟩
  · rw [List.append_assoc, takeWhile_append_purged, hq]
  · intro t ht
    rcases List.mem_append.mp ht with ht | ht
    · exact hgone t ht
    · exact (add_window_le hw (List.mem_takeWhile_imp ht)).trans (Nat.le_add_right _ _)

/-- The queue of any key after a call: a front of it is gone, and the reading of an admitted call is
at its end. -/
theorem queue_call (h : Recalls lag calls s) (hw : 0 < s.limiter.window)
    (hlate : (s.admitted.map Call.reading).Pairwise fun earlier later => earlier ≤ later + lag)
    (c : Call) (key : String) :
    ∃ gone rest, s.limiter.queue key = gone ++ rest ∧
      (∀ t ∈ gone, t + s.limiter.window ≤ c.reading + slack s.limiter.maxRequests lag) ∧
      (s.call c).limiter.queue key =
        rest ++ (if key = c.key ∧ s.answer c.key c.reading = true then [c.reading] else []) ∧
      ((s.call c).limiter.queue key).length ≤ s.limiter.maxRequests := by
  have hq : (s.call c).limiter.queue key = _ := queue_allowAt s.limiter c.key key c.reading
  by_cases hk : key = c.key
  · subst hk
    obtain ⟨gone, hqueue, hgone⟩ := h.purged hw hlate c.reading c.key
    rw [if_pos rfl] at hq
    refine ⟨gone, _, hqueue, hgone, ?_, ?_⟩
    · rw [hq]
      simp only [Served.answer, true_and]
    · have hshort := h.short c.key
      rw [hqueue, List.length_append] at hshort
      rw [hq, List.length_append, allowAt_fst]
      split
      · rename_i hlt
        rw [decide_eq_true_eq] at hlt
        exact hlt
      · rw [List.length_nil]
        omega
  · obtain ⟨gone, hqueue, hgone⟩ := h.swept hw hlate c.reading key
    rw [if_neg hk] at hq
    refine ⟨gone, _, hqueue, hgone, ?_, ?_⟩
    · rw [hq, if_neg fun hx => hk hx.1, List.append_nil]
    · have hshort := h.short key
      rw [hqueue, List.length_append] at hshort
      rw [hq]
      omega

/-- **Every call keeps the invariant.** -/
theorem call (h : Recalls lag calls s) (hw : 0 < s.limiter.window)
    (hlate : (s.admitted.map Call.reading).Pairwise fun earlier later => earlier ≤ later + lag)
    (c : Call) : Recalls lag (calls ++ [c]) (s.call c) where
  unique := allowAt_unique h.unique c.key c.reading
  short := by
    intro key
    obtain ⟨gone, rest, -, -, -, hshort⟩ := h.queue_call hw hlate c key
    exact hshort.trans_eq (allowAt_maxRequests s.limiter c.key c.reading).symm
  order := by
    intro key
    obtain ⟨gone, rest, hqueue, -, hq, -⟩ := h.queue_call hw hlate c key
    have horder := h.order key
    rw [hqueue] at horder
    rw [hq, Served.readings_call]
    exact ((List.sublist_append_right gone rest).trans horder).append (List.Sublist.refl _)
  gone := by
    intro key
    have hwindow : (s.call c).limiter.window = s.limiter.window :=
      allowAt_window s.limiter c.key c.reading
    have hmax : (s.call c).limiter.maxRequests = s.limiter.maxRequests :=
      allowAt_maxRequests s.limiter c.key c.reading
    obtain ⟨gone, hperm, hgone⟩ := h.gone key
    obtain ⟨front, rest, hqueue, hfront, hq, -⟩ := h.queue_call hw hlate c key
    rw [hwindow, hmax, hq, Served.readings_call]
    refine ⟨gone ++ front, ?_, ?_⟩
    · rw [hqueue, ← List.append_assoc] at hperm
      rw [← List.append_assoc]
      exact hperm.append_right _
    · intro t ht
      rcases List.mem_append.mp ht with ht | ht
      · obtain ⟨d, hd, hle⟩ := hgone t ht
        exact ⟨d, List.mem_append_left _ hd, hle⟩
      · exact ⟨c, List.mem_append_right _ (List.mem_singleton_self c), hfront t ht⟩

end Recalls

/-- After late calls the invariant holds. -/
theorem recalls_serve {lag window : Nat} (maxRequests : Nat) {calls : List Call} (hw : 0 < window)
    (hlate : Late lag calls) : Recalls lag calls (serve maxRequests window calls) := by
  induction calls using List.reverseRecOn with
  | nil => exact Recalls.start lag maxRequests window
  | append_singleton calls c ih =>
    have hbefore : Late lag calls := hlate.init
    rw [serve_concat]
    refine (ih hbefore).call ?_ ?_ c
    · rw [(serve_settings maxRequests window calls).2]
      exact hw
    · exact hbefore.sublist ((admitted_sublist maxRequests window calls).map _)

/-! ## How often a key is admitted -/

section

variable {maxRequests window lag span start : Nat} {calls : List Call} {key : String} {c : Call}

/-- What a call of a key forgets, or finds forgotten, is not in a short span with its reading. -/
theorem not_within_of_gone {spare t : Nat} (hspan : span + lag + spare ≤ window)
    (hlate : Late lag (calls ++ [c])) (hc : within start span c.reading = true)
    (ht : ∃ d ∈ calls ++ [c], t + window ≤ d.reading + spare) : within start span t = false := by
  obtain ⟨d, hd, hle⟩ := ht
  have hbehind : d.reading ≤ c.reading + lag := by
    rcases List.mem_append.mp hd with hd | hd
    · unfold Late at hlate
      rw [List.map_append, List.pairwise_append] at hlate
      exact hlate.2.2 _ (List.mem_map_of_mem hd) _ (by simp)
    · rw [List.mem_singleton.mp hd]
      exact Nat.le_add_right _ _
  simp only [within, decide_eq_true_eq, decide_eq_false_iff_not] at hc ⊢
  omega

/-- An admitted call found fewer readings of its key in a short span than the limit. -/
theorem countWithin_lt (hspan : span + lag + slack maxRequests lag ≤ window) (hw : 0 < window)
    (hlate : Late lag (calls ++ [c]))
    (ha : (serve maxRequests window calls).answer c.key c.reading = true)
    (hc : within start span c.reading = true) :
    (serve maxRequests window calls).countWithin c.key start span < maxRequests := by
  have hbefore : Late lag calls := hlate.init
  have hrecalls := recalls_serve maxRequests hw hbefore
  obtain ⟨hm, hwindow⟩ := serve_settings maxRequests window calls
  obtain ⟨gone, hperm, hgone⟩ := hrecalls.gone c.key
  obtain ⟨front, hqueue, hfront⟩ := hrecalls.purged (by rw [hwindow]; exact hw)
    (hbefore.sublist ((admitted_sublist maxRequests window calls).map _)) c.reading c.key
  have hnone : (gone ++ front).countP (within start span) = 0 := by
    rw [List.countP_eq_zero]
    intro t ht
    rw [Bool.not_eq_true]
    refine not_within_of_gone hspan hlate hc ?_
    rcases List.mem_append.mp ht with ht | ht
    · obtain ⟨d, hd, hle⟩ := hgone t ht
      rw [hwindow, hm] at hle
      exact ⟨d, List.mem_append_left _ hd, hle⟩
    · have hle := hfront t ht
      rw [hwindow, hm] at hle
      exact ⟨c, List.mem_append_right _ (List.mem_singleton_self c), hle⟩
  rw [Served.answer, allowAt_fst, hm, decide_eq_true_eq] at ha
  calc (serve maxRequests window calls).countWithin c.key start span
      = (gone ++ front ++ (serve maxRequests window calls).limiter.purged c.key
          c.reading).countP (within start span) := by
        rw [Served.countWithin, hperm.countP_eq, hqueue, List.append_assoc]
    _ ≤ ((serve maxRequests window calls).limiter.purged c.key c.reading).length := by
        rw [List.countP_append, hnone, Nat.zero_add]
        exact List.countP_le_length
    _ < maxRequests := ha

/-- No key is admitted more often than the limit in a span that is shorter than the window by the
lag and the slack. -/
theorem countWithin_le (hspan : span + lag + slack maxRequests lag ≤ window)
    (hlate : Late lag calls) (key : String) (start : Nat) :
    (serve maxRequests window calls).countWithin key start span ≤ maxRequests := by
  rcases Nat.eq_zero_or_pos window with rfl | hw
  · -- The span is empty then.
    have hnone : ∀ readings : List Nat, readings.countP (within start span) = 0 := by
      intro readings
      rw [List.countP_eq_zero]
      intro t _
      simp only [within, decide_eq_true_eq]
      omega
    rw [Served.countWithin, hnone]
    exact Nat.zero_le _
  induction calls using List.reverseRecOn with
  | nil => exact Nat.zero_le _
  | append_singleton calls c ih =>
    have hbefore : Late lag calls := hlate.init
    have hle := ih hbefore
    rw [serve_concat, Served.countWithin, Served.readings_call, List.countP_append]
    split
    · rename_i hc
      obtain ⟨rfl, ha⟩ := hc
      cases hin : within start span c.reading with
      | true =>
        have hlt := countWithin_lt hspan hw hlate ha hin
        rw [Served.countWithin] at hlt
        rw [List.countP_singleton, hin]
        exact hlt
      | false =>
        rw [List.countP_singleton, hin]
        exact hle
    · exact hle

end

/-! ## How the limit is overrun -/

section

variable {maxRequests window lag : Nat}

/-- A limiter that another key called, and then `n` times one key, at the lag. -/
def crowded (maxRequests window lag n : Nat) : Served where
  limiter := {
    maxRequests, window
    queues := put "k" (List.replicate n lag) [("other", [0])]
    lastSweep := some 0 }
  admitted := ⟨"other", 0⟩ :: List.replicate n ⟨"k", lag⟩

theorem crowded_call {n : Nat} (hn : n < maxRequests) (hl : lag < window) :
    (crowded maxRequests window lag n).call ⟨"k", lag⟩ =
      crowded maxRequests window lag (n + 1) := by
  have hsweep : ¬ window ≤ lag := by omega
  have hpurge : window ≠ 0 := by omega
  cases n with
  | zero =>
    simp [crowded, Served.call, allowAt, sweep, current, put, expired, hn, hsweep,
      List.lookup_cons]
  | succ n =>
    simp [crowded, Served.call, allowAt, sweep, current, put, expired, hn, hsweep, hpurge,
      List.replicate_succ, ← List.replicate_succ']

theorem serve_crowded (hm : 0 < maxRequests) (hl : lag < window) {n : Nat}
    (hn : n ≤ maxRequests) :
    serve maxRequests window (⟨"other", 0⟩ :: List.replicate n ⟨"k", lag⟩) =
      crowded maxRequests window lag n := by
  induction n with
  | zero => simp [serve, crowded, Served.call, allowAt, sweep, current, put, hm]
  | succ n ih =>
    rw [List.replicate_succ', ← List.cons_append, serve_concat, ih (Nat.le_of_lt hn),
      crowded_call hn hl]

/-- After a late call of the key, a call of the other key at the end of the window sweeps both
queues: the last reading of the key's queue is its oldest. -/
theorem crowded_swept {n : Nat} (hn : n < maxRequests) (hl : lag < window) :
    (crowded maxRequests window lag n).answer "k" 0 = true ∧
    (((crowded maxRequests window lag n).call ⟨"k", 0⟩).call ⟨"other", window⟩).limiter =
      { maxRequests, window, queues := [("other", [window])], lastSweep := some window } := by
  have hpurge : window ≠ 0 := by omega
  have hm : 0 < maxRequests := by omega
  cases n with
  | zero =>
    simp [crowded, Served.answer, Served.call, allowAt, sweep, current, put, expired, hpurge, hm,
      List.lookup_cons]
  | succ n =>
    have hlast : (lag :: (List.replicate n lag ++ [0])).getLast? = some 0 := by
      rw [← List.cons_append, List.getLast?_concat]
    simp [crowded, Served.answer, Served.call, allowAt, sweep, current, put, expired, hpurge,
      List.replicate_succ, hn, hlast, hm]

/-- Then the key is admitted again, at a reading that is a lag behind, and once more if it may. -/
theorem swept_answers {s : Served} (hm : 0 < maxRequests) (hw : 0 < window)
    (hs : s.limiter =
      { maxRequests, window, queues := [("other", [window])], lastSweep := some window })
    (lag : Nat) :
    s.answer "k" (window - lag) = true ∧
      (s.call ⟨"k", window - lag⟩).answer "k" (window - lag) = decide (2 ≤ maxRequests) := by
  have hpurge : window ≠ 0 := by omega
  constructor
  · simp [Served.answer, hs, allowAt, sweep, current, expired, hpurge, hm, List.lookup_cons]
  · simp [Served.answer, Served.call, hs, allowAt, sweep, current, put, expired, hpurge, hm,
      List.lookup_cons, Nat.succ_le_iff, apply_ite Prod.fst]

/-- Late calls with which a key overruns its limit. -/
def overrun (maxRequests window lag : Nat) : List Call :=
  ⟨"other", 0⟩ :: List.replicate (maxRequests - 1) ⟨"k", lag⟩ ++
    [⟨"k", 0⟩, ⟨"other", window⟩, ⟨"k", window - lag⟩, ⟨"k", window - lag⟩]

theorem late_overrun (hl : lag + slack maxRequests lag ≤ window) :
    Late lag (overrun maxRequests window lag) := by
  have hlast : window ≤ window - lag + lag := by omega
  have hfirst : window ≤ window - lag + lag + lag := Nat.le_add_right_of_le hlast
  unfold Late overrun
  simp [List.pairwise_append, List.pairwise_replicate, hlast, hfirst]

/-- All calls of the key are admitted, but for the last one if it may call but once. -/
theorem readings_overrun (hm : 0 < maxRequests) (hl : lag < window) :
    (serve maxRequests window (overrun maxRequests window lag)).readings "k" =
      List.replicate (maxRequests - 1) lag ++ [0, window - lag] ++
        if 2 ≤ maxRequests then [window - lag] else [] := by
  obtain ⟨hlate, hswept⟩ := crowded_swept (Nat.sub_one_lt_of_lt hm) hl
  let s := ((crowded maxRequests window lag (maxRequests - 1)).call ⟨"k", 0⟩).call ⟨"other", window⟩
  obtain ⟨hfirst, hsecond⟩ := swept_answers (s := s) hm (Nat.zero_lt_of_lt hl) hswept lag
  have hserve : serve maxRequests window (overrun maxRequests window lag) =
      (s.call ⟨"k", window - lag⟩).call ⟨"k", window - lag⟩ := by
    have hcrowded := serve_crowded hm hl (Nat.sub_le maxRequests 1)
    unfold serve at hcrowded ⊢
    unfold overrun
    rw [List.foldl_append, hcrowded]
    rfl
  have hbefore : (crowded maxRequests window lag (maxRequests - 1)).readings "k" =
      List.replicate (maxRequests - 1) lag := by
    simp [crowded, Served.readings]
  have hother : ("k" : String) ≠ "other" := by decide
  have hreadings : s.readings "k" = List.replicate (maxRequests - 1) lag ++ [0] := by
    simp only [s, Served.readings_call, hbefore, hlate, hother, false_and, true_and, if_false,
      if_true, List.append_nil]
  rw [hserve]
  simp only [Served.readings_call, hreadings, hfirst, hsecond, true_and, if_true,
    decide_eq_true_eq, List.append_assoc, List.cons_append, List.nil_append]

theorem countWithin_overrun {span : Nat} (hm : 0 < maxRequests) (hl : lag < window)
    (hspan : window < span + lag + slack maxRequests lag)
    (hwindow : lag + slack maxRequests lag ≤ window) :
    ∃ start, maxRequests <
      (serve maxRequests window (overrun maxRequests window lag)).countWithin "k" start span := by
  unfold slack at hspan hwindow
  unfold Served.countWithin
  rw [readings_overrun hm hl]
  by_cases htwo : 2 ≤ maxRequests
  · have hmany : ¬ maxRequests ≤ 1 := by omega
    rw [if_neg hmany] at hspan hwindow
    refine ⟨lag, ?_⟩
    have hfirst : within lag span lag = true := by
      simp only [within, decide_eq_true_eq]
      omega
    have hlast : within lag span (window - lag) = true := by
      simp only [within, decide_eq_true_eq]
      omega
    simp only [if_pos htwo, List.countP_append, List.countP_replicate, List.countP_cons,
      List.countP_nil, hfirst, hlast, if_true]
    omega
  · obtain rfl : maxRequests = 1 := by omega
    rw [if_pos (Nat.le_refl 1)] at hspan
    refine ⟨0, ?_⟩
    have hfirst : within 0 span 0 = true := by
      simp only [within, decide_eq_true_eq]
      omega
    have hlast : within 0 span (window - lag) = true := by
      simp only [within, decide_eq_true_eq]
      omega
    simp [hfirst, hlast]

end

/-- **On which spans a limit is kept when calls come late.**  When no reading is more than `lag`
behind an earlier one, no key is admitted more often than the limit in any span that is shorter than
the window by the lag and the slack, and on longer spans it can be. -/
theorem limit_kept_iff_span (maxRequests window lag span : Nat) :
    (span + lag + slack maxRequests lag ≤ window →
      ∀ calls, Late lag calls → ∀ key start,
        (serve maxRequests window calls).countWithin key start span ≤ maxRequests) ∧
    (0 < maxRequests → lag < window → lag + slack maxRequests lag ≤ window →
      window < span + lag + slack maxRequests lag →
      ∃ calls, Late lag calls ∧ ∃ key start,
        maxRequests < (serve maxRequests window calls).countWithin key start span) := by
  constructor
  · intro hspan calls hlate key start
    exact countWithin_le hspan hlate key start
  · intro hm hl hwindow hspan
    obtain ⟨start, hcount⟩ := countWithin_overrun hm hl hspan hwindow
    exact ⟨_, late_overrun hwindow, "k", start, hcount⟩

/-- With readings up to three behind, a limit of two in a window of ten is kept on spans of four,
here on the one that begins at nine, with a call that is admitted right after a sweep. -/
theorem limit_kept_three_behind :
    Late 3 [⟨"k", 5⟩, ⟨"k", 2⟩, ⟨"other", 15⟩, ⟨"k", 12⟩] ∧
      (serve 2 10 [⟨"k", 5⟩, ⟨"k", 2⟩, ⟨"other", 15⟩, ⟨"k", 12⟩]).countWithin "k" 9 4 ≤ 2 :=
  ⟨by decide, (limit_kept_iff_span 2 10 3 4).1 (by decide) _ (by decide) "k" 9⟩

/-- **On whole windows a limit is not kept in every order of the readings**: the third call purges
the queue, and the fourth has a reading that shares a window with those that were purged. -/
theorem limit_exceeded_by_late_call :
    ¬ ∀ (maxRequests window : Nat) (calls : List Call) (key : String) (start : Nat), 0 < window →
      (serve maxRequests window calls).countWithin key start window ≤ maxRequests := by
  intro h
  have hkept := h 2 10 [⟨"k", 0⟩, ⟨"k", 1⟩, ⟨"k", 11⟩, ⟨"k", 5⟩] "k" 0 (by decide)
  exact absurd hkept (by decide +kernel)

end RateLimiter

end ChillerGateway
