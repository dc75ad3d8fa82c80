import ChillerGateway.Proofs.Binary64.Arithmetic
import ChillerGateway.Proofs.Schedule.Steps

/-!
# The target between two steps

Between the first and the last step the target lies on the line through two neighbouring steps, the
first of them at the time or before it and the second after it.  A binary search finds them; since
each step is later than the one before, there are no others, and a plain scan from the left comes
to the same target.

* `searchLater_search` — the search keeps a step that is not later on its left and a later one on
  its right.
* `neighbours_around` — ascending times leave one pair of neighbours around a time.
* `Schedule.setpointAt?_eq_scan` — a schedule has a target at every time, the one that the scan
  finds, and at the time of a step it is the temperature of the step.
-/

namespace ChillerGateway

/-! ## Neighbours -/

section

variable {β : Type}

/-- The pairs of neighbours of a list, from the left. -/
def neighbours : List β → List (β × β)
  | a :: b :: rest => (a, b) :: neighbours (b :: rest)
  | _ => []

theorem neighbours_append (before : List β) (a b : β) (after : List β) :
    neighbours (before ++ a :: b :: after) =
      neighbours (before ++ [a]) ++ (a, b) :: neighbours (b :: after) := by
  induction before with
  | nil => rfl
  | cons c before ih =>
    cases before with
    | nil => rfl
    | cons d before =>
      show (c, d) :: neighbours (d :: before ++ a :: b :: after) =
        (c, d) :: (neighbours (d :: before ++ [a]) ++ (a, b) :: neighbours (b :: after))
      rw [ih]

theorem mem_of_mem_neighbours {steps : List β} {p : β × β} (h : p ∈ neighbours steps) :
    p.1 ∈ steps ∧ p.2 ∈ steps := by
  induction steps with
  | nil => cases h
  | cons a steps ih =>
    cases steps with
    | nil => cases h
    | cons b steps =>
      rcases List.mem_cons.mp h with rfl | hp
      · exact ⟨List.mem_cons_self, List.mem_cons_of_mem _ List.mem_cons_self⟩
      · exact (ih hp).imp (List.mem_cons_of_mem _) (List.mem_cons_of_mem _)

/-- Two entries of an array that stand next to each other. -/
theorem toList_eq_of_getElem? {entries : Array β} {i : Nat} {a b : β}
    (ha : entries[i]? = some a) (hb : entries[i + 1]? = some b) :
    ∃ before after, entries.toList = before ++ a :: b :: after := by
  rw [← Array.getElem?_toList] at ha hb
  obtain ⟨hi, rfl⟩ := List.getElem?_eq_some_iff.mp ha
  obtain ⟨hj, rfl⟩ := List.getElem?_eq_some_iff.mp hb
  refine ⟨entries.toList.take i, entries.toList.drop (i + 1 + 1), ?_⟩
  rw [← List.drop_eq_getElem_cons hj, ← List.drop_eq_getElem_cons hi, List.take_append_drop]

end

/-! ## The search -/

section

variable {α : Type} [LE α] [DecidableLE α]
variable {steps : Array (Step α)} {first last : Step α} {t : α} {low high fuel : Nat}

/-- Where a search stands: what lies before `low` is not later than `t`, and what lies at `high`
is. -/
structure Search (steps : Array (Step α)) (t : α) (low high : Nat) : Prop where
  low_le : low ≤ high
  high_le : high ≤ steps.size
  before : ∀ i s, i + 1 = low → steps[i]? = some s → s.minutes ≤ t
  after : ∀ s, steps[high]? = some s → ¬ s.minutes ≤ t

/-- **The search** ends at a step that is later while the one before it is not. -/
theorem searchLater_search (h : Search steps t low high) (hfuel : high - low ≤ fuel) :
    Search steps t (searchLater steps t fuel low high) (searchLater steps t fuel low high) := by
  induction fuel generalizing low high with
  | zero =>
    obtain rfl : low = high := Nat.le_antisymm h.low_le (by omega)
    exact h
  | succ fuel ih =>
    rw [searchLater]
    split
    · rename_i hlt
      have hsize := h.high_le
      have hmiddle : (low + high) / 2 < steps.size := by omega
      simp only [Array.getElem?_eq_getElem hmiddle]
      split
      · rename_i hle
        apply ih
        · refine ⟨by omega, h.high_le, fun i s hi hs => ?_, h.after⟩
          obtain rfl : i = (low + high) / 2 := by omega
          rw [Array.getElem?_eq_getElem hmiddle] at hs
          cases hs
          exact hle
        · omega
      · rename_i hle
        apply ih
        · refine ⟨by omega, by omega, h.before, fun s hs => ?_⟩
          rw [Array.getElem?_eq_getElem hmiddle] at hs
          cases hs
          exact hle
        · omega
    · obtain rfl : low = high := by
        have := h.low_le
        omega
      exact h

variable [Add α] [Sub α] [Mul α] [Div α]

/-- Up to the first step its temperature holds. -/
theorem setpointAt?_before (hfirst : steps[0]? = some first)
    (hlast : steps[steps.size - 1]? = some last) (h : t ≤ first.minutes) :
    setpointAt? steps t = some first.temperature := by
  unfold setpointAt?
  simp only [hfirst, hlast, Option.bind_eq_bind, Option.bind_some, if_pos h]
  rfl

/-- From the last step on its temperature holds. -/
theorem setpointAt?_after (hfirst : steps[0]? = some first)
    (hlast : steps[steps.size - 1]? = some last) (h : ¬ t ≤ first.minutes)
    (hend : last.minutes ≤ t) : setpointAt? steps t = some last.temperature := by
  unfold setpointAt?
  simp only [hfirst, hlast, Option.bind_eq_bind, Option.bind_some, if_neg h, if_pos hend]
  rfl

/-- Strictly inside the steps the search finds a bracket. -/
theorem setpointAt?_inside (hfirst : steps[0]? = some first)
    (hlast : steps[steps.size - 1]? = some last) (hbegun : first.minutes ≤ t)
    (hheld : ¬ t ≤ first.minutes) (hend : ¬ last.minutes ≤ t) :
    ∃ i a b, steps[i]? = some a ∧ steps[i + 1]? = some b ∧ a.minutes ≤ t ∧ ¬ b.minutes ≤ t ∧
      setpointAt? steps t = some (between a b t) := by
  have hstart : Search steps t 0 steps.size :=
    ⟨Nat.zero_le _, Nat.le_refl _, fun i s hi => by omega, fun s hs => by
      rw [Array.getElem?_eq_none (Nat.le_refl _)] at hs
      cases hs⟩
  have hfound := searchLater_search hstart (Nat.sub_le steps.size 0)
  unfold setpointAt?
  simp only [hfirst, hlast, Option.bind_eq_bind, Option.bind_some, if_neg hheld, if_neg hend]
  generalize searchLater steps t steps.size 0 steps.size = index at hfound ⊢
  cases index with
  | zero => exact absurd hbegun (hfound.after first hfirst)
  | succ i =>
    have hi : i < steps.size := hfound.high_le
    have ha : steps[i]? = some steps[i] := Array.getElem?_eq_getElem hi
    have hle := hfound.before i steps[i] rfl ha
    have hnext : i + 1 < steps.size := by
      by_contra hge
      obtain rfl : i = steps.size - 1 := by omega
      rw [ha] at hlast
      cases hlast
      exact hend hle
    have hb : steps[i + 1]? = some steps[i + 1] := Array.getElem?_eq_getElem hnext
    refine ⟨i, steps[i], steps[i + 1], ha, hb, hle, hfound.after _ hb, ?_⟩
    simp only [ha, hb, Option.bind_some]
    rfl

variable [LT α] [DecidableLT α]

/-- Whether a time is that of the first of two steps or later, and earlier than the second. -/
def Around (t : α) (p : Step α × Step α) : Prop := p.1.minutes ≤ t ∧ t < p.2.minutes

instance (t : α) (p : Step α × Step α) : Decidable (Around t p) := by
  unfold Around
  infer_instance

/-- The target at a time by a plain scan from the left. -/
def scan? (steps : List (Step α)) (t : α) : Option α := do
  let first ← steps.head?
  let last ← steps.getLast?
  if t ≤ first.minutes then return first.temperature
  if last.minutes ≤ t then return last.temperature
  let (a, b) ← (neighbours steps).find? (Around t ·)
  return between a b t

end

/-! ## Steps around a time -/

open Binary64

section

variable {before after : List (Step Binary64)} {a b x : Step Binary64} {t : Binary64} {p : Int}

/-- Steps that a schedule may have, each later than the one before. -/
def Ascending (steps : List (Step Binary64)) : Prop :=
  (∀ x ∈ steps, Schedule.Accepted x) ∧
    steps.Pairwise fun a b => a.minutes.magnitude < b.minutes.magnitude

/-- Where the steps stand around two neighbours. -/
theorem Ascending.around (h : Ascending (before ++ a :: b :: after)) :
    (∀ x ∈ before, x.minutes.magnitude < a.minutes.magnitude) ∧
      a.minutes.magnitude < b.minutes.magnitude ∧
      ∀ x ∈ after, b.minutes.magnitude < x.minutes.magnitude := by
  obtain ⟨-, hrest, hbefore⟩ := List.pairwise_append.mp h.2
  obtain ⟨hfirst, hsecond⟩ := List.pairwise_cons.mp hrest
  exact ⟨fun x hx => hbefore x hx a List.mem_cons_self, hfirst b List.mem_cons_self,
    (List.pairwise_cons.mp hsecond).1⟩

/-- **Ascending times leave one pair of neighbours** around a time. -/
theorem neighbours_around (h : Ascending (before ++ a :: b :: after)) (hp : t.position = some p)
    (hle : (a.minutes.magnitude : Int) ≤ p) (hlt : p < b.minutes.magnitude) :
    (neighbours (before ++ a :: b :: after)).filter (Around t ·) = [(a, b)] := by
  obtain ⟨hbefore, -, hafter⟩ := h.around
  have htime : ∀ x ∈ before ++ a :: b :: after, x.minutes.position = some ↑x.minutes.magnitude :=
    fun x hx => (h.1 x hx).1.position_eq
  have hamem : a ∈ before ++ a :: b :: after := by simp
  have hbmem : b ∈ before ++ a :: b :: after := by simp
  have hbefore' : ∀ x ∈ before ++ [a], ¬ t < x.minutes := by
    intro x hx hlater
    rcases List.mem_append.mp hx with hx | hx
    · have := (lt_iff hp (htime x (List.mem_append_left _ hx))).mp hlater
      have := hbefore x hx
      omega
    · rw [List.mem_singleton.mp hx, lt_iff hp (htime a hamem)] at hlater
      omega
  have hafter' : ∀ x ∈ b :: after, ¬ x.minutes ≤ t := by
    intro x hx hbegun
    rcases List.mem_cons.mp hx with rfl | hx
    · rw [le_iff (htime x hbmem) hp] at hbegun
      omega
    · have hmem := List.mem_append_right before (List.mem_cons_of_mem a (List.mem_cons_of_mem b hx))
      have := (le_iff (htime x hmem) hp).mp hbegun
      have := hafter x hx
      omega
  have hleft : (neighbours (before ++ [a])).filter (Around t ·) = [] :=
    List.filter_eq_nil_iff.mpr fun pair hpair haround =>
      hbefore' pair.2 (mem_of_mem_neighbours hpair).2 (of_decide_eq_true haround).2
  have hright : (neighbours (b :: after)).filter (Around t ·) = [] :=
    List.filter_eq_nil_iff.mpr fun pair hpair haround =>
      hafter' pair.1 (mem_of_mem_neighbours hpair).1 (of_decide_eq_true haround).1
  have hself : decide (Around t (a, b)) = true :=
    decide_eq_true ⟨(le_iff (htime a hamem) hp).mpr hle, (lt_iff hp (htime b hbmem)).mpr hlt⟩
  rw [neighbours_append, List.filter_append, List.filter_cons, hleft, hright, if_pos hself]
  rfl

/-- The step whose time lies between two neighbours is the first of them. -/
theorem Ascending.eq_left (h : Ascending (before ++ a :: b :: after))
    (hx : x ∈ before ++ a :: b :: after) (hle : a.minutes.magnitude ≤ x.minutes.magnitude)
    (hlt : x.minutes.magnitude < b.minutes.magnitude) : x = a := by
  obtain ⟨hbefore, -, hafter⟩ := h.around
  rcases List.mem_append.mp hx with hx | hx
  · have := hbefore x hx
    omega
  · rcases List.mem_cons.mp hx with rfl | hx
    · rfl
    · rcases List.mem_cons.mp hx with rfl | hx
      · omega
      · have := hafter x hx
        omega

/-! ## The line through two steps -/

/-- All that has to be computed with counts of a thousand bits. -/
theorem line_counts :
    Representable one ∧ Representable (400 * one) ∧ Representable (600 * one) := by
  decide +kernel

theorem magnitude_lt_overflow (hx : x.minutes.IsTime) : x.minutes.magnitude < overflow := by
  obtain ⟨s, u, hu, heq, -⟩ := hx.exists_finite
  rw [heq]
  exact hu.1

/-- A time before some step is finite. -/
theorem isFinite_of_before (hp : t.position = some p) (hzero : 0 ≤ p)
    (hx : x.minutes.IsTime) (hlt : p < x.minutes.magnitude) : t.isFinite = true := by
  have hbound := magnitude_lt_overflow hx
  cases t with
  | nan => cases hp
  | finite => rfl
  | infinite s =>
    obtain rfl : signed s overflow = p := Option.some.inj hp
    cases s
    · simp only [signed, Bool.false_eq_true, if_false] at hlt
      omega
    · simp only [signed, if_true] at hzero
      omega

/-- The way gone and the whole way between two steps, each of them rounded. -/
theorem exists_ways (ha : a.minutes.IsTime) (hb : b.minutes.IsTime) (hp : t.position = some p)
    (hle : (a.minutes.magnitude : Int) ≤ p) (hlt : p < b.minutes.magnitude) :
    ∃ gone whole, Within gone (t - a.minutes) ∧
      (∃ s h, b.minutes - a.minutes = .finite s whole h) ∧ gone ≤ whole ∧ 0 < whole ∧
      (p = a.minutes.magnitude → gone = 0) := by
  have hfinite := isFinite_of_before hp (by omega) hb hlt
  obtain ⟨s, hn, hgone⟩ := sub_eq hfinite ha.1 hp ha.position_eq (by omega) hle
  obtain ⟨r, hm, hwhole⟩ :=
    sub_eq hb.1 ha.1 hb.position_eq ha.position_eq (by omega) (by omega)
  refine ⟨_, _, ⟨s, _, hn, hgone, Nat.le_refl _⟩, ⟨r, hm, hwhole⟩, ?_, ?_, ?_⟩
  · exact nearestUnits_mono Nat.one_pos (by omega)
  · exact nearestUnits_pos (by omega)
  · intro heq
    rw [heq, Int.sub_self, Int.natAbs_zero, nearestUnits_zero]

theorem within_temperature (h : Setpoint.InRange x.temperature) :
    Within (200 * one) x.temperature := by
  obtain ⟨s, u, hu, heq, hle⟩ := h.exists_finite
  exact ⟨s, u, hu, heq, hle.trans (Nat.mul_le_mul_right _ (Setpoint.limit_le s))⟩

variable (ha : Schedule.Accepted a) (hb : Schedule.Accepted b) (hp : t.position = some p)
  (hle : (a.minutes.magnitude : Int) ≤ p) (hlt : p < b.minutes.magnitude)
include ha hb hp hle hlt

/-- The line between two steps does not leave the finite numbers. -/
theorem within_between : Within (600 * one) (between a b t) := by
  obtain ⟨hone, hrise, hsum⟩ := line_counts
  obtain ⟨gone, whole, hgone, ⟨s, h, hwhole⟩, hways, hpos, -⟩ := exists_ways ha.1 hb.1 hp hle hlt
  have hfraction : Within one ((t - a.minutes) / (b.minutes - a.minutes)) := by
    rw [hwhole]
    exact hgone.div hpos hone (by rw [Nat.mul_comm one]; exact Nat.mul_le_mul_right one hways)
  have hdifference : Within (400 * one) (b.temperature - a.temperature) :=
    (within_temperature hb.2).sub (within_temperature ha.2) hrise (by omega)
  exact (within_temperature ha.2).add
    (hfraction.mul hdifference hrise (Nat.le_of_eq (Nat.mul_comm _ _))) hsum (by omega)

/-- At the time of its first step the line has the temperature of that step. -/
theorem same_between (heq : p = a.minutes.magnitude) :
    (between a b t).same a.temperature = true := by
  obtain ⟨-, hrise, -⟩ := line_counts
  obtain ⟨gone, whole, hgone, ⟨s, h, hwhole⟩, -, hpos, hstart⟩ :=
    exists_ways ha.1 hb.1 hp hle hlt
  obtain rfl : gone = 0 := hstart heq
  have hfraction : Within 0 ((t - a.minutes) / (b.minutes - a.minutes)) := by
    rw [hwhole]
    exact hgone.div hpos representable_zero (by omega)
  have hdifference : Within (400 * one) (b.temperature - a.temperature) :=
    (within_temperature hb.2).sub (within_temperature ha.2) hrise (by omega)
  exact same_add_nothing ha.2.isFinite
    (hfraction.mul hdifference representable_zero (by omega))

end

/-! ## The target of a schedule -/

namespace Schedule

variable {steps : List (Step Binary64)} {s : Schedule} {x : Step Binary64} {t : Binary64} {p : Int}

theorem getElem?_first (s : Schedule) : s.steps[0]? = some s.first :=
  Array.getElem?_eq_getElem s.steps_pos

theorem getElem?_last (s : Schedule) : s.steps[s.steps.size - 1]? = some s.last :=
  Array.getElem?_eq_getElem (Nat.sub_lt s.steps_pos Nat.one_pos)

theorem head?_steps (s : Schedule) : s.steps.toList.head? = some s.first := by
  rw [List.head?_eq_getElem?, Array.getElem?_toList]
  exact s.getElem?_first

theorem getLast?_steps (s : Schedule) : s.steps.toList.getLast? = some s.last := by
  rw [List.getLast?_eq_getElem?, Array.getElem?_toList, Array.length_toList]
  exact s.getElem?_last

theorem ascending_of_make (h : make steps = .ok s) : Ascending s.steps.toList :=
  (steps_of_make h).2

theorem setpointAt?_first (ht : t ≤ s.first.minutes) :
    s.setpointAt? t = some s.first.temperature :=
  setpointAt?_before s.getElem?_first s.getElem?_last ht

theorem setpointAt?_last (hfirst : ¬ t ≤ s.first.minutes) (ht : s.last.minutes ≤ t) :
    s.setpointAt? t = some s.last.temperature :=
  setpointAt?_after s.getElem?_first s.getElem?_last hfirst ht

theorem first_mem (s : Schedule) : s.first ∈ s.steps.toList :=
  List.mem_of_mem_head? s.head?_steps

theorem last_mem (s : Schedule) : s.last ∈ s.steps.toList :=
  List.mem_of_mem_getLast? s.getLast?_steps

theorem eq_first_or_lt (h : make steps = .ok s) (hx : x ∈ s.steps.toList) :
    x = s.first ∨ s.first.minutes.magnitude < x.minutes.magnitude := by
  obtain ⟨rest, heq⟩ := List.head?_eq_some_iff.mp s.head?_steps
  have hascending := (ascending_of_make h).2
  rw [heq] at hx hascending
  exact (List.mem_cons.mp hx).imp_right ((List.pairwise_cons.mp hascending).1 x)

theorem eq_last_or_lt (h : make steps = .ok s) (hx : x ∈ s.steps.toList) :
    x = s.last ∨ x.minutes.magnitude < s.last.minutes.magnitude := by
  obtain ⟨rest, heq⟩ := List.getLast?_eq_some_iff.mp s.getLast?_steps
  have hascending := (ascending_of_make h).2
  rw [heq] at hx hascending
  rcases List.mem_append.mp hx with hx | hx
  · exact .inr ((List.pairwise_append.mp hascending).2.2 x hx _ List.mem_cons_self)
  · exact .inl (List.mem_singleton.mp hx)

theorem position_minutes (h : make steps = .ok s) (hx : x ∈ s.steps.toList) :
    x.minutes.position = some (x.minutes.magnitude : Int) :=
  ((ascending_of_make h).1 x hx).1.position_eq

/-- From the time of the last step on its temperature holds, also where it is the first one. -/
theorem setpointAt?_finished (h : make steps = .ok s) (hp : t.position = some p)
    (ht : s.last.minutes ≤ t) : s.setpointAt? t = some s.last.temperature := by
  by_cases hfirst : t ≤ s.first.minutes
  · rw [setpointAt?_first hfirst]
    rw [le_iff hp (position_minutes h s.first_mem)] at hfirst
    rw [le_iff (position_minutes h s.last_mem) hp] at ht
    rcases eq_first_or_lt h s.last_mem with heq | hlt
    · rw [heq]
    · omega
  · exact setpointAt?_last hfirst ht

/-- **Between the first and the last step** the target is on the line through two neighbours. -/
theorem setpointAt?_between (h : make steps = .ok s) (hp : t.position = some p)
    (hfirst : s.first.minutes < t) (hlast : t < s.last.minutes) :
    ∃ before a b after, s.steps.toList = before ++ a :: b :: after ∧ Accepted a ∧ Accepted b ∧
      (a.minutes.magnitude : Int) ≤ p ∧ p < b.minutes.magnitude ∧
      s.setpointAt? t = some (between a b t) := by
  have hfp := position_minutes h s.first_mem
  have hlp := position_minutes h s.last_mem
  have hbegun := (lt_iff hfp hp).mp hfirst
  have hrunning := (lt_iff hp hlp).mp hlast
  obtain ⟨i, a, b, ha, hb, hle, hnle, htarget⟩ :=
    setpointAt?_inside s.getElem?_first s.getElem?_last ((le_iff hfp hp).mpr hbegun.le)
      (fun hle => by have := (le_iff hp hfp).mp hle; omega)
      (fun hle => by have := (le_iff hlp hp).mp hle; omega)
  obtain ⟨before, after, heq⟩ := toList_eq_of_getElem? ha hb
  obtain ⟨haccepted, -⟩ := ascending_of_make h
  have ha := haccepted a (by rw [heq]; simp)
  have hb := haccepted b (by rw [heq]; simp)
  rw [le_iff ha.1.position_eq hp] at hle
  rw [le_iff hb.1.position_eq hp, Int.not_le] at hnle
  exact ⟨before, a, b, after, heq, ha, hb, hle, hnle, htarget⟩

/-- The three places that a time can have to the steps. -/
theorem time_cases (h : make steps = .ok s) (hp : t.position = some p) :
    t ≤ s.first.minutes ∨ s.last.minutes ≤ t ∨
      (s.first.minutes < t ∧ t < s.last.minutes) := by
  have hfp := position_minutes h s.first_mem
  have hlp := position_minutes h s.last_mem
  rw [le_iff hp hfp, le_iff hlp hp, lt_iff hfp hp, lt_iff hp hlp]
  omega

/-- **At every time there is a finite target.** -/
theorem exists_target (h : make steps = .ok s) (ht : t.isNaN = false) :
    ∃ target, s.setpointAt? t = some target ∧ target.isFinite = true := by
  obtain ⟨p, hp⟩ := exists_position ht
  obtain ⟨haccepted, -⟩ := ascending_of_make h
  rcases time_cases h hp with hfirst | hlast | ⟨hfirst, hlast⟩
  · exact ⟨_, setpointAt?_first hfirst, (haccepted _ s.first_mem).2.isFinite⟩
  · exact ⟨_, setpointAt?_finished h hp hlast, (haccepted _ s.last_mem).2.isFinite⟩
  · obtain ⟨-, a, b, -, -, ha, hb, hle, hlt, htarget⟩ := setpointAt?_between h hp hfirst hlast
    exact ⟨_, htarget, (within_between ha hb hp hle hlt).isFinite⟩

/-- At the time of a step the target is its temperature. -/
theorem setpointAt?_step (h : make steps = .ok s) (hp : t.position = some p)
    (hx : x ∈ s.steps.toList) (ht : t.same x.minutes = true) :
    ∃ target, s.setpointAt? t = some target ∧ target.same x.temperature = true := by
  obtain ⟨haccepted, -⟩ := ascending_of_make h
  have hself : x.temperature.same x.temperature = true :=
    same_self (isNaN_of_isFinite (haccepted x hx).2.isFinite)
  have hxp := position_minutes h hx
  obtain rfl : p = x.minutes.magnitude := (same_iff hp hxp).mp ht
  rcases time_cases h hp with hfirst | hlast | ⟨hfirst, hlast⟩
  · refine ⟨_, setpointAt?_first hfirst, ?_⟩
    rw [le_iff hp (position_minutes h s.first_mem)] at hfirst
    rcases eq_first_or_lt h hx with rfl | hlt
    · exact hself
    · omega
  · refine ⟨_, setpointAt?_finished h hp hlast, ?_⟩
    rw [le_iff (position_minutes h s.last_mem) hp] at hlast
    rcases eq_last_or_lt h hx with rfl | hlt
    · exact hself
    · omega
  · obtain ⟨before, a, b, after, heq, ha, hb, hle, hlt, htarget⟩ :=
      setpointAt?_between h hp hfirst hlast
    have hleft : x = a := by
      have hascending := ascending_of_make h
      rw [heq] at hx hascending
      exact hascending.eq_left hx (by omega) (by omega)
    subst hleft
    exact ⟨_, htarget, same_between ha hb hp hle hlt rfl⟩

/-- **The search comes to the target of a plain scan**: a schedule has a target at every time that is
a number, the first temperature up to the first step, the last one from the last step on, and else
that of the only two neighbours around the time; at the time of a step it is the temperature of the
step. -/
theorem setpointAt?_eq_scan (h : make steps = .ok s) (ht : t.isNaN = false) :
    (∃ target, s.setpointAt? t = some target ∧ scan? s.steps.toList t = some target) ∧
    (t ≤ s.first.minutes → s.setpointAt? t = some s.first.temperature) ∧
    (s.last.minutes ≤ t → s.setpointAt? t = some s.last.temperature) ∧
    (s.first.minutes < t → t < s.last.minutes →
      ∃ a b, (neighbours s.steps.toList).filter (Around t ·) = [(a, b)] ∧
        s.setpointAt? t = some (between a b t)) ∧
    ∀ x ∈ s.steps.toList, t.same x.minutes = true →
      ∃ target, s.setpointAt? t = some target ∧ target.same x.temperature = true := by
  obtain ⟨p, hp⟩ := exists_position ht
  have hinside : s.first.minutes < t → t < s.last.minutes →
      ∃ a b, (neighbours s.steps.toList).filter (Around t ·) = [(a, b)] ∧
        s.setpointAt? t = some (between a b t) := by
    intro hfirst hlast
    obtain ⟨before, a, b, after, heq, -, -, hle, hlt, htarget⟩ :=
      setpointAt?_between h hp hfirst hlast
    have hascending := ascending_of_make h
    rw [heq] at hascending ⊢
    exact ⟨a, b, neighbours_around hascending hp hle hlt, htarget⟩
  refine ⟨?_, setpointAt?_first, setpointAt?_finished h hp, hinside,
    fun x hx => setpointAt?_step h hp hx⟩
  obtain ⟨target, htarget, -⟩ := exists_target h ht
  refine ⟨target, htarget, ?_⟩
  unfold scan?
  simp only [head?_steps, getLast?_steps, Option.bind_eq_bind, Option.bind_some]
  split
  · rename_i hfirst
    exact (setpointAt?_first hfirst).symm.trans htarget
  · rename_i hheld
    split
    · rename_i hlast
      exact (setpointAt?_finished h hp hlast).symm.trans htarget
    · rename_i hrunning
      obtain ⟨hfirst, hlast⟩ := ((time_cases h hp).resolve_left hheld).resolve_left hrunning
      obtain ⟨a, b, hfilter, hline⟩ := hinside hfirst hlast
      rw [← List.head?_filter, hfilter]
      exact hline.symm.trans htarget

/-- Between two steps of a schedule, and at the time of one. -/
theorem setpointAt?_eq_scan_ramp : ∃ s, make [⟨0, 20⟩, ⟨10, 30⟩, ⟨20, 25⟩] = .ok s ∧
    (∃ a b, (neighbours s.steps.toList).filter (Around 15 ·) = [(a, b)] ∧
      s.setpointAt? 15 = some (between a b 15)) ∧
    ∃ target, s.setpointAt? 10 = some target ∧ target.same 30 = true := by
  obtain ⟨⟨⟨_⟩, hpos⟩, hs, rfl⟩ : ∃ s, make [⟨0, 20⟩, ⟨10, 30⟩, ⟨20, 25⟩] = .ok s ∧
      s.steps.toList = [⟨0, 20⟩, ⟨10, 30⟩, ⟨20, 25⟩] :=
    make_of_ascending (by decide) (by decide +kernel) (by decide +kernel)
  obtain ⟨hnumber, hstep, hself, hfirst, hlast⟩ : (15 : Binary64).isNaN = false ∧
      (10 : Binary64).isNaN = false ∧ (10 : Binary64).same 10 = true ∧ (0 : Binary64) < 15 ∧
      (15 : Binary64) < 20 := by decide +kernel
  obtain ⟨-, -, -, hbetween, -⟩ := setpointAt?_eq_scan hs hnumber
  obtain ⟨-, -, -, -, hat⟩ := setpointAt?_eq_scan hs hstep
  exact ⟨_, hs, hbetween hfirst hlast, hat ⟨10, 30⟩ (by simp) hself⟩

end Schedule

end ChillerGateway
