import ChillerGateway.Schedule.Basic
import ChillerGateway.Proofs.Binary64.Order
import ChillerGateway.Proofs.Setpoint

/-!
# The steps of a schedule

A time that a schedule accepts is a number without a sign, but for a zero.  Such times are in total
order, by their magnitude and then by their sign, and sorting puts them in it.

* `Schedule.repeatedTimes_eq_nil_iff` — steps in order repeat no time when no two have one.
* `Schedule.make_eq` — accepted steps make a schedule unless a time is repeated.
* `Schedule.steps_of_make`, `Schedule.make_of_ascending` — what a schedule consists of.
* `Schedule.make_ok_iff` — which steps make one, and in which order they stand in it.
-/

namespace ChillerGateway

namespace Binary64

/-- The magnitude of a number in units. -/
def magnitude : Binary64 → Nat
  | finite _ u _ => u
  | _ => 0

section

variable (s : Bool) (u : Nat) (h : Representable u)

@[simp] theorem magnitude_finite : (finite s u h).magnitude = u := rfl

@[simp] theorem isNegative_finite : (finite s u h).isNegative = s := rfl

end

/-- A finite number that is not negative. -/
def IsTime (x : Binary64) : Prop := x.isFinite = true ∧ 0 ≤ x

/-- The place of a time among the times: by its magnitude, a zero with a sign first. -/
def timeKey (x : Binary64) : Nat := 2 * x.magnitude + (!x.isNegative).toNat

theorem zero_le_finite_iff {s : Bool} {u : Nat} {h : Representable u} :
    (0 : Binary64) ≤ .finite s u h ↔ (s = true → u = 0) := by
  have hzero : (0 : Binary64).position = some 0 := by decide +kernel
  have hplace : (finite s u h).position = some (signed s u) := rfl
  rw [le_iff hzero hplace]
  cases s with
  | false => simp [signed]
  | true => simp [signed]

theorem isTime_finite_iff {s : Bool} {u : Nat} {h : Representable u} :
    IsTime (.finite s u h) ↔ (s = true → u = 0) := by
  unfold IsTime
  rw [zero_le_finite_iff]
  exact and_iff_right rfl

theorem IsTime.exists_finite {x : Binary64} (hx : x.IsTime) :
    ∃ s u h, x = .finite s u h ∧ (s = true → u = 0) := by
  cases x with
  | nan => cases hx.1
  | infinite => cases hx.1
  | finite s u h => exact ⟨s, u, h, rfl, isTime_finite_iff.mp hx⟩

variable {x y : Binary64}

theorem IsTime.position_eq (hx : x.IsTime) : x.position = some (x.magnitude : Int) := by
  obtain ⟨s, u, h, rfl, hs⟩ := hx.exists_finite
  cases s with
  | false => rfl
  | true => simp [position, signed, magnitude, hs rfl]

/-- Only a zero has a sign. -/
theorem IsTime.magnitude_of_isNegative (hx : x.IsTime) (h : x.isNegative = true) :
    x.magnitude = 0 := by
  obtain ⟨s, u, hu, rfl, hs⟩ := hx.exists_finite
  exact hs h

theorem IsTime.same_iff (hx : x.IsTime) (hy : y.IsTime) :
    x.same y = true ↔ x.magnitude = y.magnitude := by
  rw [Binary64.same_iff hx.position_eq hy.position_eq, Int.ofNat_inj]

theorem IsTime.totalLe_eq (hx : x.IsTime) (hy : y.IsTime) :
    x.totalLe y = decide (x.timeKey ≤ y.timeKey) := by
  unfold totalLe lt same compareBy timeKey
  rw [hx.position_eq, hy.position_eq]
  rw [Bool.eq_iff_iff]
  simp only [Bool.or_eq_true, Bool.and_eq_true, decide_eq_true_eq, Int.ofNat_lt,
    Int.ofNat_inj]
  cases x.isNegative <;> cases y.isNegative <;> simp <;> omega

/-- Times in order have their magnitudes in order. -/
theorem magnitude_le_of_timeKey (h : x.timeKey ≤ y.timeKey) : x.magnitude ≤ y.magnitude := by
  unfold timeKey at h
  have := Bool.toNat_le (!y.isNegative)
  omega

theorem timeKey_le_of_magnitude (h : x.magnitude < y.magnitude) : x.timeKey ≤ y.timeKey := by
  have := Bool.toNat_le (!x.isNegative)
  unfold timeKey
  omega

instance (x : Binary64) : Decidable x.IsTime := by unfold IsTime; infer_instance

end Binary64

namespace Schedule

/-- A step that a schedule may have. -/
def Accepted (s : Step Binary64) : Prop := s.minutes.IsTime ∧ Setpoint.InRange s.temperature

instance (s : Step Binary64) : Decidable (Accepted s) := by unfold Accepted; infer_instance

theorem checkStep_eq_ok_iff {s : Step Binary64} : checkStep s = .ok () ↔ Accepted s := by
  unfold checkStep Accepted Binary64.IsTime
  split
  · rename_i ht
    rw [Setpoint.validate_eq_ok_iff]
    exact (and_iff_right ht).symm
  · rename_i ht
    exact iff_of_false (fun h => by cases h) fun h => ht h.1

theorem forM_checkStep_iff {steps : List (Step Binary64)} :
    steps.forM checkStep = .ok () ↔ ∀ s ∈ steps, Accepted s := by
  induction steps with
  | nil => exact iff_of_true rfl (List.forall_mem_nil _)
  | cons s steps ih =>
    rw [List.forall_mem_cons, ← checkStep_eq_ok_iff, ← ih]
    show (checkStep s >>= fun _ => steps.forM checkStep) = _ ↔ _
    cases checkStep s with
    | ok => exact (and_iff_right rfl).symm
    | error e => exact iff_of_false (fun h => by cases h) fun h => by cases h.1

/-- Steps in the order of their times. -/
def InOrder (steps : List (Step Binary64)) : Prop :=
  steps.Pairwise fun a b => a.minutes.timeKey ≤ b.minutes.timeKey

section

variable {steps : List (Step Binary64)}

/-- **Sorting puts accepted steps in order.** -/
theorem inOrder_sorted (h : ∀ s ∈ steps, Accepted s) : InOrder (sorted steps) := by
  have hle : ∀ a ∈ steps, ∀ b ∈ steps, a.minutes.totalLe b.minutes =
      decide (a.minutes.timeKey ≤ b.minutes.timeKey) :=
    fun a ha b hb => (h a ha).1.totalLe_eq (h b hb).1
  have hsame : sorted steps =
      steps.mergeSort fun a b => decide (a.minutes.timeKey ≤ b.minutes.timeKey) := by
    have hmap := List.map_mergeSort (r := fun a b : Step Binary64 => a.minutes.totalLe b.minutes)
      (s := fun a b : Step Binary64 => decide (a.minutes.timeKey ≤ b.minutes.timeKey)) (f := id) hle
    simpa only [List.map_id, sorted] using hmap
  rw [InOrder, hsame]
  refine (List.pairwise_mergeSort (fun a b c hab hbc => ?_) (fun a b => ?_) steps).imp
    of_decide_eq_true
  · exact decide_eq_true ((of_decide_eq_true hab).trans (of_decide_eq_true hbc))
  · simpa using Nat.le_total a.minutes.timeKey b.minutes.timeKey

theorem mem_sorted {s : Step Binary64} : s ∈ sorted steps ↔ s ∈ steps := List.mem_mergeSort

theorem perm_sorted : (sorted steps).Perm steps := List.mergeSort_perm _ _

/-- Steps in order stay as they are. -/
theorem sorted_of_inOrder (h : ∀ s ∈ steps, Accepted s) (ho : InOrder steps) :
    sorted steps = steps := by
  refine List.mergeSort_of_pairwise (ho.imp_of_mem fun ha hb hle => ?_)
  rw [(h _ ha).1.totalLe_eq (h _ hb).1]
  exact decide_eq_true hle

/-- **Steps in order repeat no time** when no two of them have one. -/
theorem repeatedTimes_eq_nil_iff (h : ∀ s ∈ steps, Accepted s) (ho : InOrder steps) :
    repeatedTimes steps = [] ↔
      steps.Pairwise fun a b => a.minutes.magnitude ≠ b.minutes.magnitude := by
  induction steps with
  | nil => exact iff_of_true rfl .nil
  | cons a steps ih =>
    obtain ⟨ha, hrest⟩ := List.forall_mem_cons.mp h
    obtain ⟨hfirst, horder⟩ := List.pairwise_cons.mp ho
    cases steps with
    | nil => exact iff_of_true rfl (List.pairwise_singleton _ _)
    | cons b steps =>
      have hb := hrest b List.mem_cons_self
      have hab := Binary64.magnitude_le_of_timeKey (hfirst b List.mem_cons_self)
      rw [List.pairwise_cons, ← ih hrest horder, repeatedTimes]
      by_cases hsame : a.minutes.same b.minutes = true
      · refine iff_of_false ?_ fun hall => hall.1 b List.mem_cons_self ((ha.1.same_iff hb.1).mp hsame)
        simp only [hsame, if_true]
        split
        · split <;> exact List.cons_ne_nil _ _
        · exact List.cons_ne_nil _ _
      · have hlt : a.minutes.magnitude < b.minutes.magnitude :=
          hab.lt_of_ne fun heq => hsame ((ha.1.same_iff hb.1).mpr heq)
        have hall : ∀ c ∈ b :: steps, a.minutes.magnitude ≠ c.minutes.magnitude := by
          intro c hc
          rcases List.mem_cons.mp hc with rfl | hc
          · exact hlt.ne
          · have := Binary64.magnitude_le_of_timeKey ((List.pairwise_cons.mp horder).1 c hc)
            exact (hlt.trans_le this).ne
        simp only [hsame]
        exact (and_iff_right hall).symm

/-- Only a repeated time keeps accepted steps from making a schedule. -/
theorem make_eq (hne : steps ≠ []) (h : ∀ x ∈ steps, Accepted x) :
    make steps = if repeatedTimes (sorted steps) = [] then
        .ok ⟨(sorted steps).toArray, size_sorted_pos hne⟩
      else .error (duplicates (repeatedTimes (sorted steps))) := by
  unfold make
  rw [dif_neg hne, forM_checkStep_iff.mpr h]
  simp only [bind, Except.bind]
  cases repeatedTimes (sorted steps) with
  | nil => rfl
  | cons => rfl

theorem accepted_of_make {s : Schedule} (h : make steps = .ok s) :
    steps ≠ [] ∧ ∀ x ∈ steps, Accepted x := by
  unfold make at h
  split at h
  · cases h
  · rename_i hne
    refine ⟨hne, forM_checkStep_iff.mp ?_⟩
    cases hcheck : steps.forM checkStep with
    | ok => rfl
    | error e =>
      rw [hcheck] at h
      cases h

/-- **What a schedule consists of**: accepted steps in order, no two of them at one time. -/
theorem steps_of_make {s : Schedule} (h : make steps = .ok s) :
    s.steps.toList ≠ [] ∧ (∀ x ∈ s.steps.toList, Accepted x) ∧
      s.steps.toList.Pairwise fun a b => a.minutes.magnitude < b.minutes.magnitude := by
  obtain ⟨hne, haccepted⟩ := accepted_of_make h
  have horder := inOrder_sorted haccepted
  have hsorted : ∀ x ∈ sorted steps, Accepted x := fun x hx => haccepted x (mem_sorted.mp hx)
  rw [make_eq hne haccepted] at h
  split at h
  · rename_i hrepeat
    cases h
    have hdistinct := (repeatedTimes_eq_nil_iff hsorted horder).mp hrepeat
    refine ⟨List.ne_nil_of_length_pos (size_sorted_pos hne), hsorted, ?_⟩
    exact (horder.and hdistinct).imp fun hab =>
      (Binary64.magnitude_le_of_timeKey hab.1).lt_of_ne hab.2
  · cases h

/-- A schedule has the steps that it was made of. -/
theorem perm_of_make {s : Schedule} (h : make steps = .ok s) : s.steps.toList.Perm steps := by
  obtain ⟨hne, haccepted⟩ := accepted_of_make h
  rw [make_eq hne haccepted] at h
  split at h
  · cases h
    exact perm_sorted
  · cases h

/-- Accepted steps in order, no two at one time, make a schedule as they are. -/
theorem make_of_ascending (hne : steps ≠ []) (h : ∀ x ∈ steps, Accepted x)
    (ho : steps.Pairwise fun a b => a.minutes.magnitude < b.minutes.magnitude) :
    ∃ s, make steps = .ok s ∧ s.steps.toList = steps := by
  have horder : InOrder steps := ho.imp Binary64.timeKey_le_of_magnitude
  have hsorted := sorted_of_inOrder h horder
  have hrepeat : repeatedTimes (sorted steps) = [] := by
    rw [hsorted, repeatedTimes_eq_nil_iff h horder]
    exact ho.imp Nat.ne_of_lt
  rw [make_eq hne h, if_pos hrepeat]
  exact ⟨_, rfl, hsorted⟩

/-- A finite time that is not below zero, and a temperature that the controller accepts. -/
theorem accepted_iff {s : Step Binary64} : Accepted s ↔
    (s.minutes.isFinite = true ∧ ¬ s.minutes < 0) ∧ Setpoint.validate s.temperature = .ok () := by
  rw [Setpoint.validate_eq_ok_iff]
  refine and_congr_left fun _ => and_congr_right fun hfinite => ?_
  obtain ⟨p, hp⟩ := Binary64.exists_position (Binary64.isNaN_of_isFinite hfinite)
  have hzero : (0 : Binary64).position = some 0 := by decide +kernel
  rw [Binary64.le_iff hzero hp, Binary64.lt_iff hp hzero]
  exact Int.not_lt.symm

/-- Sorting brings equal times together, so the neighbours tell whether a time is repeated. -/
theorem repeatedTimes_sorted_iff (h : ∀ x ∈ steps, Accepted x) :
    repeatedTimes (sorted steps) = [] ↔
      steps.Pairwise fun a b => a.minutes.same b.minutes = false := by
  have hsorted : ∀ x ∈ sorted steps, Accepted x := fun x hx => h x (mem_sorted.mp hx)
  rw [repeatedTimes_eq_nil_iff hsorted (inOrder_sorted h), perm_sorted.pairwise_iff Ne.symm]
  have hsame : ∀ {a b}, a ∈ steps → b ∈ steps →
      (a.minutes.magnitude ≠ b.minutes.magnitude ↔ a.minutes.same b.minutes = false) :=
    fun ha hb => by rw [Ne, ← (h _ ha).1.same_iff (h _ hb).1, Bool.not_eq_true]
  constructor
  · intro hp
    exact hp.imp_of_mem fun ha hb => (hsame ha hb).mp
  · intro hp
    exact hp.imp_of_mem fun ha hb => (hsame ha hb).mpr

/-- **Which steps make a schedule**: at least one, each at a finite time that is not below zero and
with a temperature in range, and no two at one time.  The schedule has all of them, each later than
the one before. -/
theorem make_ok_iff (steps : List (Step Binary64)) :
    ((∃ s, make steps = .ok s) ↔
      steps ≠ [] ∧ (∀ x ∈ steps, x.minutes.isFinite = true ∧ ¬ x.minutes < 0) ∧
        (steps.Pairwise fun a b => a.minutes.same b.minutes = false) ∧
        ∀ x ∈ steps, Setpoint.validate x.temperature = .ok ()) ∧
    ∀ s, make steps = .ok s →
      s.steps.toList.Perm steps ∧ s.steps.toList.Pairwise fun a b => a.minutes < b.minutes := by
  constructor
  · constructor
    · rintro ⟨s, hs⟩
      obtain ⟨hne, haccepted⟩ := accepted_of_make hs
      have hrepeat : repeatedTimes (sorted steps) = [] := by
        rw [make_eq hne haccepted] at hs
        split at hs
        · assumption
        · cases hs
      exact ⟨hne, fun x hx => (accepted_iff.mp (haccepted x hx)).1,
        (repeatedTimes_sorted_iff haccepted).mp hrepeat,
        fun x hx => (accepted_iff.mp (haccepted x hx)).2⟩
    · rintro ⟨hne, htimes, hdistinct, htemperatures⟩
      have haccepted : ∀ x ∈ steps, Accepted x := fun x hx =>
        accepted_iff.mpr ⟨htimes x hx, htemperatures x hx⟩
      rw [make_eq hne haccepted, if_pos ((repeatedTimes_sorted_iff haccepted).mpr hdistinct)]
      exact ⟨_, rfl⟩
  · intro s hs
    obtain ⟨-, haccepted, hascending⟩ := steps_of_make hs
    refine ⟨perm_of_make hs, hascending.imp_of_mem fun ha hb hlt => ?_⟩
    rw [Binary64.lt_iff (haccepted _ ha).1.position_eq (haccepted _ hb).1.position_eq]
    exact Int.ofNat_lt.mpr hlt

end

/-- Steps out of order, one of them at the zero with a sign. -/
theorem make_ok_unsorted : ∃ s, make [⟨10, 30⟩, ⟨-0, 20⟩, ⟨5, 40⟩] = .ok s ∧
    s.steps.toList.Perm [⟨10, 30⟩, ⟨-0, 20⟩, ⟨5, 40⟩] ∧
    s.steps.toList.Pairwise fun a b => a.minutes < b.minutes := by
  obtain ⟨s, hs⟩ := (make_ok_iff [⟨10, 30⟩, ⟨-0, 20⟩, ⟨5, 40⟩]).1.mpr
    ⟨by decide, by decide +kernel, by decide +kernel, by decide +kernel⟩
  exact ⟨s, hs, (make_ok_iff _).2 s hs⟩

end Schedule

end ChillerGateway
