import ChillerGateway.Proofs.Binary64.FixedText
import ChillerGateway.Setpoint

/-!
# What a written setpoint comes back as

A setpoint goes over the wire with one place and comes back with two.  What comes back is the number
nearest to the written tenths, and a reading confirms the request when that number lies within the
tolerance of it.  Written tenths lie at most half a tenth away, which is the tolerance, so only at
the middle between two tenths the last bits decide.

* `near_written_iff` — the comparison of a reading with its request involves no rounding.
* `confirmable_of_clear` — away from the middles every request is confirmed.
-/

namespace ChillerGateway

open Binary64

namespace Setpoint

/-- What the text of a setpoint with one place reads as. -/
def written : Binary64 → Binary64
  | .finite s u _ => ofRatio s (fixed 1 u) 10
  | x => x

/-- Whether the written tenths lie within the tolerance, in units and without rounding the
difference. -/
def Confirmable : Binary64 → Prop
  | .finite _ u _ =>
    ((nearestUnits (fixed 1 u * one) 10 : Int) - u).natAbs ≤ nearestUnits (5 * one) 100
  | _ => False

/-- Whether a setpoint lies at least `2⁻⁴⁶` away from the middles between two tenths. -/
def ClearOfMiddles : Binary64 → Prop
  | .finite _ u _ => 2 * (10 * (u : Int) - fixed 1 u * one).natAbs + 20 * 2 ^ 1028 ≤ one
  | _ => False

instance (x : Binary64) : Decidable (Confirmable x) := by
  unfold Confirmable; split <;> infer_instance

instance (x : Binary64) : Decidable (ClearOfMiddles x) := by
  unfold ClearOfMiddles; split <;> infer_instance

/-! ## Fixed counts -/

/-- All that has to be computed with counts of a thousand bits. -/
theorem fixed_counts :
    (Representable (50 * one) ∧ Representable (200 * one)) ∧
    (lowest.position = some (-((50 * one : Nat) : Int)) ∧
      highest.position = some ((200 * one : Nat) : Int) ∧
      tolerance.position = some ((nearestUnits (5 * one) 100 : Nat) : Int)) ∧
    (0 < one ∧ 200 * one < overflow ∧ spacing (200 * one) = 2 * 2 ^ 1028 ∧
      2 * (100 * 2 ^ 1028) < one ∧ one ≤ 20 * nearestUnits (5 * one) 100) := by
  decide +kernel

/-! ## The range -/

/-- The accepted values by their place. -/
theorem inRange_iff {x : Binary64} : InRange x ↔
    ∃ p, x.position = some p ∧ -((50 * one : Nat) : Int) ≤ p ∧ p ≤ (200 * one : Nat) := by
  have hle : ∀ y z : Binary64, y ≤ z ↔ y.le z = true := fun _ _ => Iff.rfl
  unfold InRange
  obtain ⟨hlowest, hhighest, -⟩ := fixed_counts.2.1
  rw [hle, hle, le, le, compareBy, compareBy, hlowest, hhighest]
  cases x.position with
  | none => simp
  | some p => simp

/-- The greatest magnitude of an accepted value of a sign. -/
def limit (negative : Bool) : Nat := if negative then 50 else 200

theorem representable_limit (s : Bool) : Representable (limit s * one) := by
  unfold limit
  split
  · exact fixed_counts.1.1
  · exact fixed_counts.1.2

theorem inRange_finite_iff {s : Bool} {u : Nat} {h : Representable u} :
    InRange (.finite s u h) ↔ u ≤ limit s * one := by
  rw [inRange_iff]
  simp only [position, Option.some.injEq, exists_eq_left']
  cases s
  · simp only [signed, limit, Bool.false_eq_true, if_false]
    omega
  · simp only [signed, limit, if_true]
    omega

theorem InRange.exists_finite {x : Binary64} (hx : InRange x) :
    ∃ s u h, x = .finite s u h ∧ u ≤ limit s * one := by
  cases x with
  | nan =>
    obtain ⟨p, hp, -⟩ := inRange_iff.mp hx
    cases hp
  | infinite s =>
    obtain ⟨-, hover, -⟩ := fixed_counts.2.2
    obtain ⟨p, hp, hlow, hhigh⟩ := inRange_iff.mp hx
    cases hp
    cases s
    · simp only [signed, Bool.false_eq_true, if_false] at hhigh
      omega
    · simp only [signed, if_true] at hlow
      omega
  | finite s u h => exact ⟨s, u, h, rfl, inRange_finite_iff.mp hx⟩

theorem InRange.isFinite {x : Binary64} (hx : InRange x) : x.isFinite = true := by
  obtain ⟨s, u, h, rfl, -⟩ := hx.exists_finite
  rfl

/-! ## The written tenths -/

section

variable {s : Bool} {u : Nat}

theorem fixed_eq (places units : Nat) :
    fixed places units = roundHalfEven (units * 10 ^ places) one := rfl

theorem limit_le (s : Bool) : limit s ≤ 200 := by cases s <;> decide

/-- The written tenths stay within the range. -/
theorem fixed_le (hu : u ≤ limit s * one) : fixed 1 u ≤ limit s * 10 := by
  rw [fixed_eq]
  refine roundHalfEven_le Binary64.one_pos ?_
  rw [Nat.pow_one, Nat.mul_right_comm]
  exact Nat.mul_le_mul_right 10 hu

theorem fixed_mul_one_le (hu : u ≤ limit s * one) : fixed 1 u * one ≤ limit s * one * 10 :=
  (Nat.mul_le_mul_right _ (fixed_le hu)).trans_eq (Nat.mul_right_comm _ _ _)

theorem written_eq (h : Representable u) (hu : u ≤ limit s * one) :
    written (.finite s u h) = .finite s (nearestUnits (fixed 1 u * one) 10)
      (representable_nearestUnits (by decide) (representable_limit s) (fixed_mul_one_le hu)) :=
  ofRatio_eq_finite s (by decide) (representable_limit s) (fixed_mul_one_le hu)

/-- An accepted value is accepted as it is written, too. -/
theorem InRange.written {x : Binary64} (hx : InRange x) : InRange (written x) := by
  obtain ⟨s, u, h, rfl, hu⟩ := hx.exists_finite
  rw [written_eq h hu, inRange_finite_iff]
  exact nearestUnits_le (by decide) (representable_limit s).dvd (fixed_mul_one_le hu)

/-- The written tenths as a number lie close to the tenths. -/
theorem written_error (hu : u ≤ limit s * one) :
    fixed 1 u * one ≤ nearestUnits (fixed 1 u * one) 10 * 10 + 10 * 2 ^ 1028 ∧
      nearestUnits (fixed 1 u * one) 10 * 10 ≤ fixed 1 u * one + 10 * 2 ^ 1028 := by
  have hq : fixed 1 u * one / 10 ≤ 200 * one := by
    have := fixed_mul_one_le hu
    have := Nat.mul_le_mul_right one (limit_le s)
    omega
  have hgap : spacing (fixed 1 u * one / 10) ≤ 2 * 2 ^ 1028 := by
    obtain ⟨-, -, hlimit, -⟩ := fixed_counts.2.2
    rw [← hlimit]
    exact Nat.le_of_dvd (spacing_pos _) (spacing_dvd_spacing hq)
  obtain ⟨hle, hge⟩ := nearestUnits_error (fixed 1 u * one) (show 0 < 10 by decide)
  omega

/-- The device shows the written tenths with a zero behind. -/
theorem fixed_written (hu : u ≤ limit s * one) :
    fixed 2 (nearestUnits (fixed 1 u * one) 10) = fixed 1 u * 10 := by
  obtain ⟨hle, hge⟩ := written_error hu
  obtain ⟨-, -, -, hsmall, -⟩ := fixed_counts.2.2
  rw [fixed_eq]
  refine roundHalfEven_eq ?_ ?_
  · rw [Nat.mul_right_comm]
    omega
  · rw [Nat.mul_right_comm]
    omega

end

/-- **What the device shows of a written setpoint** reads as the written tenths. -/
theorem parse?_shown {x : Binary64} (hx : InRange x) :
    parse? ((written x).toFixed 2) = some (written x) := by
  obtain ⟨s, u, h, rfl, hu⟩ := hx.exists_finite
  have hcount : fixed 1 u * 10 < 10 ^ 400 := by
    have := fixed_le hu
    have := limit_le s
    omega
  rw [written_eq h hu, toFixed, fixed_written hu, parse?_fixedText s (by decide) (by decide) hcount,
    ← written_eq h hu]
  exact congrArg some (ofRatio_mul_right s (fixed 1 u) 10 (k := 10) (by decide))

/-- What goes over the wire reads as the written tenths. -/
theorem parse?_sent {x : Binary64} (hx : InRange x) :
    parse? (x.toFixed 1) = some (written x) := by
  obtain ⟨s, u, h, rfl, hu⟩ := hx.exists_finite
  have hcount : fixed 1 u < 10 ^ 400 := by
    have := fixed_le hu
    have := limit_le s
    omega
  exact parse?_fixedText s (by decide) (by decide) hcount

/-! ## The comparison -/

/-- Two numbers of one sign are compared by the rounded difference of their magnitudes. -/
theorem near_finite_iff {s : Bool} {w u : Nat} {hw : Representable w} {hu : Representable u} :
    Near (.finite s w hw) (.finite s u hu) ↔
      nearestUnits ((w : Int) - u).natAbs 1 ≤ nearestUnits (5 * one) 100 := by
  have hrep : Representable (nearestUnits ((w : Int) - u).natAbs 1) := by
    rcases Nat.le_total w u with h | h
    · exact representable_nearestUnits Nat.one_pos hu (by omega)
    · exact representable_nearestUnits Nat.one_pos hw (by omega)
  have hzero : nearestUnits 0 1 = 0 := nearestUnits_zero 1
  have hdiff : signed s w + signed (!s) u = if s then -((w : Int) - u) else (w : Int) - u := by
    cases s
    · simp only [signed, Bool.not_false, Bool.false_eq_true, if_true, if_false]
      omega
    · simp only [signed, Bool.not_true, Bool.false_eq_true, if_true, if_false]
      omega
  have habs : (signed s w + signed (!s) u).natAbs = ((w : Int) - u).natAbs := by
    rw [hdiff]
    split
    · exact Int.natAbs_neg _
    · rfl
  have hplace : ((Binary64.finite s w hw - .finite s u hu).abs).position =
      some (nearestUnits ((w : Int) - u).natAbs 1 : Nat) := by
    show ((ofSigned (s && !s) (signed s w + signed (!s) u)).abs).position = _
    unfold ofSigned
    split
    · rename_i h0
      rw [h0, Int.natAbs_zero] at habs
      rw [← habs, hzero, ofUnits_of_representable _ representable_zero]
      rfl
    · rw [habs, ofUnits_of_representable _ hrep]
      rfl
  unfold Near
  show Binary64.le _ _ = true ↔ _
  rw [le, compareBy, hplace, fixed_counts.2.1.2.2]
  simp

/-- A number lies within the tolerance of itself. -/
theorem near_self {x : Binary64} (hx : x.isFinite = true) : Near x x := by
  cases x with
  | nan => cases hx
  | infinite => cases hx
  | finite s u h =>
    rw [near_finite_iff, Int.sub_self, Int.natAbs_zero, nearestUnits_zero]
    exact Nat.zero_le _

/-- The written tenths are the nearest ones. -/
theorem fixed_error (u : Nat) :
    2 * (10 * (u : Int) - fixed 1 u * one).natAbs ≤ one := by
  obtain ⟨hle, hge⟩ := roundHalfEven_error (u * 10 ^ 1) Binary64.one_pos
  rw [Nat.pow_one] at hle hge
  rw [fixed_eq, Nat.pow_one]
  have hcast : ((roundHalfEven (u * 10) one : Int) * one) =
      ((roundHalfEven (u * 10) one * one : Nat) : Int) := by simp
  rw [hcast]
  omega

section

variable {s : Bool} {u : Nat}

/-- The difference of the written tenths and the value is a number. -/
theorem representable_difference (h : Representable u) (hu : u ≤ limit s * one) :
    Representable ((nearestUnits (fixed 1 u * one) 10 : Int) - u).natAbs := by
  have hw := representable_nearestUnits (by decide) (representable_limit s) (fixed_mul_one_le hu)
  have herror := fixed_error u
  obtain ⟨hlow, hhigh⟩ := written_error hu
  obtain ⟨-, -, -, hsmall, -⟩ := fixed_counts.2.2
  have hcast : ((fixed 1 u : Int) * one) = ((fixed 1 u * one : Nat) : Int) := by simp
  rw [hcast] at herror
  rcases Nat.eq_zero_or_pos (fixed 1 u) with hk | hk
  · have hzero : nearestUnits (fixed 1 u * one) 10 = 0 := by
      rw [hk, Nat.zero_mul]
      exact nearestUnits_zero 10
    rw [hzero]
    simpa using h
  · have hone : one ≤ fixed 1 u * one := Nat.le_mul_of_pos_left _ hk
    -- No value that rounds to some tenths lies below half of them, and the middle itself is none.
    have hdouble : nearestUnits (fixed 1 u * one) 10 ≤ 2 * u := by
      exact nearestUnits_le (by decide) h.dvd_double (by omega)
    have hhalf : u ≤ 2 * nearestUnits (fixed 1 u * one) 10 := by omega
    rcases Nat.le_total u (nearestUnits (fixed 1 u * one) 10) with hle | hle
    · have he : ((nearestUnits (fixed 1 u * one) 10 : Int) - u).natAbs =
          nearestUnits (fixed 1 u * one) 10 - u := by omega
      rw [he]
      exact representable_sub hw h hle (by omega)
    · have he : ((nearestUnits (fixed 1 u * one) 10 : Int) - u).natAbs =
          u - nearestUnits (fixed 1 u * one) 10 := by omega
      rw [he]
      exact representable_sub h hw hle (by omega)

end

/-- **A reading is compared without rounding**: the written tenths confirm an accepted value exactly
if they lie within the tolerance of it. -/
theorem near_written_iff {x : Binary64} (hx : InRange x) : Near (written x) x ↔ Confirmable x := by
  obtain ⟨s, u, h, rfl, hu⟩ := hx.exists_finite
  rw [written_eq h hu, near_finite_iff, nearestUnits_one (representable_difference h hu)]
  rfl

/-- **Away from the middles** between two tenths every accepted value is confirmed. -/
theorem confirmable_of_clear {x : Binary64} (hx : InRange x) (hc : ClearOfMiddles x) :
    Confirmable x := by
  obtain ⟨s, u, h, rfl, hu⟩ := hx.exists_finite
  obtain ⟨hlow, hhigh⟩ := written_error hu
  have hclear : 2 * (10 * (u : Int) - (fixed 1 u * one : Nat)).natAbs + 20 * 2 ^ 1028 ≤ one := by
    rw [Int.natCast_mul]
    exact hc
  obtain ⟨-, -, -, -, htol⟩ := fixed_counts.2.2
  unfold Confirmable
  omega

end Setpoint

end ChillerGateway
