import ChillerGateway.Proofs.Device.Readings

/-!
# Setting a setpoint on a faithful device

A bath that answers at once keeps every accepted setpoint as its tenths and shows them when it is
asked.  Whether the driver takes that for a confirmation is decided by the value alone.

* `verifyFrom_confirmed`, `verifyFrom_refused` — the readings after a write.
* `setSetpoint_iff_confirmable` — which values are set, and what is read afterwards.
* `setSetpoint_middle_refused` — a value that is accepted and not set.
-/

namespace ChillerGateway

open Binary64

namespace LinkDevice

variable {l : LinkDevice} {now timeout : Nat} {b : Bath} {x : Binary64}

/-- A reading shows the tenths that were written. -/
theorem read_setpoint (h : Paced l now b) (hx : Setpoint.InRange x)
    (hb : b.setpoint = Setpoint.written x) (ht : 0 < timeout) :
    ∃ time l', now ≤ time ∧
      attempt (Link.queryNumber timeout "in_sp_00") now l =
        (.ok (Setpoint.written x), time, l') ∧ Serving l' time b := by
  have hshown := Setpoint.parse?_shown hx
  rw [← hb] at hshown ⊢
  exact h.reads_setpoint hshown ht

theorem observe_setpoint (h : Paced l now b) (hx : Setpoint.InRange x)
    (hb : b.setpoint = Setpoint.written x) (ht : 0 < timeout) :
    ∃ time l', now ≤ time ∧
      attempt (Link.observe timeout (.setpoint x)) now l =
        (.ok (decide (Setpoint.Near (Setpoint.written x) x),
          Link.temperatureText (Setpoint.written x)), time, l') ∧ Serving l' time b := by
  obtain ⟨time, l', hle, hread, hserving⟩ := read_setpoint h hx hb ht
  refine ⟨time, l', hle, ?_, hserving⟩
  unfold Link.observe
  rw [attempt_bind_ok hread]
  rfl

/-- Tenths within the tolerance confirm the write at the first reading. -/
theorem verifyFrom_confirmed (h : Paced l now b) (hx : Setpoint.InRange x)
    (hb : b.setpoint = Setpoint.written x) (ht : 0 < timeout)
    (hn : Setpoint.Near (Setpoint.written x) x) (attempts : Nat) (last : Option String) :
    ∃ time l', now ≤ time ∧
      attempt (Link.verifyFrom timeout (.setpoint x) (attempts + 1) last) now l =
        (.ok (), time, l') ∧ Serving l' time b := by
  obtain ⟨time, l', hle, hobserve, hserving⟩ := observe_setpoint h hx hb ht
  rw [decide_eq_true hn] at hobserve
  exact ⟨time, l', hle, verifyFrom_seen hobserve attempts last, hserving⟩

/-- Tenths beyond the tolerance are read again until no attempt is left. -/
theorem verifyFrom_refused (h : Paced l now b) (hx : Setpoint.InRange x)
    (hb : b.setpoint = Setpoint.written x) (ht : 0 < timeout)
    (hn : ¬ Setpoint.Near (Setpoint.written x) x) (attempts : Nat) (last : Option String) :
    ∃ time l', now ≤ time ∧
      attempt (Link.verifyFrom timeout (.setpoint x) (attempts + 1) last) now l =
        (.error (Link.unconfirmed (.setpoint x)
          (some (Link.temperatureText (Setpoint.written x)))), time, l') ∧ Serving l' time b := by
  induction attempts generalizing l now last with
  | zero =>
    obtain ⟨time, l', hle, hobserve, hserving⟩ := observe_setpoint h hx hb ht
    refine ⟨time, l', hle, ?_, hserving⟩
    rw [Link.verifyFrom, attempt_bind_ok (attempt_outcome_eq hobserve)]
    simp only [hn, decide_false, Link.verifyFrom.again, Link.verifyFrom, ne_eq, not_true_eq_false,
      if_false]
    rfl
  | succ attempts ih =>
    obtain ⟨time, l', hle, hobserve, hserving⟩ := observe_setpoint h hx hb ht
    have hlt : time < time + Link.verifyDelay := Nat.lt_add_of_pos_right (by decide)
    have hpause : attempt Link.pause time l' = (.ok (), time + Link.verifyDelay, l') := by
      unfold Link.pause
      rw [attempt_bind, attempt_step]
      simp only [exchange]
      rw [attempt_step]
      simp only [exchange, if_pos hlt, hserving.advance]
    obtain ⟨time', l'', hle', hrest, hserving'⟩ := ih (hserving.mono hlt.le).paced
      (some (Link.temperatureText (Setpoint.written x)))
    refine ⟨time', l'', hle.trans (hlt.le.trans hle'), ?_, hserving'⟩
    rw [Link.verifyFrom, attempt_bind_ok (attempt_outcome_eq hobserve)]
    simp only [hn, decide_false, Link.verifyFrom.again]
    rw [if_pos (Nat.succ_ne_zero _), attempt_bind_ok hpause]
    exact hrest

/-- A write is one short line. -/
theorem fits_write (hx : Setpoint.InRange x) :
    LineCodec.Fits ("out_sp_00 " ++ x.toFixed 1) where
  isLine := by
    intro c hc
    rw [String.toList_append, List.mem_append] at hc
    rcases hc with hc | hc
    · have hword : LineCodec.IsLine "out_sp_00 " := by decide +kernel
      exact hword c hc
    · exact LineCodec.isLine_of_numeral (isNumeral_sent hx) c hc
  length_le := by
    obtain ⟨s, u, hu, rfl, -⟩ := hx.exists_finite
    have htext := length_toFixed Nat.one_pos s hu
    have hword : "out_sp_00 ".toList.length = 10 := by decide
    rw [String.toList_append, List.length_append, hword]
    omega
  trim_eq := Bath.trim_write hx

/-- The write itself: the bath keeps the tenths and changes nothing else that lasts. -/
theorem write_setpoint (h : Serving l now b) (hx : Setpoint.InRange x) :
    ∃ sent l', attempt (Link.write ("out_sp_00 " ++ x.toFixed 1)) now l = (.ok (), sent, l') ∧
      Paced l' sent { b.update sent with setpoint := Setpoint.written x } := by
  have hfits := fits_write hx
  obtain ⟨l', hwrite, hsent, hlast⟩ := h.paced.write hfits.isLine hfits.length_le
  rw [hfits.trim_eq] at hsent
  exact ⟨_, l', hwrite, hsent.paced (Bath.respond_write b _ hx) hlast⟩

/-- An accepted value is not held up. -/
theorem attempt_validate (hx : Setpoint.InRange x) (now : Nat) (l : LinkDevice) :
    attempt (ExceptT.mk (pure (Setpoint.validate x))) now l = (.ok (), now, l) := by
  rw [attempt_mk, Setpoint.validate_accepted hx]

/-- A value out of range is refused before anything else. -/
theorem attempt_refused (hx : ¬ Setpoint.InRange x) (now : Nat) (l : LinkDevice) :
    attempt (Link.perform timeout (.setSetpoint x)) now l =
      (.error (Setpoint.outOfRange x), now, l) := by
  refine attempt_bind_error ?_
  rw [attempt_mk, Setpoint.validate_refused hx]

/-- **What setting an accepted value comes to**: the bath shows its tenths from then on, and the
driver is content exactly if they lie near the value. -/
theorem setSetpoint_kept (h : Serving l now b) (hx : Setpoint.InRange x) (ht : 0 < timeout) :
    ∃ time l' sent, attempt (Link.perform timeout (.setSetpoint x)) now l =
        (if Setpoint.Near (Setpoint.written x) x then .ok ()
          else .error (Link.unconfirmed (.setpoint x)
            (some (Link.temperatureText (Setpoint.written x)))), time, l') ∧
      Serving l' time { b.update sent with setpoint := Setpoint.written x } := by
  obtain ⟨sent, l₁, hwrite, hpaced⟩ := write_setpoint h hx
  have hvalid := attempt_validate hx now l
  by_cases hn : Setpoint.Near (Setpoint.written x) x
  · obtain ⟨time, l', -, hverify, hserving⟩ := verifyFrom_confirmed hpaced hx rfl ht hn 2 none
    refine ⟨time, l', sent, ?_, hserving⟩
    rw [if_pos hn]
    unfold Link.perform Link.setSetpoint
    rw [attempt_bind_ok hvalid, attempt_bind_ok hwrite]
    exact hverify
  · obtain ⟨time, l', -, hverify, hserving⟩ := verifyFrom_refused hpaced hx rfl ht hn 2 none
    refine ⟨time, l', sent, ?_, hserving⟩
    rw [if_neg hn]
    unfold Link.perform Link.setSetpoint
    rw [attempt_bind_ok hvalid, attempt_bind_ok hwrite]
    exact hverify

/-- The same of the setpoint alone. -/
theorem setSetpoint_result (h : Serving l now b) (hx : Setpoint.InRange x) (ht : 0 < timeout) :
    ∃ time l' b', attempt (Link.perform timeout (.setSetpoint x)) now l =
        (if Setpoint.Near (Setpoint.written x) x then .ok ()
          else .error (Link.unconfirmed (.setpoint x)
            (some (Link.temperatureText (Setpoint.written x)))), time, l') ∧
      b'.setpoint = Setpoint.written x ∧ Serving l' time b' := by
  obtain ⟨time, l', sent, hset, hserving⟩ := setSetpoint_kept h hx ht
  exact ⟨time, l', _, hset, rfl, hserving⟩

/-- Setting a value succeeds, and any later reading lies within the tolerance of it. -/
def Settable (l : LinkDevice) (timeout now : Nat) (x : Binary64) : Prop :=
  ∃ time l', attempt (Link.perform timeout (.setSetpoint x)) now l = (.ok (), time, l') ∧
    ∀ later, time ≤ later → ∃ y,
      (attempt (Link.perform timeout .setpoint) later l').1 = .ok y ∧ Setpoint.Near y x

/-- **The values that can be set** on a bath that answers at once are those whose tenths, as a
number, lie within the tolerance of them; at a distance of `2⁻⁴⁶` from the middles between two
tenths all do. -/
theorem setSetpoint_iff_confirmable (h : Serving l now b) (ht : 0 < timeout)
    (hx : Setpoint.InRange x) :
    (Settable l timeout now x ↔ Setpoint.Confirmable x) ∧
      (Setpoint.ClearOfMiddles x → Settable l timeout now x) := by
  obtain ⟨time, l', b', hset, hb, hserving⟩ := setSetpoint_result h hx ht
  have hiff : Settable l timeout now x ↔ Setpoint.Confirmable x := by
    rw [← Setpoint.near_written_iff hx]
    constructor
    · rintro ⟨time', l₁, hok, -⟩
      rw [hset] at hok
      by_contra hn
      rw [if_neg hn] at hok
      cases hok
    · intro hn
      rw [if_pos hn] at hset
      refine ⟨time, l', hset, ?_⟩
      intro later hlater
      obtain ⟨_, _, -, hread, -⟩ := read_setpoint (hserving.mono hlater).paced hx hb ht
      exact ⟨Setpoint.written x, congrArg Prod.fst hread, hn⟩
  exact ⟨hiff, fun hc => hiff.mpr (Setpoint.confirmable_of_clear hx hc)⟩

/-- A new link to a new bath. -/
def toNewBath : LinkDevice := { timeout := 500, farEnd := { responder := .bath {} } }

theorem serving_toNewBath : Serving (toNewBath.openStream 0).2 0 {} :=
  (serving_openStream rfl rfl (fun s hs => by cases hs) 0).2

/-- A value well between two middles is set. -/
theorem setSetpoint_clear : Settable (toNewBath.openStream 0).2 500 0 35.54 :=
  (setSetpoint_iff_confirmable serving_toNewBath (by decide) (by decide +kernel)).2
    (by decide +kernel)

/-- **Not every accepted value can be set**: `25.05` goes out as `25.1`, and the nearest number to
that lies just beyond the tolerance. -/
theorem setSetpoint_middle_refused :
    ¬ ∀ (l : LinkDevice) (now timeout : Nat) (b : Bath) (x : Binary64), Serving l now b →
      0 < timeout → Setpoint.InRange x → Settable l timeout now x := by
  intro hall
  have hrange : Setpoint.InRange 25.05 := by decide +kernel
  have hfar : ¬ Setpoint.Near (Setpoint.written 25.05) 25.05 := by decide +kernel
  obtain ⟨_, _, hok, -⟩ := hall _ 0 500 _ 25.05 serving_toNewBath (by decide) hrange
  obtain ⟨_, _, _, hset, -⟩ := setSetpoint_result serving_toNewBath hrange
    (show 0 < 500 by decide)
  rw [if_neg hfar, hok] at hset
  cases hset

end LinkDevice

end ChillerGateway
