import ChillerGateway.Proofs.Device.Connection
import Mathlib.Algebra.GroupWithZero.Nat
import Mathlib.Algebra.Order.BigOperators.Group.List
import Mathlib.Algebra.Order.Group.Nat
import Mathlib.Data.List.Nodup

/-!
# The far end's next act

* `FarEnd.next?_eq_some`, `FarEnd.next?_le` — it is an act of one of the connections, and none comes
  before it.
* `FarEnd.work_actAt_lt` — every act leaves less to do.
* `FarEnd.InOrder` — what holds of the connections of every far end, and outlasts every act.
* `LinkDevice.acted_elsewhere` — acts on dropped connections do not concern the driver.
-/

namespace ChillerGateway

namespace FarEnd

variable {f : FarEnd} {s : Session} {now due since i : Nat}

/-! ## The earliest act -/

/-- The earlier one of two acts, and the first one if they are due together. -/
def earlier (best : Option (Nat × Nat × Nat)) (act : Nat × Nat × Nat) :
    Option (Nat × Nat × Nat) :=
  match best with
  | none => some act
  | some b => if act.1 < b.1 ∨ (act.1 = b.1 ∧ act.2.1 < b.2.1) then some act else best

/-- The next acts of the connections, with their places. -/
def acts (f : FarEnd) : List (Nat × Nat × Nat) :=
  f.sessions.zipIdx.filterMap fun (s, i) => s.next?.map fun (time, since) => (time, since, i)

theorem next?_eq_foldl (f : FarEnd) : f.next? = f.acts.foldl earlier none := rfl

/-- No later than a time, and settled no later if it is due then. -/
def NotAfter (act : Nat × Nat × Nat) (time since : Nat) : Prop :=
  act.1 < time ∨ act.1 = time ∧ act.2.1 ≤ since

theorem foldl_earlier_mem {acts : List (Nat × Nat × Nat)} {best : Option (Nat × Nat × Nat)}
    {act : Nat × Nat × Nat} (h : acts.foldl earlier best = some act) :
    act ∈ acts ∨ best = some act := by
  induction acts generalizing best with
  | nil => exact .inr h
  | cons first rest ih =>
    rcases ih h with hrest | hbest
    · exact .inl (List.mem_cons_of_mem _ hrest)
    · cases best with
      | none =>
        cases hbest
        exact .inl List.mem_cons_self
      | some b =>
        simp only [earlier] at hbest
        split at hbest
        · cases hbest
          exact .inl List.mem_cons_self
        · exact .inr hbest

/-- Of two acts the earlier one is after neither. -/
theorem earlier_le (best : Option (Nat × Nat × Nat)) (act : Nat × Nat × Nat) :
    ∃ b, earlier best act = some b ∧ NotAfter b act.1 act.2.1 ∧
      ∀ a ∈ best, NotAfter b a.1 a.2.1 := by
  cases best with
  | none => exact ⟨act, rfl, .inr ⟨rfl, Nat.le_refl _⟩, fun a ha => by cases ha⟩
  | some b =>
    simp only [earlier]
    split
    · rename_i hlt
      refine ⟨act, rfl, .inr ⟨rfl, Nat.le_refl _⟩, fun a ha => ?_⟩
      cases ha
      exact hlt.imp_right fun h => ⟨h.1, h.2.le⟩
    · rename_i hlt
      refine ⟨b, rfl, ?_, fun a ha => ?_⟩
      · unfold NotAfter
        omega
      · cases ha
        exact .inr ⟨rfl, Nat.le_refl _⟩

theorem NotAfter.trans {a b : Nat × Nat × Nat} {time since : Nat} (h : NotAfter a b.1 b.2.1)
    (h' : NotAfter b time since) : NotAfter a time since := by
  unfold NotAfter at *
  omega

theorem foldl_earlier_le {acts : List (Nat × Nat × Nat)} {best : Option (Nat × Nat × Nat)}
    {act : Nat × Nat × Nat} (h : act ∈ acts ∨ best = some act) :
    ∃ b, acts.foldl earlier best = some b ∧ NotAfter b act.1 act.2.1 := by
  induction acts generalizing best act with
  | nil =>
    rcases h with hnil | rfl
    · cases hnil
    · exact ⟨act, rfl, .inr ⟨rfl, Nat.le_refl _⟩⟩
  | cons first rest ih =>
    obtain ⟨b, hb, hfirst, hbest⟩ := earlier_le best first
    obtain ⟨last, hlast, hle⟩ := ih (.inr hb)
    rcases h with hmem | rfl
    · rcases List.mem_cons.mp hmem with rfl | hmem
      · exact ⟨last, hlast, hle.trans hfirst⟩
      · exact ih (.inl hmem)
    · exact ⟨last, hlast, hle.trans (hbest act rfl)⟩

theorem mem_acts_iff : (due, since, i) ∈ f.acts ↔
    ∃ s, f.sessions[i]? = some s ∧ s.next? = some (due, since) := by
  unfold acts
  rw [List.mem_filterMap]
  constructor
  · rintro ⟨⟨s, j⟩, hs, hact⟩
    obtain ⟨⟨time, settled⟩, hnext, heq⟩ := Option.map_eq_some_iff.mp hact
    cases heq
    exact ⟨s, List.mem_zipIdx_iff_getElem?.mp hs, hnext⟩
  · rintro ⟨s, hs, hnext⟩
    exact ⟨(s, i), List.mem_zipIdx_iff_getElem?.mpr hs, by simp [hnext]⟩

/-- The next act is one of a connection. -/
theorem next?_eq_some (h : f.next? = some (due, since, i)) :
    ∃ s, f.sessions[i]? = some s ∧ s.next? = some (due, since) := by
  rw [next?_eq_foldl] at h
  exact mem_acts_iff.mp ((foldl_earlier_mem h).resolve_right (Option.some_ne_none _ ·.symm))

/-- **No act comes before the next one.** -/
theorem next?_le (hs : s ∈ f.sessions) (h : s.next? = some (due, since)) :
    ∃ act, f.next? = some act ∧ NotAfter act due since := by
  obtain ⟨i, hi⟩ := List.mem_iff_getElem?.mp hs
  rw [next?_eq_foldl]
  exact foldl_earlier_le (.inl (mem_acts_iff.mpr ⟨s, hi, h⟩))

/-! ## What is left to do -/

theorem work_eq_sum (f : FarEnd) : f.work = (f.sessions.map Session.work).sum := rfl

/-- An act leaves less to do on its connection. -/
theorem work_act_lt (h : s.next? = some (due, since)) :
    (((f.act s).1.toList.map Session.work).sum) < s.work := by
  cases hp : s.pending with
  | some p =>
    rw [act_deliver hp]
    split
    · simp [Session.work, hp]
    · simp [Session.work, hp]
  | none =>
    cases hq : s.queue with
    | nil =>
      simp only [Session.next?, hp, hq] at h
      cases h
    | cons entry queue =>
      rw [act_read hp hq]
      simp only [Option.toList_some, List.map_cons, List.map_nil, List.sum_cons, List.sum_nil,
        Session.work, hp, hq, List.length_cons, Option.isSome_none]
      split
      · simp
        omega
      · simp

/-- **Every act leaves less to do.** -/
theorem work_actAt_lt (hs : f.sessions[i]? = some s) (h : s.next? = some (due, since)) :
    (f.actAt i).2.work < f.work := by
  have hkept : (f.actAt i).2.sessions.Sublist
      (f.sessions.take i ++ (f.act s).1.toList ++ f.sessions.drop (i + 1)) := by
    unfold actAt
    rw [hs]
    simp only
    rw [act_sessions]
    exact List.filter_sublist
  have hless := work_act_lt (f := f) h
  rw [work_eq_sum, work_eq_sum]
  refine lt_of_le_of_lt ((hkept.map Session.work).sum_le_sum fun _ _ => Nat.zero_le _) ?_
  conv => enter [2]; rw [sessions_split hs]
  simp only [List.map_append, List.sum_append, List.map_cons, List.sum_cons]
  omega

/-! ## The connections -/

theorem mem_of_own (h : f.own = [s]) : s ∈ f.sessions ∧ s.attached = true :=
  List.mem_filter.mp (show s ∈ f.own from h ▸ List.mem_singleton_self s)

/-- The next act is one on the driver's connection, or on one that was dropped. -/
theorem own_or_dropped (hown : f.own = [s]) (h : f.next? = some (due, since, i)) :
    (f.sessions[i]? = some s ∧ s.next? = some (due, since)) ∨
      ∃ o, f.sessions[i]? = some o ∧ o.attached = false := by
  obtain ⟨o, hi, hnext⟩ := next?_eq_some h
  cases hd : o.attached with
  | true =>
    have hmem : o ∈ f.own := List.mem_filter.mpr ⟨List.mem_of_getElem? hi, hd⟩
    rw [hown, List.mem_singleton] at hmem
    exact .inl (hmem ▸ ⟨hi, hnext⟩)
  | false => exact .inr ⟨o, hi, hd⟩

/-- The connections of a far end at a time: each has a number of its own, the far end was free
for them by then, and no answer is due before it was given. -/
structure InOrder (f : FarEnd) (now : Nat) : Prop where
  numbers : (f.sessions.map Session.connection).Nodup
  opened : ∀ s ∈ f.sessions, s.connection < f.opened
  free : ∀ s ∈ f.sessions, s.free ≤ now
  since : ∀ s ∈ f.sessions, ∀ p ∈ s.pending, p.since ≤ p.due

/-- What an act up to a time leaves of its connection. -/
theorem act_free (hn : s.next? = some (due, since))
    (hd : due ≤ now) {s' : Session} (hact : (f.act s).1 = some s') :
    s'.free ≤ now ∧ ∀ p ∈ s'.pending, p.since ≤ p.due := by
  cases hp : s.pending with
  | some p =>
    have hdue : p.due = due := by
      simp only [Session.next?, hp, Option.some.injEq, Prod.mk.injEq] at hn
      exact hn.1
    rw [act_deliver hp] at hact
    simp only at hact
    split at hact
    · cases hact
    · cases hact
      exact ⟨hdue ▸ hd, fun p hp => by cases hp⟩
  | none =>
    cases hq : s.queue with
    | nil =>
      simp only [Session.next?, hp, hq] at hn
      cases hn
    | cons entry queue =>
      obtain ⟨arrived, line⟩ := entry
      have hdue : max arrived s.free = due := by
        simp only [Session.next?, hp, hq, Option.some.injEq, Prod.mk.injEq] at hn
        exact hn.1
      rw [act_read hp hq] at hact
      cases hact
      refine ⟨hdue ▸ hd, fun p hp => ?_⟩
      obtain ⟨a, -, rfl⟩ := Option.map_eq_some_iff.mp hp
      exact Nat.le_add_right _ _

namespace InOrder

theorem mono (h : f.InOrder now) {later : Nat} (hl : now ≤ later) : f.InOrder later :=
  ⟨h.numbers, h.opened, fun s hs => (h.free s hs).trans hl, h.since⟩

theorem of_sublist (h : f.InOrder now) {f' : FarEnd} (hf : f'.sessions.Sublist f.sessions)
    (ho : f'.opened = f.opened) : f'.InOrder now where
  numbers := h.numbers.sublist (hf.map _)
  opened := fun s hs => ho ▸ h.opened s (hf.subset hs)
  free := fun s hs => h.free s (hf.subset hs)
  since := fun s hs => h.since s (hf.subset hs)

/-- Connections that keep what matters. -/
theorem of_map (h : f.InOrder now) {f' : FarEnd} {g : Session → Session}
    (hf : f'.sessions = f.sessions.map g) (ho : f'.opened = f.opened)
    (hg : ∀ s, (g s).connection = s.connection ∧ (g s).free = s.free ∧
      (g s).pending = s.pending) : f'.InOrder now where
  numbers := by
    have hsame : (f.sessions.map g).map Session.connection =
        f.sessions.map Session.connection := by
      rw [List.map_map]
      exact List.map_congr_left fun s _ => (hg s).1
    rw [hf, hsame]
    exact h.numbers
  opened := by
    rw [hf, ho, List.forall_mem_map]
    exact fun s hs => (hg s).1 ▸ h.opened s hs
  free := by
    rw [hf, List.forall_mem_map]
    exact fun s hs => (hg s).2.1 ▸ h.free s hs
  since := by
    rw [hf, List.forall_mem_map]
    exact fun s hs => (hg s).2.2 ▸ h.since s hs

theorem connect (h : f.InOrder now) : (f.connect now).InOrder now where
  numbers := by
    unfold FarEnd.connect
    rw [List.map_append, List.nodup_append]
    refine ⟨h.numbers, List.nodup_singleton _, ?_⟩
    intro a ha b hb
    obtain ⟨s, hs, rfl⟩ := List.mem_map.mp ha
    rw [List.mem_singleton.mp hb]
    exact (h.opened s hs).ne
  opened := by
    unfold FarEnd.connect
    rw [List.forall_mem_append]
    exact ⟨fun s hs => (h.opened s hs).trans (Nat.lt_succ_self _), by simp⟩
  free := by
    unfold FarEnd.connect
    rw [List.forall_mem_append]
    exact ⟨h.free, by simp⟩
  since := by
    unfold FarEnd.connect
    rw [List.forall_mem_append]
    exact ⟨h.since, by simp⟩

/-- **Every act up to a time keeps the connections in order.** -/
theorem actAt (h : f.InOrder now) (hn : f.next? = some (due, since, i)) (hd : due ≤ now) :
    (f.actAt i).2.InOrder now := by
  obtain ⟨s, hs, hnext⟩ := next?_eq_some hn
  have hmem := List.mem_of_getElem? hs
  have hsessions : ∀ o ∈ (f.actAt i).2.sessions, o ∈ f.sessions ∨ (f.act s).1 = some o := by
    intro o ho
    unfold FarEnd.actAt at ho
    rw [hs] at ho
    simp only [act_sessions] at ho
    rcases List.mem_append.mp (List.mem_filter.mp ho).1 with ho | ho
    · rcases List.mem_append.mp ho with ho | ho
      · exact .inl (List.mem_of_mem_take ho)
      · exact .inr (Option.mem_toList.mp ho)
    · exact .inl (List.mem_of_mem_drop ho)
  have hopened : (f.actAt i).2.opened = f.opened := by
    unfold FarEnd.actAt
    rw [hs]
    exact act_opened f s
  refine ⟨?numbers, fun o ho => ?opened, fun o ho => ?free, fun o ho => ?since⟩
  case numbers =>
    refine h.numbers.sublist ?_
    unfold FarEnd.actAt
    rw [hs]
    simp only [act_sessions]
    refine (List.filter_sublist.map _).trans ?_
    conv => enter [2]; rw [sessions_split hs]
    simp only [List.map_append, List.map_cons, List.append_assoc]
    refine List.Sublist.append_left ?_ _
    cases hact : (f.act s).1 with
    | none => exact List.sublist_cons_self _ _
    | some s' =>
      rw [Option.toList_some, List.map_singleton, (act_session hact).1]
      exact List.Sublist.refl _
  case opened =>
    rw [hopened]
    rcases hsessions o ho with hold | hact
    · exact h.opened o hold
    · rw [(act_session hact).1]
      exact h.opened s hmem
  case free =>
    rcases hsessions o ho with hold | hact
    · exact h.free o hold
    · exact (act_free hnext hd hact).1
  case since =>
    rcases hsessions o ho with hold | hact
    · exact h.since o hold
    · exact (act_free hnext hd hact).2

/-- A dropped connection has another number than the driver's. -/
theorem connection_ne (h : f.InOrder now) {o : Session} (hown : f.own = [s])
    (ho : o ∈ f.sessions) (hd : o.attached = false) : o.connection ≠ s.connection := by
  have hs := mem_of_own hown
  intro heq
  obtain rfl := List.inj_on_of_nodup_map h.numbers ho hs.1 heq
  exact Bool.false_ne_true (hd.symm.trans hs.2)

end InOrder

end FarEnd

namespace LinkDevice

variable {l : LinkDevice} {s o : Session} {now i : Nat}

/-- **An act on a dropped connection** concerns neither the driver's connection nor its stream. -/
theorem acted_elsewhere (h : l.farEnd.InOrder now) (hown : l.farEnd.own = [s])
    (hi : l.farEnd.sessions[i]? = some o) (hd : o.attached = false) :
    (l.acted i).farEnd.own = [s] ∧
      (l.acted i).farEnd.told s.connection = l.farEnd.told s.connection ∧
      (l.acted i).stream = l.stream := by
  refine ⟨(FarEnd.own_actAt_dropped hi hd).trans hown, ?_, ?_⟩
  · exact (FarEnd.told_actAt hi _).trans
      (FarEnd.told_act_ne (h.connection_ne hown (List.mem_of_getElem? hi) hd))
  · unfold acted
    simp only [FarEnd.actAt_delivery hi, FarEnd.act_dropped hd, List.append_nil, Bool.or_false]
    exact Option.map_id'

end LinkDevice

end ChillerGateway
