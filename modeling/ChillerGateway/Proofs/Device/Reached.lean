import ChillerGateway.Proofs.Device.Operations
import ChillerGateway.Proofs.Device.Reception

/-!
# The account of a link in use

* `Accounted` — the invariant of a link whose far end answers with lines: the driver has no
  connection, or one whose bytes are accounted for.
* `Reached` — the states of a link in use: any operations with any waits between them, and the
  states inside a verified write.
* `Reached.accounted` — the invariant holds in all of them.
-/

namespace ChillerGateway

namespace LinkDevice

/-- What holds of a link in use whose far end answers with lines. -/
structure Accounted (l : LinkDevice) : Prop where
  orderly : l.farEnd.Orderly
  closed : l.stream = none → l.farEnd.own = []
  own : l.farEnd.own = [] ∨ ∃ s st read, Connection l s st read

/-- An attempt that keeps what holds of a link. -/
def Keeps (P : LinkDevice → Prop) {α : Type} (p : Attempt α) : Prop :=
  ∀ now l, P l → P (attempt p now l).2.2

/-! ## Programs -/

section

variable {P : LinkDevice → Prop} {α β : Type}

theorem keeps_mk (r : Except Error α) : Keeps P (ExceptT.mk (pure r) : Attempt α) := fun _ _ h => h

theorem Keeps.bind {p : Attempt α} {f : α → Attempt β} (hp : Keeps P p)
    (hf : ∀ a, Keeps P (f a)) : Keeps P (p >>= f) := by
  intro now l h
  have hfirst := hp now l h
  rw [attempt_bind]
  generalize attempt p now l = x at hfirst ⊢
  obtain ⟨r, time, l'⟩ := x
  cases r with
  | ok a => exact hf a time l' hfirst
  | error e => exact hfirst

theorem Keeps.outcome {p : Attempt α} (hp : Keeps P p) : Keeps P (Attempt.outcome p) := by
  intro now l h
  rw [attempt_outcome]
  exact hp now l h

end

/-! ## Waiting -/

variable {l : LinkDevice} {now : Nat}

/-- Without a connection of the driver's no act makes one. -/
theorem own_acted (h : l.farEnd.own = []) (i : Nat) : (l.acted i).farEnd.own = [] := by
  cases hs : l.farEnd.sessions[i]? with
  | none =>
    have hfar : (l.acted i).farEnd = l.farEnd := congrArg Prod.snd (FarEnd.actAt_none hs)
    rw [hfar]
    exact h
  | some s =>
    have ha : s.attached = false := by
      cases ha : s.attached with
      | false => rfl
      | true =>
        have hmem : s ∈ l.farEnd.own := List.mem_filter.mpr ⟨List.mem_of_getElem? hs, ha⟩
        rw [h] at hmem
        cases hmem
    exact (FarEnd.own_actAt_dropped hs ha).trans h

theorem Accounted.acted (h : Accounted l) (i : Nat) : Accounted (l.acted i) where
  orderly := h.orderly.actAt i
  closed := by
    intro hc
    exact own_acted (h.closed (Option.map_eq_none_iff.mp hc)) i
  own := by
    rcases h.own with hnone | ⟨s, st, read, hc⟩
    · exact .inl (own_acted hnone i)
    · obtain ⟨s', arrived, hc', -⟩ := hc.acted h.orderly i
      exact .inr ⟨s', _, read, hc'⟩

/-- Waiting keeps the account. -/
theorem Accounted.advance (h : Accounted l) (time settled : Nat) :
    Accounted (l.advance time settled) := by
  unfold LinkDevice.advance
  generalize l.farEnd.work = fuel
  induction fuel generalizing l with
  | zero => exact h
  | succ fuel ih =>
    rw [advanceFrom_succ]
    split
    · exact h
    · split
      · exact ih (h.acted _)
      · exact h

/-- Only the far end and the stream matter. -/
theorem Accounted.of_eq {l' : LinkDevice} (h : Accounted l) (hf : l'.farEnd = l.farEnd)
    (hs : l'.stream = l.stream) : Accounted l' where
  orderly := hf ▸ h.orderly
  closed := fun hc => hf ▸ h.closed (hs ▸ hc)
  own := by
    rw [hf]
    refine h.own.imp_right ?_
    rintro ⟨s, st, read, hc⟩
    refine ⟨s, st, read, ?_, ?_, hs.trans hc.stream, hc.live, hc.whole, ?_⟩
    · rw [hf]
      exact hc.own
    · rw [hf]
      exact hc.others
    · rw [hf]
      exact hc.bytes

theorem Accounted.noted (h : Accounted l) (time : Option Nat) :
    Accounted { l with lastCommand := time } := h.of_eq rfl rfl

theorem Accounted.ready (h : Accounted l) (now : Nat) : Accounted (l.ready now).2 := by
  unfold LinkDevice.ready
  split
  · exact h
  · split
    · exact h.advance _ _
    · exact h

/-! ## Commands -/

/-- The buffer is not part of the account. -/
theorem Accounted.cleared (h : Accounted l) (now : Nat) : Accounted (l.cleared now) where
  orderly := (h.ready now).orderly
  closed := fun hc => (h.ready now).closed (Option.map_eq_none_iff.mp hc)
  own := by
    rcases (h.ready now).own with hnone | ⟨s, st, read, hc⟩
    · exact .inl hnone
    · refine .inr ⟨s, st.clear, read, hc.own, hc.others, ?_, hc.live.clear, hc.whole, hc.bytes⟩
      unfold LinkDevice.cleared
      simp only [hc.stream, Option.map_some]

theorem buffer_cleared {st : Stream} (h : (l.cleared now).stream = some st) : st.buffer = [] := by
  obtain ⟨st', -, rfl⟩ := Option.map_eq_some_iff.mp h
  rfl

end LinkDevice

namespace FarEnd

variable {f : FarEnd}

/-- A line that arrives waits on the driver's connection. -/
theorem own_arrive (f : FarEnd) (now : Nat) (line : String) :
    (f.arrive now line).own =
      f.own.map fun s => { s with queue := s.queue ++ [(now, line)] } := by
  have hheld : (Session.attached ∘ fun s : Session =>
      if s.attached then { s with queue := s.queue ++ [(now, line)] } else s) =
      Session.attached := by
    funext s
    simp only [Function.comp_apply]
    split <;> rfl
  unfold own arrive
  simp only
  rw [List.filter_map, hheld]
  refine List.map_congr_left ?_
  intro s hs
  rw [if_pos (List.mem_filter.mp hs).2]

theorem mem_arrive {o : Session} {now : Nat} {line : String}
    (h : o ∈ (f.arrive now line).sessions) :
    ∃ o' ∈ f.sessions, o.connection = o'.connection ∧ o.attached = o'.attached ∧
      o.pending = o'.pending := by
  obtain ⟨o', ho', rfl⟩ := List.mem_map.mp h
  refine ⟨o', ho', ?_⟩
  split <;> exact ⟨rfl, rfl, rfl⟩

theorem Orderly.arrive (h : f.Orderly) (now : Nat) (line : String) :
    (f.arrive now line).Orderly where
  responder := h.responder
  heard := h.heard
  sessions := by
    intro o ho
    obtain ⟨o', ho', hc, -, hp⟩ := mem_arrive ho
    rw [hc, hp]
    exact h.sessions o' ho'

theorem own_hangUp (f : FarEnd) : f.hangUp.own = [] := by
  unfold own hangUp
  simp only
  rw [List.filter_filter, List.filter_eq_nil_iff]
  intro s _
  cases s.attached <;> decide

theorem Orderly.hangUp (h : f.Orderly) : f.hangUp.Orderly where
  responder := h.responder
  heard := h.heard
  sessions := fun o ho => h.sessions o (List.mem_filter.mp ho).1

theorem own_detach (f : FarEnd) : f.detach.own = [] := by
  unfold own detach
  rw [List.filter_eq_nil_iff]
  intro s hs
  obtain ⟨o, -, rfl⟩ := List.mem_map.mp hs
  exact Bool.false_ne_true

theorem Orderly.detach (h : f.Orderly) : f.detach.Orderly where
  responder := h.responder
  heard := h.heard
  sessions := by
    intro o ho
    obtain ⟨o', ho', rfl⟩ := List.mem_map.mp ho
    exact h.sessions o' ho'

/-- A new connection has a number of its own. -/
theorem Orderly.connect (h : f.Orderly) (now : Nat) : (f.connect now).Orderly where
  responder := h.responder
  heard := fun e he => ⟨(h.heard e he).1.trans (Nat.lt_succ_self _), (h.heard e he).2⟩
  sessions := by
    intro o ho
    rcases List.mem_append.mp ho with ho | ho
    · exact ⟨(h.sessions o ho).1.trans (Nat.lt_succ_self _), (h.sessions o ho).2⟩
    · rw [List.mem_singleton.mp ho]
      exact ⟨Nat.lt_succ_self _, fun p hp => by cases hp⟩

end FarEnd

namespace LinkDevice

variable {l : LinkDevice} {now : Nat}

/-- A line that goes out is the last one sent on the connection. -/
theorem Connection.arrive {s : Session} {st : Stream} {read : LineCodec.Bytes}
    (h : Connection l s st read) (now : Nat) (line : String) :
    Connection { l with farEnd := l.farEnd.arrive now line }
      { s with queue := s.queue ++ [(now, line)] } st read where
  own := by rw [FarEnd.own_arrive, h.own]; rfl
  others := by
    intro o ho ha
    obtain ⟨o', ho', hc, hd, -⟩ := FarEnd.mem_arrive ho
    rw [hc]
    exact h.others o' ho' (hd ▸ ha)
  stream := h.stream
  live := h.live
  whole := h.whole
  bytes := h.bytes

theorem Accounted.hungUp (h : Accounted l) : Accounted l.hungUp where
  orderly := h.orderly.hangUp
  closed := fun _ => FarEnd.own_hangUp _
  own := .inl (FarEnd.own_hangUp _)

theorem Accounted.send (h : Accounted l) (now : Nat) (command : String) :
    Accounted (l.send now command).2 := by
  rcases l.send_cases now command with ⟨e, hs | hs⟩ | ⟨-, hs⟩
  · rw [hs]
    exact h
  · rw [hs]
    exact h.hungUp
  · rw [hs]
    have hnone : l.farEnd.own = [] → (l.farEnd.arrive now (Text.trim command)).own = [] := by
      intro h
      rw [FarEnd.own_arrive, h]
      rfl
    refine ⟨h.orderly.arrive _ _, fun hc => hnone (h.closed hc), ?_⟩
    · rcases h.own with ho | ⟨s, st, read, hc⟩
      · exact .inl (hnone ho)
      · exact .inr ⟨_, st, read, hc.arrive now _⟩

theorem Accounted.openStream (h : Accounted l) (hc : l.stream = none) (now : Nat) :
    Accounted (l.openStream now).2 := by
  unfold LinkDevice.openStream
  split
  · exact h
  · exact h.of_eq rfl rfl
  · have hown : (l.farEnd.connect now).own = [{ connection := l.farEnd.opened, free := now }] := by
      unfold FarEnd.own FarEnd.connect
      rw [List.filter_append]
      exact congrArg (· ++ _) (h.closed hc)
    have htold : l.farEnd.told l.farEnd.opened = [] := by
      unfold FarEnd.told
      rw [List.filter_eq_nil_iff]
      intro e he
      have hlt := (h.orderly.heard e (List.mem_reverse.mp he)).1
      simp only [decide_eq_true_eq]
      omega
    refine ⟨h.orderly.connect now, fun hn => by simp at hn,
      .inr ⟨_, {}, [], hown, ?_, rfl, Stream.live_new, LineCodec.whole_nil, ?_⟩⟩
    · intro o ho ha
      rcases List.mem_append.mp ho with ho | ho
      · exact Nat.ne_of_lt (h.orderly.sessions o ho).1
      · rw [List.mem_singleton.mp ho] at ha
        cases ha
    · show (l.farEnd.told l.farEnd.opened).flatMap Heard.bytes = _
      rw [htold]
      rfl

theorem Accounted.dropStream (h : Accounted l) :
    Accounted { l with stream := none, farEnd := l.farEnd.detach } where
  orderly := h.orderly.detach
  closed := fun _ => FarEnd.own_detach _
  own := .inl (FarEnd.own_detach _)

/-- After a wait the read line and all that was taken with it count as read. -/
theorem Received.accounted {f : FarEnd} {s : Session} {read : LineCodec.Bytes} {r : Reception}
    (h : Received f s read r l) : Accounted l := by
  cases h with
  | timeout h hf hl =>
    refine ⟨hf, ?_, .inr ⟨_, _, _, h⟩⟩
    intro hc
    rw [h.stream] at hc
    cases hc
  | line h hf hl hp hb =>
    rename_i st body rest
    refine ⟨hf, fun hc => (Option.some_ne_none _ hc).elim, .inr ⟨_, _, read ++ st.pipe.take
      Stream.chunk, h.own, h.others, rfl, h.live.afterLine body, h.whole.drop _, ?_⟩⟩
    show (FarEnd.told _ _).flatMap Heard.bytes =
      read ++ st.pipe.take Stream.chunk ++ st.pipe.drop Stream.chunk ++ _
    rw [h.bytes, List.append_assoc read (List.take _ _), List.take_append_drop]

/-- **What a query comes to**: it fails before anything was awaited, or its line is sent on the
driver's connection and the wait for its answer begins. -/
theorem Accounted.query (h : Accounted l) (now timeout : Nat) (command : String) :
    (∃ e time l', attempt (Link.query timeout command) now l = (.error e, time, l') ∧
      Accounted l') ∨
    ∃ s st read r time l', Connection (l.cleared now) s st read ∧
      attempt (Link.query timeout command) now l = (Link.answerOf r, time, l') ∧
      Received ((l.cleared now).farEnd.arrive (l.ready now).1 (Text.trim command))
        { s with queue := s.queue ++ [((l.ready now).1, Text.trim command)] } read r l' := by
  have hcleared := h.cleared now
  cases ho : (l.ready now).2.stream with
  | none =>
    exact .inl ⟨_, _, _, attempt_query_closed ho timeout command, (h.ready now).noted _⟩
  | some opened =>
    have ho : (l.ready now).2.stream.isSome = true := by rw [ho]; rfl
    rcases (l.cleared now).send_cases (l.ready now).1 command with ⟨e, hs | hs⟩ | ⟨ha, hs⟩
    · exact .inl ⟨e, _, _, attempt_query_unsent ho hs timeout, hcleared⟩
    · exact .inl ⟨e, _, _, attempt_query_unsent ho hs timeout, hcleared.hungUp⟩
    · rcases hcleared.own with hnone | ⟨s, st, read, hc⟩
      · -- A line arrives on a held connection only.
        obtain ⟨s, hs, hheld⟩ := List.any_eq_true.mp ha
        have hmem : s ∈ (l.cleared now).farEnd.own := List.mem_filter.mpr ⟨hs, hheld⟩
        rw [hnone] at hmem
        cases hmem
      · refine .inr ⟨s, st, read, _, _, _, hc, attempt_query ho hs timeout, ?_⟩
        exact (hc.arrive _ _).receiveFrom (hcleared.orderly.arrive _ _)
          (buffer_cleared hc.stream) _ _ _ _

/-! ## Operations -/

theorem keeps_write (command : String) : Keeps Accounted (Link.write command) := by
  intro now l h
  cases ho : (l.ready now).2.stream with
  | none =>
    rw [attempt_write_closed ho]
    exact (h.ready now).noted _
  | some st =>
    rw [attempt_write (by rw [ho]; rfl)]
    exact (h.cleared now).send _ _

theorem keeps_query (timeout : Nat) (command : String) :
    Keeps Accounted (Link.query timeout command) := by
  intro now l h
  rcases h.query now timeout command with ⟨e, time, l', hq, h'⟩ | ⟨_, _, _, _, _, _, -, hq, hr⟩
  · rw [hq]
    exact h'
  · rw [hq]
    exact hr.accounted

theorem keeps_pause : Keeps Accounted Link.pause := by
  intro now l h
  unfold Link.pause
  rw [attempt_bind, attempt_step]
  simp only [exchange]
  rw [attempt_step]
  simp only [exchange]
  split
  · exact h.advance _ _
  · exact h

theorem keeps_connect : Keeps Accounted Link.connect := by
  intro now l h
  by_cases hs : l.stream = none
  · rw [attempt_connect_closed hs]
    have hopen := h.openStream hs now
    generalize l.openStream now = x at hopen ⊢
    obtain ⟨r, l'⟩ := x
    cases r with
    | ok _ => exact hopen.noted none
    | error _ => exact hopen
  · rw [attempt_connect_open (Option.isSome_iff_ne_none.mpr hs)]
    exact h

/-- The parts of every operation keep the account. -/
theorem kept_accounted : Link.Kept (Keeps Accounted) where
  result := keeps_mk
  bind := Keeps.bind
  outcome := Keeps.outcome
  write := keeps_write
  query := keeps_query
  pause := keeps_pause

/-- Every operation keeps the account. -/
theorem keeps_perform (timeout : Nat) (op : Operation) :
    Keeps Accounted (Link.perform timeout op) :=
  kept_accounted.perform timeout (fun _ => keeps_connect) fun _ _ _ h => h.dropStream

/-! ## Links in use -/

/-- A link in use at a time: operations with waits between them, from a link that was never
opened. -/
inductive Reached : Nat → LinkDevice → Prop where
  | fresh {l : LinkDevice} (now : Nat) (hs : l.stream = none) (hf : l.farEnd.sessions = [])
      (hh : l.farEnd.heard = []) (hr : l.farEnd.responder.Orderly) : Reached now l
  | wait {l : LinkDevice} {now later : Nat} (h : Reached now l) (hl : now ≤ later)
      (settled : Nat) : Reached later (l.advance later settled)
  | perform {l : LinkDevice} {now : Nat} (h : Reached now l) (timeout : Nat) (op : Operation) :
      Reached (attempt (Link.perform timeout op) now l).2.1
        (attempt (Link.perform timeout op) now l).2.2
  /-- In a verified write, before the first reading. -/
  | write {l : LinkDevice} {now : Nat} (h : Reached now l) (command : String) :
      Reached (attempt (Link.write command) now l).2.1 (attempt (Link.write command) now l).2.2

/-- **A link in use is accounted for.** -/
theorem Reached.accounted (h : Reached now l) : Accounted l := by
  induction h with
  | fresh now hs hf hh hr =>
    refine ⟨⟨hr, ?_, ?_⟩, ?_, .inl ?_⟩
    · rw [hh]
      exact fun e he => by cases he
    · rw [hf]
      exact fun s hs => by cases hs
    · intro _
      unfold FarEnd.own
      rw [hf]
      rfl
    · unfold FarEnd.own
      rw [hf]
      rfl
  | wait h hl settled ih => exact ih.advance _ _
  | perform h timeout op ih => exact keeps_perform timeout op _ _ ih
  | write h command ih => exact keeps_write command _ _ ih

end LinkDevice

end ChillerGateway
