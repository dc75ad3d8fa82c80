import ChillerGateway.Proofs.Device.FarEnd
import ChillerGateway.Proofs.Device.Stream

/-!
# The bytes of a connection

All that the far end answered on the driver's connection was read by the driver, waits in the pipe,
or is under way, in this order.  Acts of the far end move bytes along and add answers at the end;
those on dropped connections do not touch them.

* `FarEnd.own_actAt` — the driver's connection after an act.
* `LinkDevice.Connection` — the invariant, with the bytes that were read.
* `Connection.acted` — an act keeps it, and the bytes that were read stay the same.
* `Connection.receiveFrom` — a wait ends with nothing, or with the next line of the pipe.
-/

namespace ChillerGateway

/-- No line is cut off at the end. -/
def LineCodec.Whole (bytes : LineCodec.Bytes) : Prop :=
  ∀ b ∈ bytes.getLast?, b = LineCodec.lineFeed

namespace LineCodec

variable {bytes more : Bytes}

theorem whole_nil : Whole [] := fun b hb => by cases hb

theorem Whole.append (h : Whole bytes) (hm : Whole more) : Whole (bytes ++ more) := by
  cases hl : more.getLast? with
  | none =>
    rw [List.getLast?_eq_none_iff.mp hl, List.append_nil]
    exact h
  | some b =>
    intro c hc
    rw [List.getLast?_append, hl, Option.some_or] at hc
    exact hm c (hl.trans hc)

theorem Whole.drop (h : Whole bytes) (n : Nat) : Whole (bytes.drop n) := by
  intro b hb
  refine h b ?_
  rw [List.getLast?_drop] at hb
  split at hb
  · cases hb
  · exact hb

/-- Whole bytes begin with a line. -/
theorem Whole.exists_line (h : Whole bytes) (hne : bytes ≠ []) :
    ∃ body rest, bytes = body ++ lineFeed :: rest ∧ lineFeed ∉ body := by
  have hmem : lineFeed ∈ bytes := by
    have hlast := List.getLast?_eq_some_getLast hne
    rw [← h _ hlast]
    exact List.getLast_mem hne
  obtain ⟨body, rest, hb, hbody⟩ := List.eq_append_cons_of_mem hmem
  exact ⟨body, rest, hb, hbody⟩

end LineCodec

theorem FarAnswer.IsLine.whole {a : FarAnswer} (h : a.IsLine) : LineCodec.Whole a.bytes := by
  obtain ⟨-, body, hb, -⟩ := h
  intro b hl
  rw [hb] at hl
  simpa using hl.symm

/-! ## Acts -/

namespace FarEnd

variable {f : FarEnd} {s : Session} {i : Nat}

theorem sessions_split (hs : f.sessions[i]? = some s) :
    f.sessions = f.sessions.take i ++ s :: f.sessions.drop (i + 1) := by
  obtain ⟨hi, he⟩ := List.getElem?_eq_some_iff.mp hs
  rw [← he, List.getElem_cons_drop, List.take_append_drop]

/-- The driver's connection after an act. -/
theorem own_actAt (hs : f.sessions[i]? = some s) :
    (f.actAt i).2.own = (f.sessions.take i).filter Session.attached ++
      (f.act s).1.toList.filter Session.attached ++
        (f.sessions.drop (i + 1)).filter Session.attached := by
  have hkept : (fun s : Session => s.attached && (s.attached || decide (s.work ≠ 0))) =
      Session.attached := by
    funext s
    cases s.attached <;> simp
  unfold own actAt
  rw [hs]
  simp only
  rw [List.filter_filter, hkept, act_sessions, List.filter_append, List.filter_append]

theorem own_split (hs : f.sessions[i]? = some s) :
    f.own = (f.sessions.take i).filter Session.attached ++ [s].filter Session.attached ++
      (f.sessions.drop (i + 1)).filter Session.attached := by
  unfold own
  conv => enter [1, 2]; rw [sessions_split hs]
  rw [List.filter_append, ← List.singleton_append (x := s), List.filter_append, List.append_assoc]

/-- An act on a dropped connection does not touch the driver's. -/
theorem own_actAt_dropped (hs : f.sessions[i]? = some s) (ha : s.attached = false) :
    (f.actAt i).2.own = f.own := by
  have hrest : (f.act s).1.toList.filter Session.attached = [] := by
    rw [List.filter_eq_nil_iff]
    intro s' hs'
    rw [(act_session (Option.mem_toList.mp hs')).2, ha]
    decide
  rw [own_actAt hs, own_split hs, hrest, List.filter_cons_of_neg (by simp [ha]), List.filter_nil]

/-- An act on the driver's connection leaves what it makes of it. -/
theorem own_actAt_own (hs : f.sessions[i]? = some s) (ha : s.attached = true) (ho : f.own = [s])
    {s' : Session} (hact : (f.act s).1 = some s') : (f.actAt i).2.own = [s'] := by
  have hkeep : [s'].filter Session.attached = [s'] := by
    rw [List.filter_cons_of_pos ((act_session hact).2.trans ha), List.filter_nil]
  rw [own_split hs, List.filter_cons_of_pos ha, List.filter_nil] at ho
  have hlength := congrArg List.length ho
  simp only [List.length_append, List.length_cons, List.length_nil] at hlength
  have hbefore : (f.sessions.take i).filter Session.attached = [] :=
    List.eq_nil_of_length_eq_zero (by omega)
  have hafter : (f.sessions.drop (i + 1)).filter Session.attached = [] :=
    List.eq_nil_of_length_eq_zero (by omega)
  rw [own_actAt hs, hbefore, hafter, hact, Option.toList_some, hkeep]
  rfl

/-- What is told on another connection brings nothing to the driver's. -/
theorem act_dropped (ha : s.attached = false) : (f.act s).2.1 = {} := by
  unfold act
  split
  · rw [ha]
    rfl
  · rfl
  · rfl

theorem told_act_ne {c : Nat} (hc : s.connection ≠ c) : (f.act s).2.2.told c = f.told c := by
  unfold act told
  split
  · rfl
  · simp [hc]
  · rfl

/-- **An act on the driver's connection** moves bytes along: what was under way and what is added
are what arrives and what is under way then. -/
theorem Orderly.act_own (hf : f.Orderly) (hs : s ∈ f.sessions) (ha : s.attached = true) :
    ∃ s' new, (f.act s).1 = some s' ∧ (f.act s).2.1.close = false ∧
      LineCodec.Whole (f.act s).2.1.bytes ∧
      (f.act s).2.2.told s.connection = f.told s.connection ++ new ∧
      s.pendingBytes ++ new.flatMap Heard.bytes = (f.act s).2.1.bytes ++ s'.pendingBytes ∧
      new.map Heard.line ++ s'.queue.map Prod.snd = s.queue.map Prod.snd := by
  cases hp : s.pending with
  | some p =>
    have hanswer := (hf.sessions s hs).2 p hp
    refine ⟨{ s with pending := none, free := p.due }, [], ?_⟩
    rw [act_deliver hp, ha, hanswer.1]
    exact ⟨rfl, rfl, hanswer.whole, by simp, by simp [Session.pendingBytes, hp], rfl⟩
  | none =>
    cases hq : s.queue with
    | nil =>
      refine ⟨s, [], ?_⟩
      rw [act_idle hp hq]
      exact ⟨rfl, rfl, LineCodec.whole_nil, by simp, by simp, by simp [hq]⟩
    | cons entry queue =>
      obtain ⟨arrived, line⟩ := entry
      rw [act_read hp hq]
      refine ⟨_, [⟨max arrived s.free, s.connection, line,
        (f.responder.react (max arrived s.free) line).1⟩], rfl, rfl, LineCodec.whole_nil,
        ?_, ?_, ?_⟩
      · simp [told]
      · generalize (f.responder.react (max arrived s.free) line).1 = answer
        cases answer <;> simp [Session.pendingBytes, Heard.bytes, hp]
      · simp

/-- A connection at a later time: what was told stays told, and nothing more was sent. -/
structure Later (f f' : FarEnd) (s s' : Session) : Prop where
  connection : s'.connection = s.connection
  told : f.told s.connection <+: f'.told s.connection
  sent : f'.sentOn s' = f.sentOn s

theorem Later.refl (f : FarEnd) (s : Session) : Later f f s s := ⟨rfl, List.prefix_refl _, rfl⟩

theorem Later.trans {f f' f'' : FarEnd} {s s' s'' : Session} (h : Later f f' s s')
    (h' : Later f' f'' s' s'') : Later f f'' s s'' := by
  refine ⟨h'.connection.trans h.connection, h.told.trans ?_, h'.sent.trans h.sent⟩
  rw [← h.connection]
  exact h'.told

theorem actAt_none (hs : f.sessions[i]? = none) : f.actAt i = ({}, f) := by
  unfold actAt
  rw [hs]

theorem actAt_delivery (hs : f.sessions[i]? = some s) : (f.actAt i).1 = (f.act s).2.1 := by
  unfold actAt
  rw [hs]

theorem told_actAt (hs : f.sessions[i]? = some s) (c : Nat) :
    (f.actAt i).2.told c = (f.act s).2.2.told c := by
  unfold actAt
  rw [hs]
  rfl

end FarEnd

namespace LinkDevice

/-- The driver's connection, with what it has read on it. -/
structure Connection (l : LinkDevice) (s : Session) (st : Stream) (read : LineCodec.Bytes) :
    Prop where
  own : l.farEnd.own = [s]
  others : ∀ o ∈ l.farEnd.sessions, o.attached = false → o.connection ≠ s.connection
  stream : l.stream = some st
  live : st.Live
  whole : LineCodec.Whole st.pipe
  /-- The answers were read, wait, or are under way. -/
  bytes : (l.farEnd.told s.connection).flatMap Heard.bytes = read ++ st.pipe ++ s.pendingBytes

namespace Connection

variable {l : LinkDevice} {s : Session} {st : Stream} {read : LineCodec.Bytes}

theorem mem (h : Connection l s st read) : s ∈ l.farEnd.sessions ∧ s.attached = true := by
  have hmem : s ∈ l.farEnd.own := by
    rw [h.own]
    exact List.mem_singleton_self s
  exact List.mem_filter.mp hmem

theorem stream_acted (h : Connection l s st read) {i : Nat} {d : Delivery}
    (hd : (l.farEnd.actAt i).1 = d) (hc : d.close = false) :
    (l.acted i).stream = some { st with pipe := st.pipe ++ d.bytes } := by
  unfold LinkDevice.acted
  simp [h.stream, hd, hc]

theorem others_acted (h : Connection l s st read) (i : Nat) :
    ∀ o ∈ (l.acted i).farEnd.sessions, o.attached = false → o.connection ≠ s.connection := by
  intro o ho hd
  rcases FarEnd.mem_actAt ho with ho | ⟨o', ho', hact⟩
  · exact h.others o ho hd
  · rw [(FarEnd.act_session hact).1]
    exact h.others o' ho' ((FarEnd.act_session hact).2 ▸ hd)

/-- An act that has nothing to do with the driver's connection. -/
theorem acted_elsewhere (h : Connection l s st read) {i : Nat}
    (hown : (l.acted i).farEnd.own = l.farEnd.own)
    (htold : (l.acted i).farEnd.told s.connection = l.farEnd.told s.connection)
    (hd : (l.farEnd.actAt i).1 = {}) :
    Connection (l.acted i) s { st with pipe := st.pipe ++ [] } read ∧
      l.farEnd.Later (l.acted i).farEnd s s := by
  refine ⟨⟨hown.trans h.own, h.others_acted i, h.stream_acted hd rfl, h.live.arrive [],
    h.whole.append LineCodec.whole_nil, ?_⟩, rfl, ?_, ?_⟩
  · rw [htold, List.append_nil]
    exact h.bytes
  · exact htold ▸ List.prefix_refl _
  · unfold FarEnd.sentOn
    rw [htold]

/-- An act on the driver's connection. -/
theorem acted_own (hf : l.farEnd.Orderly) (h : Connection l s st read) {i : Nat}
    (hs : l.farEnd.sessions[i]? = some s) :
    ∃ s' arrived, Connection (l.acted i) s' { st with pipe := st.pipe ++ arrived } read ∧
      l.farEnd.Later (l.acted i).farEnd s s' := by
  obtain ⟨s', new, hact, hclose, hwhole, hnew, hbytes, hlines⟩ := hf.act_own h.mem.1 h.mem.2
  have hown := FarEnd.own_actAt_own hs h.mem.2 h.own hact
  have hconnection := (FarEnd.act_session hact).1
  have htold : (l.acted i).farEnd.told s.connection = l.farEnd.told s.connection ++ new :=
    (FarEnd.told_actAt hs _).trans hnew
  refine ⟨s', (l.farEnd.act s).2.1.bytes, ⟨hown, ?_,
    h.stream_acted (FarEnd.actAt_delivery hs) hclose, h.live.arrive _, h.whole.append hwhole, ?_⟩,
    hconnection, ?_, ?_⟩
  · rw [hconnection]
    exact h.others_acted i
  · rw [hconnection, htold, List.flatMap_append, h.bytes, List.append_assoc, hbytes]
    simp only [List.append_assoc]
  · rw [htold]
    exact List.prefix_append _ _
  · unfold FarEnd.sentOn
    rw [hconnection, htold, List.map_append, List.append_assoc, hlines]

/-- **An act keeps the account of a connection**, with the same bytes read. -/
theorem acted (hf : l.farEnd.Orderly) (h : Connection l s st read) (i : Nat) :
    ∃ s' arrived, Connection (l.acted i) s' { st with pipe := st.pipe ++ arrived } read ∧
      l.farEnd.Later (l.acted i).farEnd s s' := by
  cases hs : l.farEnd.sessions[i]? with
  | none =>
    have hat := FarEnd.actAt_none hs
    have hfar : (l.acted i).farEnd = l.farEnd := congrArg Prod.snd hat
    exact ⟨s, [], h.acted_elsewhere (by rw [hfar]) (by rw [hfar]) (congrArg Prod.fst hat)⟩
  | some o =>
    cases ha : o.attached with
    | false =>
      have hne := h.others o (List.mem_of_getElem? hs) ha
      have htold := (FarEnd.told_actAt hs s.connection).trans (FarEnd.told_act_ne hne)
      have hdelivery := (FarEnd.actAt_delivery hs).trans (FarEnd.act_dropped ha)
      exact ⟨s, [], h.acted_elsewhere (FarEnd.own_actAt_dropped hs ha) htold hdelivery⟩
    | true =>
      have hmem : o ∈ l.farEnd.own := List.mem_filter.mpr ⟨List.mem_of_getElem? hs, ha⟩
      rw [h.own] at hmem
      obtain rfl := List.mem_singleton.mp hmem
      exact h.acted_own hf hs

/-- Waiting keeps the account of a connection. -/
theorem advanceFrom (hf : l.farEnd.Orderly) (h : Connection l s st read)
    (fuel time settled : Nat) :
    ∃ s' arrived, Connection (LinkDevice.advanceFrom fuel time settled l) s'
        { st with pipe := st.pipe ++ arrived } read ∧
      l.farEnd.Later (LinkDevice.advanceFrom fuel time settled l).farEnd s s' := by
  have hstay : ∃ s' arrived, Connection l s' { st with pipe := st.pipe ++ arrived } read ∧
      l.farEnd.Later l.farEnd s s' := ⟨s, [], by simpa using h, FarEnd.Later.refl _ _⟩
  induction fuel generalizing l s st with
  | zero => exact hstay
  | succ fuel ih =>
    rw [advanceFrom_succ]
    split
    · exact hstay
    · rename_i due since i hn
      split
      · obtain ⟨s₁, first, h₁, hlater₁⟩ := h.acted hf i
        obtain ⟨s₂, more, h₂, hlater₂⟩ := ih (hf.actAt i) h₁
          ⟨s₁, [], by simpa using h₁, FarEnd.Later.refl _ _⟩
        refine ⟨s₂, first ++ more, ?_, hlater₁.trans hlater₂⟩
        simpa using h₂
      · exact hstay

end Connection

/-- Waiting keeps a far end orderly. -/
theorem orderly_advanceFrom {l : LinkDevice} (hf : l.farEnd.Orderly) (fuel time settled : Nat) :
    (LinkDevice.advanceFrom fuel time settled l).farEnd.Orderly := by
  induction fuel generalizing l with
  | zero => exact hf
  | succ fuel ih =>
    rw [advanceFrom_succ]
    split
    · exact hf
    · split
      · exact ih (hf.actAt _)
      · exact hf

end LinkDevice

end ChillerGateway
