import ChillerGateway.Proofs.Gateway.Conversation
import Mathlib.Algebra.GroupWithZero.Nat

/-!
# Counting over a conversation

What is counted over the history of a connection is counted over its sections, one for each event of
its stream, since nothing that matters is asked to read.  What is counted over a whole run is counted
over the histories of its workers.

* `sum_countP_own` — the counts of workers make up the count of the run.
* `Connection.Midway` — where a connection is within a round.
* `Connection.received` — the bytes that a connection has read.
* `Connection.course_sections` — the history of a connection, by the events of what it has read.
-/

namespace ChillerGateway

open Work (Stretch)

/-! ## Counts of a run -/

section

variable {tasks : List Nat} {p : Answered → Bool}

/-- The counts of all that belongs to some numbers, one for each, make up the count of it all. -/
theorem sum_countP_of_mem {α : Type} (h : tasks.Nodup) (f : α → Nat) (p : α → Bool) (l : List α) :
    (tasks.map fun t => l.countP fun x => decide (f x = t) && p x).sum =
      l.countP fun x => decide (f x ∈ tasks) && p x := by
  induction tasks with
  | nil => simp
  | cons t tasks ih =>
    obtain ⟨hnot, htasks⟩ := List.nodup_cons.mp h
    rw [List.map_cons, List.sum_cons, ih htasks]
    clear ih
    induction l with
    | nil => rfl
    | cons x l ih =>
      simp only [List.countP_cons]
      rw [← ih]
      by_cases hx : f x = t
      · subst hx
        simp [hnot]
        omega
      · simp [hx]
        omega

theorem sum_countP_le {α : Type} (h : tasks.Nodup) (f : α → Nat) (p : α → Bool) (l : List α) :
    (tasks.map fun t => l.countP fun x => decide (f x = t) && p x).sum ≤ l.countP p := by
  rw [sum_countP_of_mem h]
  exact List.countP_mono_left fun x _ hx => (Bool.and_eq_true _ _ ▸ hx).2

theorem countP_own (task : Nat) (p : Answered → Bool) (es : List Event) :
    (own task es).countP p = es.countP fun x => decide (x.task = task) && p x.asked := by
  unfold own
  rw [List.countP_map, List.countP_filter]
  refine List.countP_congr fun x _ => ?_
  simp [and_comm]

theorem sum_countP_own_le (h : tasks.Nodup) (p : Answered → Bool) (es : List Event) :
    (tasks.map fun t => (own t es).countP p).sum ≤ es.countP fun x => p x.asked := by
  simp only [countP_own]
  exact sum_countP_le h Event.task _ es

/-- If nobody else was told what is counted, the counts make up that of the run. -/
theorem sum_countP_own (h : tasks.Nodup) {es : List Event}
    (hall : ∀ x ∈ es, p x.asked = true → x.task ∈ tasks) :
    (tasks.map fun t => (own t es).countP p).sum = es.countP fun x => p x.asked := by
  simp only [countP_own]
  rw [sum_countP_of_mem h Event.task]
  refine List.countP_congr fun x hx => ?_
  rw [Bool.and_eq_true, decide_eq_true_eq]
  exact ⟨fun hboth => hboth.2, fun hp => ⟨hall x hx hp, hp⟩⟩

end

/-! ## Readings -/

/-- Whether a question may belong to a reading of a connection. -/
def Action.isFetch : Action → Bool
  | .settings | .now | .read .. => true
  | _ => false

/-- A property of what is not asked to read. -/
def Answered.Deals (p : Answered → Bool) : Prop := ∀ x, p x = true → x.op.isFetch = false

/-- Whether a reply of some kind was sent. -/
def Answered.repliesWith (p : Reply → Bool) : Answered → Bool
  | ⟨.reply _ reply, _⟩ => p reply
  | _ => false

theorem Answered.deals_repliesWith (p : Reply → Bool) : Deals (repliesWith p) := by
  rintro ⟨op, a⟩ h
  cases op with
  | reply => rfl
  | _ => cases h

theorem countP_eq_zero_of {p : Answered → Bool} {es : List Answered}
    (h : ∀ x ∈ es, p x = false) : es.countP p = 0 :=
  List.countP_eq_zero.mpr fun x hx => Bool.eq_false_iff.mp (h x hx)

/-- Nothing is replied while a line is handled. -/
theorem Gateway.countP_repliesWith_handling {limited : Bool} {intake : Intake}
    {line client : String} {es : List Answered} {q : Work (Except Error Json)}
    (h : Stretch (handling limited intake line client) es q) (p : Reply → Bool) :
    es.countP (Answered.repliesWith p) = 0 := by
  have halong := (along_handling limited intake line client).mono (fun _ hop => hop.1) fun _ h => h
  refine countP_eq_zero_of fun x hx => ?_
  have hop := (h.along halong fun _ => rfl).1 x hx
  obtain ⟨op, a⟩ := x
  cases op with
  | reply => cases hop
  | _ => rfl

namespace Connection

open LineStream (Given Taken)

variable {c : Connection} {intake : Intake} {es asked now : List Answered}
  {p : Answered → Bool}

theorem countP_reading (hp : Answered.Deals p) (c : Connection) (settings : Settings) (time : Nat)
    (incoming : Incoming) : (c.reading settings time incoming).countP p = 0 := by
  refine List.countP_eq_zero.mpr fun x hx hcounts => ?_
  have hdeals := hp x hcounts
  unfold reading at hx
  simp only [List.mem_cons, List.not_mem_nil, or_false] at hx
  rcases hx with rfl | rfl | rfl <;> cases hdeals

theorem countP_dealings (hp : Answered.Deals p) (es : List Answered) :
    (dealings es).countP p = es.countP p := by
  induction es with
  | nil => rfl
  | cons x es ih =>
    rw [dealings_cons]
    split
    · rename_i hreads
      have hnot : ¬ p x = true := by
        intro hcounts
        have hdeals := hp x hcounts
        obtain ⟨op, a⟩ := x
        cases op with
        | settings | now | read => cases hdeals
        | _ => cases hreads
      rw [ih, List.countP_cons_of_neg hnot]
    · rw [List.countP_cons, List.countP_cons, ih]

theorem dealings_sublist (es : List Answered) : (dealings es).Sublist es := by
  induction es with
  | nil => exact List.Sublist.refl []
  | cons x es ih =>
    rw [dealings_cons]
    split
    · exact ih.cons x
    · exact ih.cons_cons x

/-- The bytes that came with a reading. -/
def bytesOf : Incoming → List UInt8
  | .bytes bytes => bytes
  | _ => []

/-- The bytes that a connection has read. -/
def received (es : List Answered) : List UInt8 := (readings es).flatMap bytesOf

theorem received_append (es fs : List Answered) :
    received (es ++ fs) = received es ++ received fs := by
  unfold received
  rw [readings_append, List.flatMap_append]

theorem received_of_readings {reads : List (List UInt8)} {rest : List Incoming}
    (h : readings es = reads.map .bytes ++ rest) (hrest : rest.flatMap bytesOf = []) :
    received es = reads.flatten := by
  unfold received
  rw [h, List.flatMap_append, hrest, List.append_nil, List.flatMap_map]
  exact List.flatMap_id'

/-! ## Within a round -/

/-- Where a connection is in its round, by what it was answered since the round began: it serves an
event, it reads, or it serves the last line of its stream. -/
inductive Midway (c : Connection) (intake : Intake) :
    List Answered → Work (Option Connection) → Prop where
  | serving {event input asked q} : Given c.input event input → event ≠ .starved →
      Stretch (c.serve intake event) asked q →
      Midway c intake asked (q.bind fun _ => Program.done (some { c with input }))
  | reading {asked q} : (∀ x ∈ asked, x.op.isFetch = true) → Midway c intake asked q
  | closing {input} (settings : Settings) (time : Nat) {asked q} : Given c.input .starved input →
      Stretch ({ c with input }.finish intake) asked q →
      Midway c intake (c.reading settings time .ended ++ asked) (q.bind fun _ => Program.done none)

theorem midway_of_stretch {q : Work (Option Connection)} (h : Stretch (c.round intake) now q) :
    c.Midway intake now q := by
  obtain ⟨event, input, hnext⟩ : ∃ event input, c.input.next = (event, input) := ⟨_, _, rfl⟩
  have hgiven := LineStream.given_of_next hnext
  by_cases hevent : event = .starved
  · subst hevent
    rw [round_starved hnext, readMore_eq] at h
    rcases h.question_other rfl with ⟨rfl, -⟩ | ⟨settings, _, rfl, hsettings⟩
    · exact .reading fun x hx => by cases hx
    rcases hsettings.question_other rfl with ⟨rfl, -⟩ | ⟨time, _, rfl, htime⟩
    · exact .reading (by simp [Action.isFetch])
    rcases htime.question_other rfl with ⟨rfl, -⟩ | ⟨incoming, rest, rfl, hread⟩
    · exact .reading (by simp [Action.isFetch])
    cases incoming with
    | ended =>
      rcases Stretch.bind_cases hread with ⟨q', hq', rfl⟩ | ⟨_, asked, after, rfl, hfinish, hdone⟩
      · exact .closing settings time hgiven hq'
      · obtain ⟨rfl, rfl⟩ := hdone.of_done
        rw [List.append_nil]
        exact .closing settings time hgiven hfinish
    | bytes | idle | cancelled =>
      obtain ⟨rfl, rfl⟩ := Stretch.of_done hread
      exact .reading (by simp [Action.isFetch])
  · rw [round_event hnext hevent] at h
    rcases h.bind_cases with ⟨q', hq', rfl⟩ | ⟨_, asked, after, rfl, hserve, hdone⟩
    · exact .serving hgiven hevent hq'
    · obtain ⟨rfl, rfl⟩ := hdone.of_done
      rw [List.append_nil]
      exact .serving hgiven hevent hserve

/-! ## Sections -/

theorem received_eq_nil (h : ∀ x ∈ es, x.op.isRead = false) : received es = [] := by
  unfold received
  rw [readings_eq_nil h]
  rfl

theorem serve_reads_nothing (c : Connection) (intake : Intake) (event : LineStream.Event) :
    (c.serve intake event).Along (fun op : Action => op.isRead = false) fun _ => True :=
  (along_serve c intake event).mono (fun _ hop => hop.1.2) fun _ h => h

/-- What a connection does in its round, as far as it matters: it serves an event of its stream, or
nothing. -/
structure Pending (c : Connection) (intake : Intake) (events : List LineStream.Event)
    (stream : List UInt8) (now : List Answered) (p : Work RoundEnd)
    (pending : Option LineStream.Event) (asked : List Answered) (q : Work Unit) : Prop where
  serve : Stretch (c.serve intake (pending.getD .starved)) asked q
  ahead : c.input = {} → events ++ pending.toList <+: LineStream.events (stream ++ received now)
  /-- Unless it has served the event, that is where the worker is. -/
  here : q = Program.done () ∨ ∃ k, p = q.bind k
  counts : ∀ counts, Answered.Deals counts → now.countP counts = asked.countP counts

theorem Past.pending {past : List Answered} {stream : List UInt8} {events : List LineStream.Event}
    {sections : List (List Answered)} {held : LineStream} {p : Work RoundEnd}
    (hpast : c.Past intake past stream events sections held)
    (h : { c with input := held }.Within intake now p) :
    ∃ pending asked q, c.Pending intake events stream now p pending asked q := by
  have hquiet : (∀ x ∈ now, x.op.isFetch = true) →
      ∃ pending asked q, c.Pending intake events stream now p pending asked q := by
    refine fun hfetch => ⟨none, [], _, .start, fun hc => ?_, .inl rfl, fun p hp => ?_⟩
    · rw [(hpast.taken hc).events_eq]
      exact List.prefix_append_right_inj events |>.mpr List.nil_prefix
    · refine List.countP_eq_zero.mpr fun x hx hcounts => ?_
      cases (hfetch x hx).symm.trans (hp x hcounts)
  have hserved : ∀ {event asked q}, Stretch (c.serve intake event) asked q →
      received asked = [] := by
    intro event asked q hserve
    exact received_eq_nil (hserve.along (serve_reads_nothing c intake event) fun _ => rfl).1
  cases h with
  | beginning => exact hquiet fun x hx => by cases hx
  | @acting _ q hq =>
    cases midway_of_stretch hq with
    | reading hfetch => exact hquiet hfetch
    | @serving event input _ q hgiven hevent hserve =>
      refine ⟨some event, now, q, hserve, fun hc => ?_, .inr ⟨_, Program.bind_assoc q _ _⟩,
        fun _ _ => rfl⟩
      rw [hserved hserve, (hpast.taken hc).events_eq, hgiven.ahead_feed hevent]
      exact (List.prefix_append_right_inj events).mpr (List.prefix_append [event] _)
    | @closing input settings time asked q hgiven hfinish =>
      refine ⟨input.last?.map LineStream.Event.line, asked, q, hfinish, fun hc => ?_,
        .inr ⟨_, Program.bind_assoc q _ _⟩, fun p hp => ?_⟩
      · have hnone : received ({ c with input := held }.reading settings time .ended ++ asked) = [] :=
          (received_append _ _).trans (congrArg _ (hserved hfinish))
        rw [hnone, List.append_nil]
        exact ⟨[], (List.append_nil _).trans ((hpast.taken hc).ended hgiven).symm⟩
      · rw [List.countP_append, countP_reading hp, Nat.zero_add]

/-- The history of a connection, by the events of what it has read. -/
structure Sectioned (c : Connection) (intake : Intake) (es : List Answered) (p : Work RoundEnd)
    (events : List LineStream.Event) (sections : List (List Answered))
    (pending : Option LineStream.Event) (asked : List Answered) (q : Work Unit) : Prop where
  served : List.Forall₂ (c.Serves intake) events sections
  serving : Stretch (c.serve intake (pending.getD .starved)) asked q
  ahead : c.input = {} → events ++ pending.toList <+: LineStream.events (received es)
  /-- Unless it has served the last event, that is where the worker is. -/
  here : q = Program.done () ∨ ∃ k, p = q.bind k
  counts : ∀ counts, Answered.Deals counts →
    es.countP counts = sections.flatten.countP counts + asked.countP counts

/-- **The history of a connection has a section for each event that it has served**, and what it was
answered so far for the one that it serves, if there is one. -/
theorem course_sections {p : Work RoundEnd}
    (h : Course intake (Program.done (.again (.connection c))) es p) :
    ∃ events sections pending asked q,
      c.Sectioned intake es p events sections pending asked q := by
  obtain ⟨past, now, stream, events, sections, held, rfl, hpast, hwithin⟩ := course_rounds h
  obtain ⟨reads, hreads, rfl⟩ := hpast.readings_eq
  obtain ⟨pending, asked, q, hpending⟩ := hpast.pending hwithin
  refine ⟨events, sections, pending, asked, q, hpast.serves, hpending.serve, fun hc => ?_,
    hpending.here, fun p hp => ?_⟩
  · rw [received_append, received_of_readings (hreads.trans (List.append_nil _).symm) rfl]
    exact hpending.ahead hc
  · rw [List.countP_append, hpending.counts p hp, ← countP_dealings hp, hpast.dealings_eq]

/-! ## One section -/

/-- How an event is treated: what was answered for it so far, and whether that is all. -/
inductive Treats (c : Connection) (intake : Intake) :
    LineStream.Event → List Answered → Bool → Prop where
  | waiting {event} : Treats c intake event [] false
  | starved : Treats c intake .starved [] true
  | blank {line} : (Text.trim line).isEmpty = true → Treats c intake (.line line) [] true
  | tooLarge : Treats c intake .oversized [⟨.reply c.index .tooLarge, ()⟩] true
  | noted : Treats c intake .unreadable [⟨.countError unreadable.kind, ()⟩] false
  | unreadable : Treats c intake .unreadable
      [⟨.countError unreadable.kind, ()⟩, ⟨.reply c.index (.ofResult (.error unreadable)), ()⟩] true
  | handling {line asked q} : (Text.trim line).isEmpty = false →
      Stretch (Gateway.handling true intake (Text.trim line) c.client) asked q →
      Treats c intake (.line line) asked false
  | answered {line asked result} : (Text.trim line).isEmpty = false →
      Stretch (Gateway.handling true intake (Text.trim line) c.client) asked (Program.done result) →
      Treats c intake (.line line) (asked ++ [⟨.reply c.index (.ofResult result), ()⟩]) true

/-- Every event is treated in this way; at the end of its section that is all. -/
theorem treats_of_stretch {event : LineStream.Event} {q : Work Unit}
    (h : Stretch (c.serve intake event) asked q) :
    ∃ all, c.Treats intake event asked all ∧ (q = Program.done () → all = true) := by
  cases event with
  | starved =>
    obtain ⟨rfl, rfl⟩ := Stretch.of_done h
    exact ⟨true, .starved, fun _ => rfl⟩
  | oversized =>
    rcases Stretch.asked_other h rfl with ⟨rfl, rfl⟩ | ⟨_, fs, rfl, hfs⟩
    · exact ⟨false, .waiting, fun hq => by cases hq⟩
    · obtain ⟨rfl, rfl⟩ := Stretch.of_done hfs
      exact ⟨true, .tooLarge, fun _ => rfl⟩
  | unreadable =>
    rcases Stretch.asked_other h rfl with ⟨rfl, rfl⟩ | ⟨_, fs, rfl, hfs⟩
    · exact ⟨false, .waiting, fun hq => by cases hq⟩
    rcases Stretch.asked_other hfs rfl with ⟨rfl, rfl⟩ | ⟨_, gs, rfl, hgs⟩
    · exact ⟨false, .noted, fun hq => by cases hq⟩
    · obtain ⟨rfl, rfl⟩ := Stretch.of_done hgs
      exact ⟨true, .unreadable, fun _ => rfl⟩
  | line line =>
    cases hblank : (Text.trim line).isEmpty with
    | true =>
      rw [serve_blank hblank] at h
      obtain ⟨rfl, rfl⟩ := h.of_done
      exact ⟨true, .blank hblank, fun _ => rfl⟩
    | false =>
      rw [serve_line hblank] at h
      rcases h.bind_cases with ⟨q', hq', rfl⟩ | ⟨result, before, after, rfl, hbefore, hafter⟩
      · refine ⟨false, .handling hblank hq', fun hq => ?_⟩
        cases q' with
        | done result => cases hq
        | ask => cases hq
      · rcases Stretch.asked_other hafter rfl with ⟨rfl, rfl⟩ | ⟨_, fs, rfl, hfs⟩
        · rw [List.append_nil]
          exact ⟨false, .handling hblank hbefore, fun hq => by cases hq⟩
        · obtain ⟨rfl, rfl⟩ := Stretch.of_done hfs
          exact ⟨true, .answered hblank hbefore, fun _ => rfl⟩

theorem Serves.treats {event : LineStream.Event} (h : c.Serves intake event asked) :
    c.Treats intake event asked true := by
  obtain ⟨all, htreats, hall⟩ := treats_of_stretch h
  exact hall rfl ▸ htreats

end Connection

end ChillerGateway
