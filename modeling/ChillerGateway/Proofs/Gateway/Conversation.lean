import ChillerGateway.Proofs.Gateway.Handling
import ChillerGateway.Proofs.Net.LineStream

/-!
# The conversation with a client

A connection reads when it has no whole line, and otherwise hands the next event on: a line is
handled, and what is not a line is answered with an error.  So its history is made of readings and
of sections, one for each event.

* `Connection.serve` — what a connection does with an event.
* `Connection.dealings` — what a connection was answered apart from its readings.
* `Connection.Past` — the rounds that a connection has completed.
* `Connection.conversation` — the dealings of a connection that has come to the end of a stream: one
  section for each event of the stream.
* `Connection.Ends` — a worker that comes to its end, whatever it is answered.
* `Connection.ends_again` — every connection does whose client sends a stream and then ends it.
-/

namespace ChillerGateway

open Work (Stretch)

/-! ## What a connection asks for itself -/

/-- Whether a question is one for the time. -/
def Action.isNow : Action → Bool
  | .now => true
  | _ => false

/-- Whether a question is one for more bytes of a client. -/
def Action.isRead : Action → Bool
  | .read .. => true
  | _ => false

/-- Whether a question is a rest of a driver between two of its steps. -/
def Action.isRest : Action → Bool
  | .pauseUntil _ none => true
  | _ => false

/-- Whether a question belongs to the conversation with a client, and not to the handling of a
line. -/
def Action.converses : Action → Bool
  | .now | .read .. | .reply .. => true
  | _ => false

/-- The handling of a line neither reads from the client nor replies, and does not rest by
itself. -/
theorem Gateway.along_handling (limited : Bool) (intake : Intake) (line client : String) :
    (Gateway.handling limited intake line client).Along
      (fun op : Action => op.converses = false ∧ op.isRest = false) fun _ => True := by
  have hcounted : ∀ result, (Gateway.counted result).Along
      (fun op : Action => op.converses = false ∧ op.isRest = false) fun _ => True := by
    intro result
    cases result with
    | error e => exact ⟨⟨rfl, rfl⟩, fun _ => trivial⟩
    | ok => trivial
  have houtcome : (Gateway.outcome intake line client).Along
      (fun op : Action => op.converses = false ∧ op.isRest = false) fun _ => True := by
    unfold Gateway.outcome
    split
    · trivial
    · rename_i r _
      have hmade : Work.Made (fun op : Action => op.isProcessing = true)
          (Errand.Locked fun _ => True) (fun _ => True) (Gateway.process intake.auth r client) :=
        Worker.made_process (fun _ hop => hop) (fun _ _ => trivial) intake.auth r
      refine hmade.along (fun op hop => ?_) fun u hu => ?_
      · cases op with
        | now | read | reply | pauseUntil => cases hop
        | _ => exact ⟨rfl, rfl⟩
      · obtain ⟨e, -⟩ := hu
        refine Errand.along_locked ⟨rfl, rfl⟩ ⟨rfl, rfl⟩ fun op hop => ?_
        cases op with
        | now | read | reply | pauseUntil => cases hop
        | _ => exact ⟨rfl, rfl⟩
  unfold Gateway.handling
  refine Program.Along.bind (Q := fun _ => True) ?_ fun allowed _ => ?_
  · cases limited with
    | false => trivial
    | true => exact ⟨⟨rfl, rfl⟩, fun allowed => by cases allowed <;> trivial⟩
  · cases allowed with
    | ok => exact houtcome.bind fun result _ => hcounted result
    | error e => exact hcounted _

namespace Connection

open LineStream (Given Taken)

variable {c d : Connection} {intake : Intake} {es fs asked now : List Answered}
  {stream : List UInt8} {event : LineStream.Event} {input : LineStream}

/-! ## Events -/

/-- What a connection does with an event. -/
def serve (c : Connection) (intake : Intake) : LineStream.Event → Work Unit
  | .line line => c.answer intake line
  | .oversized => Work.ask (.reply c.index .tooLarge)
  | .unreadable => (Gateway.respond (.error unreadable)).bind fun reply =>
      Work.ask (.reply c.index reply)
  | .starved => Program.done ()

/-- A round with an event serves it. -/
theorem round_event (hnext : c.input.next = (event, input)) (h : event ≠ .starved)
    (intake : Intake) : c.round intake = (c.serve intake event).bind fun _ =>
      Program.done (some { c with input }) := by
  unfold round
  rw [hnext]
  cases event with
  | line | oversized => rfl
  | unreadable =>
    show (Gateway.respond (.error unreadable)).bind _ = _
    unfold serve
    rw [Program.bind_assoc]
    rfl
  | starved => exact absurd rfl h

/-- A round without an event reads. -/
theorem round_starved (hnext : c.input.next = (.starved, input)) (intake : Intake) :
    c.round intake = { c with input }.readMore intake := by
  unfold round
  rw [hnext]

/-- The end of a stream ends the last line. -/
def finish (c : Connection) (intake : Intake) : Work Unit :=
  c.serve intake ((c.input.last?.map LineStream.Event.line).getD .starved)

/-- What is done with what was read. -/
def take (c : Connection) (intake : Intake) : Incoming → Work (Option Connection)
  | .bytes bytes => Program.done (some { c with input := c.input.feed bytes })
  | .ended => (c.finish intake).bind fun _ => Program.done none
  | .idle | .cancelled => Program.done none

theorem readMore_eq (c : Connection) (intake : Intake) :
    c.readMore intake = (Work.ask .settings).bind fun settings => (Work.ask .now).bind fun now =>
      (Work.ask (.read c.index (settings.idleTimeout.map (now + ·)))).bind (c.take intake) := by
  unfold readMore
  refine congrArg _ (funext fun settings => congrArg _ (funext fun now => congrArg _ ?_))
  funext incoming
  cases incoming with
  | ended =>
    unfold take finish
    cases c.input.last? <;> rfl
  | bytes | idle | cancelled => rfl

theorem serve_blank {line : String} (h : (Text.trim line).isEmpty = true) :
    c.serve intake (.line line) = Program.done () := by
  show c.answer intake line = _
  unfold answer
  simp only [h, if_true]
  rfl

theorem serve_line {line : String} (h : (Text.trim line).isEmpty = false) :
    c.serve intake (.line line) =
      (Gateway.handling true intake (Text.trim line) c.client).bind fun r =>
        Work.ask (.reply c.index (.ofResult r)) := by
  show c.answer intake line = _
  exact Gateway.answer_eq c intake h

/-- To serve an event, no more is read from the client. -/
theorem along_serve (c : Connection) (intake : Intake) (event : LineStream.Event) :
    (c.serve intake event).Along
      (fun op : Action => (op.isNow = false ∧ op.isRead = false) ∧ op.isRest = false)
      fun _ => True := by
  cases event with
  | line line =>
    cases hblank : (Text.trim line).isEmpty with
    | true =>
      rw [serve_blank hblank]
      trivial
    | false =>
      rw [serve_line hblank]
      refine Program.Along.bind
        ((Gateway.along_handling true intake (Text.trim line) c.client).mono ?_ fun _ h => h)
        fun _ _ => ⟨⟨⟨rfl, rfl⟩, rfl⟩, fun _ => trivial⟩
      intro op hop
      cases op with
      | now | read => cases hop.1
      | pauseUntil => exact ⟨⟨rfl, rfl⟩, hop.2⟩
      | _ => exact ⟨⟨rfl, rfl⟩, rfl⟩
  | oversized => exact ⟨⟨⟨rfl, rfl⟩, rfl⟩, fun _ => trivial⟩
  | unreadable =>
    exact ⟨⟨⟨rfl, rfl⟩, rfl⟩, fun _ => ⟨⟨⟨rfl, rfl⟩, rfl⟩, fun _ => trivial⟩⟩
  | starved => trivial

/-- The questions and answers of an event, from its beginning to its end. -/
def Serves (c : Connection) (intake : Intake) (event : LineStream.Event)
    (asked : List Answered) : Prop := Stretch (c.serve intake event) asked (Program.done ())

/-! ## Dealings -/

/-- What was read from a client. -/
def reading? : Answered → Option Incoming
  | ⟨.read .., incoming⟩ => some incoming
  | _ => none

/-- All that was read from a client. -/
def readings (es : List Answered) : List Incoming := es.filterMap reading?

/-- Whether a question, followed by another one, belongs to a reading: a connection looks up its
settings and the time before it reads. -/
def readsWith (x : Answered) (following : Option Answered) : Bool :=
  match x.op with
  | .now | .read .. => true
  | .settings => following.any (·.op.isNow)
  | _ => false

/-- What a connection was answered apart from its readings. -/
def dealings : List Answered → List Answered
  | [] => []
  | x :: es => if readsWith x es.head? then dealings es else x :: dealings es

theorem readsWith_of_not_now {x : Answered} {following : Option Answered}
    (h : ∀ y ∈ following, y.op.isNow = false) : readsWith x following = readsWith x none := by
  cases following with
  | none => rfl
  | some y =>
    unfold readsWith
    split
    · rfl
    · rfl
    · exact h y rfl
    · rfl

theorem dealings_cons (x : Answered) (es : List Answered) :
    dealings (x :: es) = if readsWith x es.head? then dealings es else x :: dealings es := rfl

/-- A reading that has begun goes on with the question for the time. -/
theorem dealings_append (h : ∀ y ∈ fs.head?, y.op.isNow = false) :
    dealings (es ++ fs) = dealings es ++ dealings fs := by
  induction es with
  | nil => rfl
  | cons x es ih =>
    have hsame : readsWith x (es ++ fs).head? = readsWith x es.head? := by
      cases es with
      | nil => exact readsWith_of_not_now h
      | cons => rfl
    rw [List.cons_append, dealings_cons, dealings_cons, hsame, ih]
    split
    · rfl
    · rfl

/-- What is no part of a reading are dealings. -/
theorem dealings_eq_self (h : ∀ x ∈ es, x.op.isNow = false ∧ x.op.isRead = false) :
    dealings es = es := by
  induction es with
  | nil => rfl
  | cons x es ih =>
    rw [List.forall_mem_cons] at h
    have hnot : readsWith x es.head? = false := by
      rw [readsWith_of_not_now fun y hy => (h.2 y (List.mem_of_head? hy)).1]
      obtain ⟨op, a⟩ := x
      cases op with
      | now => cases h.1.1
      | read => cases h.1.2
      | _ => rfl
    rw [dealings_cons, hnot, ih h.2]
    rfl

theorem readings_append (es fs : List Answered) :
    readings (es ++ fs) = readings es ++ readings fs := List.filterMap_append

theorem readings_eq_nil (h : ∀ x ∈ es, x.op.isRead = false) : readings es = [] := by
  refine List.filterMap_eq_nil_iff.mpr fun x hx => ?_
  obtain ⟨op, a⟩ := x
  cases op with
  | read => cases h _ hx
  | _ => rfl

/-- One reading of a connection. -/
def reading (c : Connection) (settings : Settings) (time : Nat) (incoming : Incoming) :
    List Answered :=
  [⟨.settings, settings⟩, ⟨.now, time⟩,
    ⟨.read c.index (settings.idleTimeout.map (time + ·)), incoming⟩]

/-- What is asked to serve an event is no part of a reading. -/
theorem Serves.forall_mem (h : c.Serves intake event asked) :
    ∀ x ∈ asked, x.op.isNow = false ∧ x.op.isRead = false := by
  have halong := (along_serve c intake event).mono (fun _ hop => hop.1) fun _ h => h
  exact (Stretch.along h halong fun _ => ⟨rfl, rfl⟩).1

theorem Serves.dealings_append (h : c.Serves intake event asked) (es : List Answered) :
    dealings (es ++ asked) = dealings es ++ asked := by
  rw [Connection.dealings_append fun y hy => (h.forall_mem y (List.mem_of_head? hy)).1,
    dealings_eq_self h.forall_mem]

theorem Serves.readings_append (h : c.Serves intake event asked) (es : List Answered) :
    readings (es ++ asked) = readings es := by
  rw [Connection.readings_append, readings_eq_nil fun x hx => (h.forall_mem x hx).2,
    List.append_nil]

variable {settings : Settings} {time : Nat} {incoming : Incoming}

theorem dealings_reading (es : List Answered) (c : Connection) (settings : Settings) (time : Nat)
    (incoming : Incoming) : dealings (es ++ c.reading settings time incoming) = dealings es := by
  have hnone : dealings (c.reading settings time incoming) = [] := rfl
  rw [dealings_append (by simp [reading, Action.isNow]), hnone, List.append_nil]

theorem readings_reading (es : List Answered) (c : Connection) (settings : Settings) (time : Nat)
    (incoming : Incoming) :
    readings (es ++ c.reading settings time incoming) = readings es ++ [incoming] :=
  readings_append es _

/-! ## Rounds -/

/-- A round of a connection, with what it was answered: the connection after it, if it goes on. -/
inductive Round (c : Connection) (intake : Intake) :
    List Answered → Option Connection → Prop where
  | served {event : LineStream.Event} {input : LineStream} {asked : List Answered} :
      Given c.input event input → event ≠ .starved → c.Serves intake event asked →
      Round c intake asked (some { c with input })
  | fed {input : LineStream} {settings : Settings} {time : Nat} {bytes : List UInt8} :
      Given c.input .starved input →
      Round c intake (c.reading settings time (.bytes bytes))
        (some { c with input := input.feed bytes })
  | ended {input : LineStream} {settings : Settings} {time : Nat} {asked : List Answered} :
      Given c.input .starved input →
      Stretch ({ c with input }.finish intake) asked (Program.done ()) →
      Round c intake (c.reading settings time .ended ++ asked) none
  | dropped {input : LineStream} {settings : Settings} {time : Nat} {incoming : Incoming} :
      Given c.input .starved input → incoming = .idle ∨ incoming = .cancelled →
      Round c intake (c.reading settings time incoming) none

theorem round_of_stretch {next : Option Connection}
    (h : Stretch (c.round intake) now (Program.done next)) : c.Round intake now next := by
  obtain ⟨event, input, hnext⟩ : ∃ event input, c.input.next = (event, input) := ⟨_, _, rfl⟩
  have hgiven := LineStream.given_of_next hnext
  by_cases hevent : event = .starved
  · subst hevent
    rw [round_starved hnext, readMore_eq] at h
    obtain ⟨settings, _, rfl, hsettings⟩ := h.question_done rfl
    obtain ⟨time, _, rfl, htime⟩ := hsettings.question_done rfl
    obtain ⟨incoming, rest, rfl, hread⟩ := htime.question_done rfl
    cases incoming with
    | bytes bytes =>
      obtain ⟨rfl, heq⟩ := Stretch.of_done hread
      cases heq
      exact .fed hgiven
    | ended =>
      obtain ⟨_, asked, after, rfl, hfinish, hdone⟩ := Stretch.bind_done hread
      obtain ⟨rfl, heq⟩ := hdone.of_done
      cases heq
      rw [List.append_nil]
      exact .ended hgiven hfinish
    | idle =>
      obtain ⟨rfl, heq⟩ := Stretch.of_done hread
      cases heq
      exact .dropped hgiven (.inl rfl)
    | cancelled =>
      obtain ⟨rfl, heq⟩ := Stretch.of_done hread
      cases heq
      exact .dropped hgiven (.inr rfl)
  · rw [round_event hnext hevent] at h
    obtain ⟨_, asked, after, rfl, hserve, hdone⟩ := h.bind_done
    obtain ⟨rfl, heq⟩ := hdone.of_done
    cases heq
    rw [List.append_nil]
    exact .served hgiven hevent hserve

/-- The rounds that a connection has completed: what it was answered, the bytes that it has read,
the events that it has handed on with a section for each, and what it holds now. -/
inductive Past (c : Connection) (intake : Intake) : List Answered → List UInt8 →
    List LineStream.Event → List (List Answered) → LineStream → Prop where
  | start : Past c intake [] [] [] [] c.input
  | served {past : List Answered} {stream : List UInt8} {events sections held}
      {event : LineStream.Event} {input : LineStream} {asked : List Answered} :
      Past c intake past stream events sections held → Given held event input → event ≠ .starved →
      c.Serves intake event asked →
      Past c intake (past ++ asked) stream (events ++ [event]) (sections ++ [asked]) input
  | fed {past : List Answered} {stream : List UInt8} {events sections held} {input : LineStream}
      {settings : Settings} {time : Nat} {bytes : List UInt8} :
      Past c intake past stream events sections held → Given held .starved input →
      Past c intake (past ++ c.reading settings time (.bytes bytes)) (stream ++ bytes) events
        sections (input.feed bytes)

namespace Past

variable {events : List LineStream.Event} {sections : List (List Answered)} {held : LineStream}

/-- One round more. -/
theorem next (h : c.Past intake es stream events sections held)
    (hround : { c with input := held }.Round intake now (some d)) :
    ∃ stream' events' sections' held', d = { c with input := held' } ∧
      c.Past intake (es ++ now) stream' events' sections' held' := by
  cases hround with
  | served hgiven hevent hserves => exact ⟨_, _, _, _, rfl, h.served hgiven hevent hserves⟩
  | fed hgiven => exact ⟨_, _, _, _, rfl, h.fed hgiven⟩

theorem taken (h : c.Past intake es stream events sections held) (hc : c.input = {}) :
    Taken stream events held := by
  induction h with
  | start => exact hc ▸ .start
  | served _ hgiven hevent _ ih => exact ih.gave hgiven hevent
  | fed _ hgiven ih => exact (ih.starved hgiven).fed _

/-- Each event that was handed on was served to its end. -/
theorem serves (h : c.Past intake es stream events sections held) :
    List.Forall₂ (c.Serves intake) events sections := by
  induction h with
  | start => exact .nil
  | served _ _ _ hserves ih => exact List.rel_append ih (.cons hserves .nil)
  | fed _ _ ih => exact ih

/-- The dealings of a connection are its sections. -/
theorem dealings_eq (h : c.Past intake es stream events sections held) :
    dealings es = sections.flatten := by
  induction h with
  | start => rfl
  | served _ _ _ hserves ih =>
    rw [hserves.dealings_append, ih, List.flatten_append, List.flatten_singleton]
  | fed _ _ ih => rw [dealings_reading, ih]

/-- The readings of a connection have brought the stream. -/
theorem readings_eq (h : c.Past intake es stream events sections held) :
    ∃ reads : List (List UInt8),
      readings es = reads.map Incoming.bytes ∧ reads.flatten = stream := by
  induction h with
  | start => exact ⟨[], rfl, rfl⟩
  | served _ _ _ hserves ih => rwa [hserves.readings_append]
  | @fed _ _ _ _ _ _ _ _ bytes _ _ ih =>
    obtain ⟨reads, hreads, rfl⟩ := ih
    refine ⟨reads ++ [bytes], ?_, by rw [List.flatten_append, List.flatten_singleton]⟩
    rw [readings_reading, hreads, List.map_append]
    rfl

end Past

/-- The end of a round. -/
def ends (next : Option Connection) : Work RoundEnd :=
  Program.done (Worker.following .connection next)

/-- Where a connection is in its round, with what it was answered since the round began. -/
inductive Within (c : Connection) (intake : Intake) :
    List Answered → Work RoundEnd → Prop where
  | beginning : Within c intake [] (Program.done (.again (.connection c)))
  | acting {now q} : Stretch (c.round intake) now q → Within c intake now (q.bind ends)

/-- A connection is always at some point of some round. -/
theorem course_rounds {p : Work RoundEnd}
    (h : Course intake (Program.done (.again (.connection c))) es p) :
    ∃ past now stream events sections held, es = past ++ now ∧
      c.Past intake past stream events sections held ∧
      { c with input := held }.Within intake now p := by
  induction h with
  | start => exact ⟨[], [], [], [], [], c.input, rfl, .start, .beginning⟩
  | @answered es op next q a _ hr ih =>
    obtain ⟨past, now, stream, events, sections, held, rfl, hpast, hwithin⟩ := ih
    generalize hp : (Program.ask op next : Work RoundEnd) = p at hwithin
    refine ⟨past, now ++ [⟨op, a⟩], stream, events, sections, held, List.append_assoc _ _ _, hpast,
      ?_⟩
    cases hwithin with
    | beginning => cases hp
    | @acting _ q hq =>
      cases q with
      | done next => cases hp
      | ask op' next' =>
        cases hp
        cases hr with
        | now => exact .acting (hq.answered a)
        | later time hop => exact .acting (hq.delayed a time hop)
  | @again es worker _ ih =>
    obtain ⟨past, now, stream, events, sections, held, rfl, hpast, hwithin⟩ := ih
    generalize hp : (Program.done (.again worker) : Work RoundEnd) = p at hwithin
    cases hwithin with
    | beginning =>
      cases hp
      exact ⟨past, [], stream, events, sections, held, rfl, hpast, .acting .start⟩
    | @acting _ q hq =>
      cases q with
      | ask => cases hp
      | done next =>
        cases next with
        | none => cases hp
        | some d =>
          cases hp
          obtain ⟨stream', events', sections', held', rfl, hnext⟩ :=
            hpast.next (round_of_stretch hq)
          exact ⟨past ++ now, [], stream', events', sections', held', (List.append_nil _).symm,
            hnext, .acting .start⟩

/-! ## Up to the end of a stream -/

/-- The end of a stream ends the last line, if there is one. -/
theorem finish_cases (h : Stretch (c.finish intake) asked (Program.done ())) :
    (c.input.last? = none ∧ asked = []) ∨
      ∃ line, c.input.last? = some line ∧ c.Serves intake (.line line) asked := by
  unfold finish at h
  cases hlast : c.input.last? with
  | none =>
    rw [hlast] at h
    exact .inl ⟨rfl, h.of_done.1⟩
  | some line =>
    rw [hlast] at h
    exact .inr ⟨line, rfl, h⟩

/-- The last round, with a section for the last line. -/
theorem Past.ended {events : List LineStream.Event} {sections : List (List Answered)}
    {held input : LineStream} (h : c.Past intake es stream events sections held) (hc : c.input = {})
    (hgiven : Given held .starved input)
    (hfinish : Stretch ({ c with input }.finish intake) asked (Program.done ())) :
    ∃ all, List.Forall₂ (c.Serves intake) (LineStream.events stream) all ∧
      dealings (es ++ (c.reading settings time .ended ++ asked)) = all.flatten ∧
      readings (es ++ (c.reading settings time .ended ++ asked)) = readings es ++ [.ended] := by
  rw [(h.taken hc).ended hgiven, ← List.append_assoc]
  rcases finish_cases hfinish with ⟨hlast, rfl⟩ | ⟨line, hlast, hserves⟩
  · change input.last? = none at hlast
    rw [hlast, List.append_nil]
    refine ⟨sections, ?_, by rw [dealings_reading, h.dealings_eq], readings_reading _ _ _ _ _⟩
    show List.Forall₂ _ (events ++ []) sections
    rw [List.append_nil]
    exact h.serves
  · change input.last? = some line at hlast
    rw [hlast]
    refine ⟨sections ++ [asked], List.rel_append h.serves (.cons hserves .nil), ?_, ?_⟩
    · rw [Serves.dealings_append hserves, dealings_reading, h.dealings_eq, List.flatten_append,
        List.flatten_singleton]
    · rw [Serves.readings_append hserves, readings_reading]

/-- **A connection that has read a stream up to its end has dealt with each event of the stream**,
in their order, and with nothing else. -/
theorem conversation {index : Nat} {client : String} {reads : List (List UInt8)}
    {reply : Option Reply}
    (h : Course intake (Program.done (.again (.connection { index, client }))) asked
      (Program.done (.ended reply)))
    (hreads : readings asked = reads.map .bytes ++ [.ended]) :
    ∃ sections, List.Forall₂ (({ index, client } : Connection).Serves intake)
      (LineStream.events reads.flatten) sections ∧ dealings asked = sections.flatten := by
  obtain ⟨past, now, stream, events, sections, held, rfl, hpast, hwithin⟩ := course_rounds h
  generalize hp : (Program.done (.ended reply) : Work RoundEnd) = p at hwithin
  cases hwithin with
  | beginning => cases hp
  | @acting _ q hq =>
    cases q with
    | ask => cases hp
    | done next =>
      cases next with
      | some => cases hp
      | none =>
        obtain ⟨brought, hbrought, rfl⟩ := hpast.readings_eq
        cases round_of_stretch hq with
        | ended hgiven hfinish =>
          obtain ⟨all, hserves, hdealings, hall⟩ := hpast.ended rfl hgiven hfinish
          have hsame := (List.append_inj' (hall.symm.trans hreads) rfl).1
          rw [hbrought] at hsame
          have hinj : Function.Injective Incoming.bytes := fun _ _ heq => Incoming.bytes.inj heq
          obtain rfl := List.map_injective_iff.mpr hinj hsame
          exact ⟨all, hserves, hdealings⟩
        | dropped hgiven hincoming =>
          rw [readings_reading] at hreads
          have hlast := List.singleton_inj.mp (List.append_inj' hreads rfl).2
          rw [hlast] at hincoming
          rcases hincoming with h | h <;> cases h

/-! ## The end of a conversation -/

/-- A worker that comes to its end after finitely many questions, whatever it is answered, as long
as its readings bring the bytes that are still unread and then the end of the stream. -/
inductive Ends (intake : Intake) : List UInt8 → Work RoundEnd → Prop where
  | ended {unread reply} : Ends intake unread (Program.done (.ended reply))
  | again {unread worker} : Ends intake unread (worker.round intake) →
      Ends intake unread (Program.done (.again worker))
  | answered {unread op next} : op.isRead = false →
      (∀ a q, Resumes op (next a) q → Ends intake unread q) →
      Ends intake unread (Program.ask op next)
  | read {unread index deadline next} :
      (∀ bytes rest, bytes ≠ [] → unread = bytes ++ rest → Ends intake rest (next (.bytes bytes))) →
      (unread = [] → Ends intake [] (next .ended)) →
      Ends intake unread (Program.ask (.read index deadline) next)

variable {unread : List UInt8}

theorem Ends.question {op : Action} {next : op.Answer → Work RoundEnd} (hop : op.isRead = false)
    (hexchanges : op.exchanges = false) (h : ∀ a, Ends intake unread (next a)) :
    Ends intake unread (Program.ask op next) := by
  refine .answered hop fun a q hr => ?_
  rw [hr.eq hexchanges]
  exact h a

/-- What reads nothing comes to its end. -/
theorem Ends.bind {α : Type} {p : Work α} {k : α → Work RoundEnd}
    (hp : p.Along (fun op : Action => op.isRead = false) fun _ => True)
    (hk : ∀ a, Ends intake unread (k a)) : Ends intake unread (p.bind k) := by
  induction p with
  | done a => exact hk a
  | ask op next ih =>
    refine .answered hp.1 fun a q hr => ?_
    have hnext := ih a (hp.2 a)
    cases hr with
    | now => exact hnext
    | later time => exact .question rfl rfl fun _ => hnext

/-- **The connection of a client that sends a stream and then ends it comes to its end.** -/
theorem ends_again (c : Connection) (intake : Intake) (unread : List UInt8) :
    Ends intake unread (Program.done (.again (.connection c))) := by
  have hserve : ∀ (c : Connection) event, (c.serve intake event).Along
      (fun op : Action => op.isRead = false) fun _ => True := fun c event =>
    (along_serve c intake event).mono (fun _ hop => hop.1.2) fun _ h => h
  generalize hn : 3 * unread.length + c.input.weight = n
  induction n using Nat.strongRecOn generalizing c unread with
  | _ n ih =>
    subst hn
    obtain ⟨event, input, hnext⟩ : ∃ event input, c.input.next = (event, input) := ⟨_, _, rfl⟩
    have hgiven := LineStream.given_of_next hnext
    refine .again ?_
    show Ends intake unread ((c.round intake).bind ends)
    by_cases hevent : event = .starved
    · subst hevent
      rw [round_starved hnext, readMore_eq]
      refine .question rfl rfl fun settings => .question rfl rfl fun time => .read ?_ ?_
      · rintro bytes rest hne rfl
        refine ih _ ?_ { c with input := input.feed bytes } rest rfl
        have hweight := hgiven.weight_le
        have hlength := List.length_pos_iff.mpr hne
        rw [LineStream.weight_feed, List.length_append]
        omega
      · intro _
        show Ends intake [] (((Connection.serve _ intake _).bind _).bind ends)
        rw [Program.bind_assoc]
        exact .bind (hserve _ _) fun _ => .ended
    · rw [round_event hnext hevent, Program.bind_assoc]
      refine .bind (hserve c event) fun _ => ?_
      refine ih _ ?_ { c with input } unread rfl
      have hweight := hgiven.weight_lt hevent
      show 3 * unread.length + input.weight < 3 * unread.length + c.input.weight
      omega

end Connection

/-! ## Conversations in runs -/

namespace World

/-- In some run, the connection of a client has read these pieces of a stream and its end, and is
gone; and with what it was answered. -/
def Conversed (intake : Intake) (index : Nat) (client : String) (reads : List (List UInt8))
    (asked : List Answered) : Prop :=
  ∃ (w w' : World) (es : List Event) (t : Task), Numbered w ∧ w.intake = intake ∧ Run w es w' ∧
    t ∈ w.tasks ∧ t.program = Program.done (.again (.connection { index, client })) ∧
    (∀ u ∈ w'.tasks, u.id ≠ t.id) ∧ asked = own t.id es ∧
    Connection.readings asked = reads.map .bytes ++ [.ended]

variable {intake : Intake} {index : Nat} {client : String} {reads : List (List UInt8)}
  {asked : List Answered}

theorem Conversed.sections (h : Conversed intake index client reads asked) :
    ∃ sections, List.Forall₂ (({ index, client } : Connection).Serves intake)
      (LineStream.events reads.flatten) sections ∧
      Connection.dealings asked = sections.flatten := by
  obtain ⟨w, w', es, t, hn, rfl, hrun, ht, hp, hgone, rfl, hreads⟩ := h
  obtain ⟨p, hcourse, -, hend⟩ := hrun.course hn ht
  obtain ⟨reply, rfl⟩ := hend hgone
  rw [hp] at hcourse
  exact Connection.conversation hcourse hreads

end World

end ChillerGateway
