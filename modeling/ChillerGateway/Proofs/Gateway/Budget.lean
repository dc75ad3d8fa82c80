import ChillerGateway.Proofs.Gateway.Messages
import ChillerGateway.Proofs.Gateway.Metered
import ChillerGateway.Proofs.Gateway.Sections
import Mathlib.Algebra.BigOperators.Group.List.Basic
import Mathlib.Algebra.Order.BigOperators.Group.List

/-!
# The budget of a client

All connections of a client share its limit, and each line counts against it before anything else is
done.  What a client hears beside the refusal of its lines is therefore bounded, but for the replies to
what is no line: these are given without being counted.

* `Answered.isSpoken` — the replies that are not such a refusal.
* `LineStream.strays`, `LineStream.requests` — the messages of a stream that are no lines, and the
  lines.
* `Connection.spoken_le`, `World.Started.spoken_eq` — what is said on one connection.
* `World.budget_kept` — what is said to a client within a window.
* `World.stray_uncounted` — two replies to a client that may have one.
-/

namespace ChillerGateway

open Work (Stretch)

/-! ## What counts -/

namespace Answered

/-- Whether a reply was sent that is not the refusal of a client over its limit. -/
def isSpoken : Answered → Bool := repliesWith fun reply => !reply.isLimit

theorem deals_isSpoken : Deals isSpoken := deals_repliesWith _

theorem deals_asks (client : String) : Deals (asks client) := by
  rintro ⟨op, a⟩ h
  cases op with
  | countRequest => rfl
  | _ => cases h

theorem deals_isAdmitted (client : String) : Deals (isAdmitted client) :=
  fun x hx => deals_asks client x (asks_of_isAdmitted hx)

end Answered

namespace LineStream

/-- Whether an event is a message that is no text, or too much of it. -/
def Event.isStray : Event → Bool
  | .oversized | .unreadable => true
  | _ => false

/-- Whether an event is a line that is not blank. -/
def Event.isRequest : Event → Bool
  | .line text => !(Text.trim text).isEmpty
  | _ => false

theorem isRequest_line (text : String) :
    (Event.line text).isRequest = !(Text.trim text).isEmpty := rfl

/-- How many messages of a stream are no text, or too much of it. -/
def strays (stream : List UInt8) : Nat := (events stream).countP Event.isStray

/-- How many lines of a stream are not blank. -/
def requests (stream : List UInt8) : Nat := (events stream).countP Event.isRequest

end LineStream

/-! ## One event of a stream -/

theorem Work.Stretch.countP_isSpoken {limited : Bool} {intake : Intake} {line client : String}
    {es : List Answered} {q : Work (Except Error Json)}
    (h : Stretch (Gateway.handling limited intake line client) es q) :
    es.countP Answered.isSpoken = 0 := Gateway.countP_repliesWith_handling h _

namespace Gateway.Limited

variable {client : String} {es rest : List Answered} {result : Except Error Json} {allowed : Bool}

theorem countP_asks (h : Gateway.Limited client es result allowed rest) :
    es.countP (Answered.asks client) = 1 := by
  have hrest : rest.countP (Answered.asks client) = 0 :=
    countP_eq_zero_of fun x hx => Answered.asks_of_not_limits (h.once x hx)
  have hcounted : Answered.asks client ⟨.countRequest client, allowed⟩ = true :=
    beq_self_eq_true client
  rw [h.counted, List.countP_cons_of_pos hcounted, hrest]

theorem countP_isAdmitted (h : Gateway.Limited client es result allowed rest) :
    es.countP (Answered.isAdmitted client) = if allowed then 1 else 0 := by
  have hrest : rest.countP (Answered.isAdmitted client) = 0 :=
    countP_eq_zero_of fun x hx => Answered.isAdmitted_of_not_limits (h.once x hx)
  have hcounted : Answered.isAdmitted client ⟨.countRequest client, allowed⟩ = allowed := by
    show (client == client && allowed) = allowed
    rw [beq_self_eq_true, Bool.true_and]
  rw [h.counted, List.countP_cons, hrest, hcounted, Nat.zero_add]

end Gateway.Limited

namespace Connection

variable {c : Connection} {intake : Intake} {event : LineStream.Event} {all : Bool}
  {asked : List Answered}

theorem isSpoken_ofResult (index : Nat) (result : Except Error Json) :
    Answered.isSpoken ⟨.reply index (.ofResult result), ()⟩ = true ↔ Unlimited result := by
  show (!(Reply.ofResult result).isLimit) = true ↔ ¬ result = .error .rateLimited
  rw [Bool.not_eq_true', ← Reply.isLimit_ofResult, Bool.not_eq_true]

theorem isSpoken_tooLarge (index : Nat) :
    Answered.isSpoken ⟨.reply index .tooLarge, ()⟩ = true := by
  show (!Reply.tooLarge.isLimit) = true
  decide

/-- More is said to a client than the refusal of its lines only to a line within its limit, or to
what is no line. -/
theorem Treats.spoken_le (h : c.Treats intake event asked all) :
    asked.countP Answered.isSpoken ≤
      asked.countP (Answered.isAdmitted c.client) + if event.isStray then 1 else 0 := by
  cases h with
  | waiting | starved | blank => exact Nat.zero_le _
  | tooLarge => exact List.countP_le_length
  | noted => exact Nat.zero_le _
  | unreadable =>
    rw [List.countP_cons_of_neg Bool.false_ne_true]
    exact List.countP_le_length
  | handling _ hs => exact (hs.countP_isSpoken).trans_le (Nat.zero_le _)
  | @answered line asked result _ hs =>
    obtain ⟨allowed, rest, hlimited⟩ := Gateway.limited_handling hs
    rw [List.countP_append, List.countP_append, hs.countP_isSpoken, Nat.zero_add,
      hlimited.countP_isAdmitted]
    cases allowed with
    | true => exact List.countP_le_length.trans (Nat.le_add_right 1 _)
    | false =>
      have hrefusal : Answered.isSpoken ⟨.reply c.index (.ofResult result), ()⟩ ≠ true :=
        fun hspoken => (isSpoken_ofResult c.index result).mp hspoken (hlimited.refused rfl)
      rw [List.countP_cons_of_neg hrefusal]
      exact Nat.zero_le _

/-- Each line is counted once, and something is said to exactly those that are within the limit. -/
theorem Treats.spoken_eq (h : c.Treats intake event asked true) (hcivil : ∀ x ∈ asked, x.Civil) :
    asked.countP Answered.isSpoken =
        (asked.countP (Answered.isAdmitted c.client) + if event.isStray then 1 else 0) ∧
      asked.countP (Answered.asks c.client) = if event.isRequest then 1 else 0 := by
  cases h with
  | starved => exact ⟨rfl, rfl⟩
  | blank hblank =>
    rw [LineStream.isRequest_line, hblank]
    exact ⟨rfl, rfl⟩
  | tooLarge =>
    have hspoken : Answered.isSpoken ⟨.reply c.index .tooLarge, ()⟩ = true := isSpoken_tooLarge _
    rw [List.countP_cons_of_pos hspoken]
    exact ⟨rfl, rfl⟩
  | unreadable =>
    have hspoken := (isSpoken_ofResult c.index (.error Connection.unreadable)).mpr
      (.error Error.noConfusion)
    rw [List.countP_cons_of_neg Bool.false_ne_true, List.countP_cons_of_pos hspoken]
    exact ⟨rfl, rfl⟩
  | @answered line asked result hline hs =>
    obtain ⟨allowed, rest, hlimited⟩ := Gateway.limited_handling hs
    have hreply : Answered.isSpoken ⟨.reply c.index (.ofResult result), ()⟩ = allowed := by
      rw [Bool.eq_iff_iff, isSpoken_ofResult]
      refine ⟨fun hspoken => ?_, fun hallowed => hlimited.served hallowed fun x hx => ?_⟩
      · exact Bool.eq_true_of_not_eq_false fun hnot => hspoken (hlimited.refused hnot)
      · exact hcivil x (List.mem_append_left _ hx)
    simp only [List.countP_append, hs.countP_isSpoken, hlimited.countP_isAdmitted,
      hlimited.countP_asks, LineStream.isRequest_line, hline, List.countP_singleton, hreply]
    exact ⟨Nat.zero_add _, rfl⟩

/-! ### A whole connection -/

open LineStream (strays requests)

variable {events : List LineStream.Event} {sections : List (List Answered)} {es : List Answered}
  {index : Nat} {client : String}

theorem sections_spoken_le (h : List.Forall₂ (c.Serves intake) events sections) :
    sections.flatten.countP Answered.isSpoken ≤
      sections.flatten.countP (Answered.isAdmitted c.client) +
        events.countP LineStream.Event.isStray := by
  induction h with
  | nil => exact Nat.zero_le _
  | @cons event asked events sections hserves _ ih =>
    have hone := hserves.treats.spoken_le
    rw [List.flatten_cons, List.countP_append, List.countP_append, List.countP_cons]
    omega

/-- What is said to a client on one connection beside the refusal of its lines: at most so much as
there are lines within its limit, and messages that are no line. -/
theorem spoken_le {p : Work RoundEnd}
    (h : Course intake (Program.done (.again (.connection { index, client }))) es p) :
    es.countP Answered.isSpoken ≤
      es.countP (Answered.isAdmitted client) + strays (received es) := by
  obtain ⟨events, sections, pending, asked, q, hsections⟩ := course_sections h
  obtain ⟨all, htreats, -⟩ := treats_of_stretch hsections.serving
  have hpast : _ ≤ sections.flatten.countP (Answered.isAdmitted client) + _ :=
    sections_spoken_le hsections.served
  have hnow : _ ≤ asked.countP (Answered.isAdmitted client) + _ := htreats.spoken_le
  have hstrays : events.countP LineStream.Event.isStray +
      (if (pending.getD .starved).isStray then 1 else 0) ≤ strays (received es) := by
    refine Nat.le_trans (Nat.le_of_eq ?_) ((hsections.ahead rfl).sublist.countP_le)
    rw [List.countP_append]
    cases pending with
    | none => rfl
    | some event => exact congrArg _ (List.countP_singleton).symm
  rw [hsections.counts _ Answered.deals_isSpoken,
    hsections.counts _ (Answered.deals_isAdmitted client)]
  omega

/-- What is said to a client on a connection that has come to its end, and how many of its lines
were counted. -/
theorem sections_spoken_eq (h : List.Forall₂ (c.Serves intake) events sections)
    (hcivil : ∀ x ∈ sections.flatten, x.Civil) :
    sections.flatten.countP Answered.isSpoken =
        sections.flatten.countP (Answered.isAdmitted c.client) +
          events.countP LineStream.Event.isStray ∧
      sections.flatten.countP (Answered.asks c.client) =
        events.countP LineStream.Event.isRequest := by
  induction h with
  | nil => exact ⟨rfl, rfl⟩
  | @cons event asked events sections hserves _ ih =>
    rw [List.flatten_cons, List.forall_mem_append] at hcivil
    obtain ⟨hspoken, hasks⟩ := hserves.treats.spoken_eq hcivil.1
    obtain ⟨hmore, hlater⟩ := ih hcivil.2
    simp only [List.flatten_cons, List.countP_append, List.countP_cons]
    omega

end Connection

namespace World

variable {v w : World} {es : List Event} {client : String}

/-! ## Connections -/

/-- No answer in a run is about a limit. -/
theorem Run.civil (h : Run v es w) : ∀ x ∈ es, x.asked.Civil := by
  intro x hx
  obtain ⟨u, -, hact⟩ := h.runBy.answered (C := fun _ => True) x hx
  obtain ⟨task, op, a⟩ := x
  cases op with
  | exchange ref op =>
    simp only [act, World.exchange] at hact
    cases hs : u.devices[ref]? with
    | none =>
      rw [hs] at hact
      cases hact
    | some slot =>
      rw [hs] at hact
      simp only at hact
      obtain rfl : (slot.device.exchange u.now op).2.1 = a := by
        split at hact <;> exact Option.some.inj hact
      exact slot.device.civil_exchange u.now op
  | _ => trivial

open Connection (received)
open LineStream (strays requests)

/-- The connection of a worker has come to the end of its stream and is gone. -/
def Finished (es : List Event) (w : World) (task : Nat) : Prop :=
  (∀ u ∈ w.tasks, u.id ≠ task) ∧
    ∃ reads : List (List UInt8), Connection.readings (own task es) = reads.map .bytes ++ [.ended]

theorem Started.conversed {index task : Nat} {reads : List (List UInt8)}
    (h : Started v es w task (.connection { index, client })) (hv : Numbered v)
    (hgone : ∀ u ∈ w.tasks, u.id ≠ task)
    (hreads : Connection.readings (own task es) = reads.map .bytes ++ [.ended]) :
    Conversed v.intake index client reads (own task es) := by
  obtain ⟨before, after, u, rfl, hbefore, hown, ht, hafter⟩ := h
  refine ⟨u, w, after, _, hbefore.numbered hv, hbefore.intake, hafter, ht, rfl, hgone, ?_, hreads⟩
  rw [own_append, hown, List.nil_append]

/-- A connection that has come to its end. -/
theorem Started.spoken_eq {index task : Nat}
    (h : Started v es w task (.connection { index, client })) (hv : Numbered v) (hrun : Run v es w)
    (hend : Finished es w task) :
    (own task es).countP Answered.isSpoken =
        (own task es).countP (Answered.isAdmitted client) + strays (received (own task es)) ∧
      (own task es).countP (Answered.asks client) = requests (received (own task es)) := by
  obtain ⟨hgone, reads, hreads⟩ := hend
  obtain ⟨sections, hserves, hdealings⟩ := (h.conversed hv hgone hreads).sections
  have hcivil : ∀ x ∈ sections.flatten, x.Civil := by
    rw [← hdealings]
    intro x hx
    obtain ⟨event, hevent, rfl⟩ := List.mem_map.mp ((Connection.dealings_sublist _).subset hx)
    exact hrun.civil event (List.mem_filter.mp hevent).1
  obtain ⟨hspoken, hasks⟩ := Connection.sections_spoken_eq hserves hcivil
  rw [← hdealings, Connection.countP_dealings Answered.deals_isSpoken,
    Connection.countP_dealings (Answered.deals_isAdmitted client)] at hspoken
  rw [← hdealings, Connection.countP_dealings (Answered.deals_asks client)] at hasks
  rw [Connection.received_of_readings hreads rfl]
  exact ⟨hspoken, hasks⟩

/-! ### All connections of a client -/

section

variable {n since : Nat} {conns : List Nat} (h : RunBy (Within client since) v es w)
  (hv : Numbered v) (hmetered : v.books.Metered) (hn : v.settings.rateLimit = some n)
  (hconns : conns.Nodup)
  (hopen : ∀ t ∈ conns, ∃ index, Started v es w t (.connection { index, client }))

include h hv hmetered hn hconns hopen

/-- What is said on each connection is bounded by what was admitted there, and what was admitted on
all of them by the limit. -/
theorem RunBy.spoken_within : (conns.map fun t => (own t es).countP Answered.isSpoken).sum ≤
    n + (conns.map fun t => strays (received (own t es))).sum := by
  have hkept := (h.budgeted hmetered hn False.elim).kept
  have hsum := sum_countP_own_le hconns (Answered.isAdmitted client) es
  have heach : (conns.map fun t => (own t es).countP Answered.isSpoken).sum ≤
      (conns.map fun t => (own t es).countP (Answered.isAdmitted client) +
        strays (received (own t es))).sum := by
    refine List.sum_le_sum fun t ht => ?_
    obtain ⟨index, hstarted⟩ := hopen t ht
    obtain ⟨p, hcourse⟩ := hstarted.course hv
    exact Connection.spoken_le hcourse
  rw [List.sum_map_add] at heach
  unfold admitted at hkept
  omega

/-- Of a client that is new, what is said is as much as is admitted, and that is all of its lines or
as many as the limit allows. -/
theorem RunBy.spoken_exactly (hnew : ∀ l ∈ v.limiter, l.queue client = [])
    (hall : ∀ x ∈ es, x.asked.op = .countRequest client → x.task ∈ conns)
    (hend : ∀ t ∈ conns, Finished es w t) :
    (conns.map fun t => (own t es).countP Answered.isSpoken).sum =
      min n (conns.map fun t => requests (received (own t es))).sum +
        (conns.map fun t => strays (received (own t es))).sum := by
  have hexact := (h.budgeted hmetered hn fun _ => hnew).exact trivial
  have hadmitted : (conns.map fun t => (own t es).countP (Answered.isAdmitted client)).sum =
      admitted client es := by
    refine sum_countP_own hconns fun x hx hcounts => hall x hx ?_
    exact Answered.op_of_asks (Answered.asks_of_isAdmitted hcounts)
  have hcounted : (conns.map fun t => (own t es).countP (Answered.asks client)).sum =
      counted client es :=
    sum_countP_own hconns fun x hx hcounts => hall x hx (Answered.op_of_asks hcounts)
  have heach : ∀ t ∈ conns, _ := fun t ht =>
    let ⟨index, hstarted⟩ := hopen t ht
    hstarted.spoken_eq hv h.run (hend t ht)
  rw [List.map_congr_left fun t ht => (heach t ht).1, List.sum_map_add, hadmitted, hexact,
    ← hcounted, List.map_congr_left fun t ht => (heach t ht).2]

end

/-- **A client hears no more than its limit allows within a window, but for what it gets to messages
that are no lines.**  On all of its connections together, the replies other than the refusal of a
client over its limit are at most as many as its limit and the messages that are too long or no text,
which are not counted.  If the client is new and its streams have come to their ends, there are exactly
so many: one to each such message, and one to each line up to the limit. -/
theorem budget_kept {auth : Option String} {settings : Settings} {metrics : Option Metrics}
    {device : Device} {remark : String → String} {earlier : List Event} {n since : Nat}
    {conns : List Nat}
    (hv : Run (start auth settings metrics device remark) earlier v)
    (hn : v.settings.rateLimit = some n) (h : RunBy (Within client since) v es w)
    (hconns : conns.Nodup)
    (hopen : ∀ t ∈ conns, ∃ index, Started v es w t (.connection { index, client })) :
    (conns.map fun t => (own t es).countP Answered.isSpoken).sum ≤
        n + (conns.map fun t => strays (received (own t es))).sum ∧
      ((∀ l ∈ v.limiter, l.queue client = []) →
        (∀ x ∈ es, x.asked.op = .countRequest client → x.task ∈ conns) →
        (∀ t ∈ conns, Finished es w t) →
        (conns.map fun t => (own t es).countP Answered.isSpoken).sum =
          min n (conns.map fun t => requests (received (own t es))).sum +
            (conns.map fun t => strays (received (own t es))).sum) := by
  have hnumbered : Numbered v := hv.numbered (numbered_start auth settings metrics device remark)
  have hmetered : v.books.Metered := hv.metered (.of_limiterFor rfl)
  refine ⟨h.spoken_within hnumbered hmetered hn hconns hopen, fun hnew hall hend => ?_⟩
  exact h.spoken_exactly hnumbered hmetered hn hconns hopen hnew hall hend

/-! ### A client by itself -/

theorem turn_wallClock (w : World) (t : Task) : (w.turn t).wallClock = w.wallClock := by
  unfold World.turn
  split
  · exact congrArg Books.wallClock (w.books_finish t _)
  · rfl
  · rename_i op next _
    have hact : (w.act t.id op).world.wallClock = w.wallClock := by
      refine (congrArg Books.wallClock (w.act_books t.id op)).trans ?_
      cases op <;> rfl
    cases hw : w.act t.id op with
    | answered a v | later time a v | wait cause deadline v =>
      rw [hw] at hact
      exact hact

variable {since : Nat}

theorem played_within (turns : Nat) (h : since ≤ w.wallClock ∧ w.wallClock < since + rateWindow) :
    RunBy (Within client since) w (played turns w).1 (played turns w).2 :=
  played_runBy_of (P := fun u => since ≤ u.wallClock ∧ u.wallClock < since + rateWindow)
    (fun u t hu => ⟨⟨congrArg _ (u.turn_settings t), (u.turn_wallClock t).ge, fun _ _ _ => hu⟩,
      (u.turn_wallClock t).symm ▸ hu⟩)
    (fun _ _ hu => ⟨⟨rfl, Nat.le_refl _, fun _ _ _ => hu⟩, hu⟩)
    (fun _ _ hu => ⟨⟨rfl, Nat.le_refl _, fun _ _ _ => hu⟩, hu⟩) turns h

/-- A gateway that allows its clients one request in a window. -/
def thrifty : World := start none { rateLimit := some 1 } none (.simulated { bath := {} })

/-- A client has come. -/
def thriftyVisited : World := ((thrifty.openConnection? "a").map Prod.snd).getD {}

/-- It sends a stream and then ends it. -/
def thriftyAfter (stream : List UInt8) : World := (thriftyVisited.deliver 0 stream).endInput 0

/-- What comes of it. -/
def thriftyRun (stream : List UInt8) : List Event × World := played 30 (thriftyAfter stream)

theorem run_thrifty (stream : List UInt8) :
    RunBy (Within "a" 0) thrifty (thriftyRun stream).1 (thriftyRun stream).2 ∧
      Started thrifty (thriftyRun stream).1 (thriftyRun stream).2 1
        (.connection { index := 0, client := "a" }) := by
  have hopened : thrifty.openConnection? "a" = some (0, thriftyVisited) := rfl
  have hquiet : ∀ {u u' : World}, u'.settings.rateLimit = u.settings.rateLimit →
      u'.wallClock = u.wallClock → Within "a" 0 u none u' :=
    fun hsettings hclock => ⟨hsettings, hclock.ge, fun x hx => by cases hx⟩
  have hopen : RunBy (Within "a" 0) thrifty [] thriftyVisited :=
    .single (.control (.openConnection hopened)) (hquiet rfl rfl)
  have hsent : RunBy (Within "a" 0) thriftyVisited [] (thriftyAfter stream) :=
    (RunBy.start.step (.control (.deliver 0 stream)) (hquiet rfl rfl)).step
      (.control (.endInput 0)) (hquiet rfl rfl)
  have hclock : 0 ≤ (thriftyAfter stream).wallClock ∧
      (thriftyAfter stream).wallClock < 0 + rateWindow := ⟨Nat.zero_le _, Nat.succ_pos _⟩
  have hplayed : RunBy (Within "a" 0) (thriftyAfter stream) _ _ := played_within 30 hclock
  have hlater := hsent.trans hplayed
  exact ⟨hopen.trans hlater, [], _, _, rfl, hopen.run, rfl, List.mem_singleton_self _, hlater.run⟩

/-- **The bound fails for messages that are no text**: two of them get an error each. -/
theorem stray_uncounted : ∃ es w, RunBy (Within "a" 0) thrifty es w ∧
    thrifty.settings.rateLimit = some 1 ∧
    Started thrifty es w 1 (.connection { index := 0, client := "a" }) ∧
    received (own 1 es) = [255, 10, 255, 10] ∧ ¬ (own 1 es).countP Answered.isSpoken ≤ 1 := by
  obtain ⟨hrun, hstarted⟩ := run_thrifty [255, 10, 255, 10]
  obtain ⟨hreceived, hspoken⟩ : received (own 1 (thriftyRun [255, 10, 255, 10]).1) =
      [255, 10, 255, 10] ∧
      (own 1 (thriftyRun [255, 10, 255, 10]).1).countP Answered.isSpoken = 2 := by decide +kernel
  exact ⟨_, _, hrun, rfl, hstarted, hreceived, by omega⟩

/-- A message that is no text, and two lines. -/
def strayed : List UInt8 := [255, 10, 120, 10, 120, 10]

/-- The message and the first line are replied to. -/
theorem budget_kept_thrifty : ∃ es w, RunBy (Within "a" 0) thrifty es w ∧
    Started thrifty es w 1 (.connection { index := 0, client := "a" }) ∧ Finished es w 1 ∧
    received (own 1 es) = strayed ∧ (own 1 es).countP Answered.isSpoken = 1 + 1 := by
  obtain ⟨hrun, hstarted⟩ := run_thrifty strayed
  obtain ⟨hreceived, hreadings, hgone, hmine, hlines, hstrays⟩ :
      received (own 1 (thriftyRun strayed).1) = strayed ∧
      Connection.readings (own 1 (thriftyRun strayed).1) = [strayed].map .bytes ++ [.ended] ∧
      (thriftyRun strayed).2.tasks.isEmpty = true ∧ (∀ x ∈ (thriftyRun strayed).1, x.task = 1) ∧
      requests strayed = 2 ∧ strays strayed = 1 := by decide +kernel
  have hend : Finished (thriftyRun strayed).1 (thriftyRun strayed).2 1 := by
    refine ⟨fun u hu => ?_, _, hreadings⟩
    rw [List.isEmpty_iff.mp hgone] at hu
    cases hu
  obtain ⟨-, hexact⟩ := budget_kept .start rfl hrun (List.nodup_singleton 1)
    (List.forall_mem_singleton.mpr ⟨0, hstarted⟩)
  have hspoken := hexact (fun l hl => by cases hl; rfl)
    (fun x hx _ => List.mem_singleton.mpr (hmine x hx)) (List.forall_mem_singleton.mpr hend)
  simp only [List.map_singleton, List.sum_singleton, hreceived, hlines, hstrays] at hspoken
  exact ⟨_, _, hrun, hstarted, hend, hreceived, hspoken⟩

end World

end ChillerGateway
