import ChillerGateway.Proofs.Gateway.Balance
import ChillerGateway.Proofs.Gateway.Books
import ChillerGateway.Proofs.Metrics.Tally
import Mathlib.Algebra.BigOperators.Group.List.Basic
import Mathlib.Algebra.Order.BigOperators.Group.List

/-!
# The accounts of a gateway

What a gateway has measured is the tally of all that its workers have counted.  Each of them counts
what it replies to, so the metrics account for the replies of the whole gateway, but for those to
messages over the size limit, which nobody counts.

* `World.Run.tallied` — the metrics are the tally of a run.
* `World.OverConnections` — runs in which lines come over connections only.
* `Balanced.of_own` — what balances for each worker balances for the run.
* `World.replies_accounted` — the metrics and the replies of a run.
-/

namespace ChillerGateway

/-- Whether a task is a connection that is busy. -/
def Task.isBusy (t : Task) : Bool :=
  match t.role with
  | .connection _ => Work.isBusy t.program
  | _ => false

/-- What balances for each worker balances for all of them together. -/
theorem Balanced.of_own {tasks : List Nat} {es : List Event} {late lateErrors : Nat → Nat}
    (htasks : tasks.Nodup) (hall : ∀ x ∈ es, x.task ∈ tasks)
    (h : ∀ t ∈ tasks, Balanced (own t es) (late t) (lateErrors t)) :
    Balanced (es.map Event.asked) (tasks.map late).sum (tasks.map lateErrors).sum := by
  have hsum : ∀ p : Answered → Bool,
      (es.map Event.asked).countP p = (tasks.map fun t => (own t es).countP p).sum := by
    intro p
    rw [List.countP_map]
    exact (sum_countP_own htasks fun x hx _ => hall x hx).symm
  refine ⟨?_, ?_, ?_⟩
  · rw [hsum, hsum, ← List.sum_map_add]
    exact congrArg List.sum (List.map_congr_left fun t ht => (h t ht).commands)
  · rw [hsum, hsum, hsum, ← List.sum_map_add, ← List.sum_map_add]
    exact congrArg List.sum (List.map_congr_left fun t ht => (h t ht).errors)
  · rw [hsum, List.map_congr_left fun t ht => (h t ht).known]
    exact List.sum_eq_zero fun n hn => by
      obtain ⟨_, -, rfl⟩ := List.mem_map.mp hn
      rfl

namespace World

variable {v w w' : World} {es : List Event} {e : Option Event} {task : Nat}

/-! ## What is measured -/

theorem Step.metrics_quiet (h : Step w none w') : w'.metrics = w.metrics := by
  cases h.revised with
  | same hbooks => exact congrArg Books.metrics hbooks
  | registered id device heq | reloaded settings heq | clocked time heq =>
    subst heq
    rfl

/-- What is counted is added to what was measured. -/
theorem Step.tallied {m : Metrics} {names kinds : List String} (h : Step w e w')
    (hm : w.metrics = some m) (ht : m.Tallies names kinds) :
    ∃ m', w'.metrics = some m' ∧
      m'.Tallies (names ++ successes (e.toList.map Event.asked))
        (kinds ++ failures (e.toList.map Event.asked)) := by
  cases e with
  | none =>
    rw [Option.toList_none]
    refine ⟨m, h.metrics_quiet.trans hm, ?_⟩
    show m.Tallies (names ++ []) (kinds ++ [])
    rwa [List.append_nil, List.append_nil]
  | some x =>
    have hmetrics : w'.metrics = (w.books.after x.asked.op).metrics :=
      congrArg Books.metrics h.books
    obtain ⟨task, op, a⟩ := x
    cases op with
    | countCommand name status began =>
      refine ⟨_, hmetrics.trans (congrArg (Option.map _) hm), ?_⟩
      show Metrics.Tallies _ (names ++ [name]) (kinds ++ [])
      rw [List.append_nil]
      cases status with
      | none => exact ht.recordCommand name _
      | some status => exact (ht.recordCommand name _).cacheStatus status
    | countError kind =>
      refine ⟨_, hmetrics.trans (congrArg (Option.map _) hm), ?_⟩
      show Metrics.Tallies _ (names ++ []) (kinds ++ [kind])
      rw [List.append_nil]
      exact ht.recordError kind
    | _ =>
      refine ⟨m, hmetrics.trans hm, ?_⟩
      show m.Tallies (names ++ []) (kinds ++ [])
      rwa [List.append_nil, List.append_nil]

/-- **The metrics are the tally of what was counted in a run.** -/
theorem Run.tallied (h : Run v es w) (hv : v.metrics = some {}) : ∃ m, w.metrics = some m ∧
    m.Tallies (successes (es.map Event.asked)) (failures (es.map Event.asked)) := by
  induction h with
  | start => exact ⟨{}, hv, .none⟩
  | step _ hs ih =>
    obtain ⟨m, hm, ht⟩ := ih
    rw [List.map_append, successes_append, failures_append]
    exact hs.tallied hm ht

/-! ## Who counts -/

/-- Lines come over connections only: no worker has a line of its own to handle. -/
def OverConnections (w : World) (_ : Option Event) (_ : World) : Prop :=
  ∀ t ∈ w.tasks, t.role ≠ .request

/-- A worker keeps its role. -/
theorem Started.role {worker : Worker} {t : Task} (h : Started v es w t.id worker) (hv : Numbered v)
    (ht : t ∈ w.tasks) : worker.role = t.role := by
  obtain ⟨before, after, u, rfl, hbefore, -, hu, hafter⟩ := h
  have hn := hbefore.numbered hv
  rcases hafter.follows hn hu with ⟨p, hp, -⟩ | ⟨-, -, hgone⟩
  · exact congrArg Task.role ((hafter.numbered hn).eq_of_id hp ht rfl)
  · exact absurd rfl (hgone t ht)

/-- Whoever is told something in a run over connections is the operator, or it serves a connection or
works in the background. -/
theorem RunBy.worker_of_mem (h : RunBy OverConnections v es w) (hv : Fresh v) :
    ∀ x ∈ es, x.task = operator ∨
      ∃ worker : Worker, worker.role ≠ .request ∧ Started v es w x.task worker := by
  induction h with
  | start => exact fun x hx => by cases hx
  | @step es e u u' hr hs hC ih =>
    rw [List.forall_mem_append]
    refine ⟨fun x hx => ?_, fun x hx => ?_⟩
    · exact (ih x hx).imp_right fun ⟨worker, hrole, hstarted⟩ =>
        ⟨worker, hrole, hstarted.step hs⟩
    · obtain rfl := Option.mem_toList.mp hx
      refine hs.told.2.imp_right fun ⟨t, ht, hid, _⟩ => ?_
      obtain ⟨worker, -, hstarted⟩ := hr.run.started hv t ht
      refine ⟨worker, ?_, hid ▸ hstarted.step hs⟩
      rw [hstarted.role hv.numbered ht]
      exact hC t ht

/-- **The history of each worker balances**, but for what it is busy with. -/
theorem Started.balanced {worker : Worker} (h : Started v es w task worker) (hv : Numbered v)
    (hrole : worker.role ≠ .request) : ∃ late lateErrors, Balanced (own task es) late lateErrors ∧
      late + lateErrors ≤ w.tasks.countP fun t => decide (t.id = task) && t.isBusy := by
  obtain ⟨before, after, u, rfl, hbefore, hown, hu, hafter⟩ := h
  have hn := hbefore.numbered hv
  rw [own_append, hown, List.nil_append]
  cases worker with
  | request => exact absurd rfl hrole
  | ticker | watchdog =>
    obtain ⟨p, hcourse, -⟩ := hafter.course hn hu
    exact ⟨0, 0, Worker.unaccounted_course rfl hcourse, Nat.zero_le _⟩
  | connection c =>
    rcases hafter.follows hn hu with ⟨p, hp, hcourse⟩ | ⟨reply, hcourse, -⟩
    · obtain ⟨late, lateErrors, hbalanced, hle⟩ := Connection.balanced_course hcourse
      refine ⟨late, lateErrors, hbalanced, hle.trans ?_⟩
      split
      · rename_i hbusy
        refine List.countP_pos_iff.mpr ⟨_, hp, ?_⟩
        rw [Bool.and_eq_true]
        exact ⟨decide_eq_true rfl, hbusy⟩
      · exact Nat.zero_le _
    · obtain ⟨late, lateErrors, hbalanced, hle⟩ := Connection.balanced_course hcourse
      exact ⟨late, lateErrors, hbalanced, hle.trans (Nat.zero_le _)⟩

/-- What is counted in a run agrees with its replies, but for what its connections are busy with. -/
theorem RunBy.balanced (h : RunBy OverConnections v es w) (hv : Fresh v)
    (hop : ∀ x ∈ es, x.task = operator → x.asked.op.accounts = false) :
    ∃ late lateErrors, Balanced (es.map Event.asked) late lateErrors ∧
      late + lateErrors ≤ w.tasks.countP Task.isBusy := by
  have heach : ∀ task, ∃ late lateErrors, Balanced (own task es) late lateErrors ∧
      late + lateErrors ≤ w.tasks.countP fun t => decide (t.id = task) && t.isBusy := by
    intro task
    by_cases hmine : ∃ x ∈ es, x.task = task
    · obtain ⟨x, hx, rfl⟩ := hmine
      rcases h.worker_of_mem hv x hx with hoperator | ⟨worker, hrole, hstarted⟩
      · refine ⟨0, 0, .of_quiet fun y hy => ?_, Nat.zero_le _⟩
        obtain ⟨event, hevent, rfl⟩ := List.mem_map.mp hy
        obtain ⟨hmem, htask⟩ := List.mem_filter.mp hevent
        exact hop event hmem ((of_decide_eq_true htask).trans hoperator)
      · exact hstarted.balanced hv.numbered hrole
    · rw [own_eq_nil fun x hx hid => hmine ⟨x, hx, hid⟩]
      exact ⟨0, 0, .nil, Nat.zero_le _⟩
  choose late lateErrors hbalanced hle using heach
  -- All numbers that were given out, whoever had them: the others were told nothing.
  have htasks : (List.range w.nextTask).Nodup := List.nodup_range
  have hall : ∀ x ∈ es, x.task ∈ List.range w.nextTask :=
    fun x hx => List.mem_range.mpr (h.run.known hv.numbered x hx)
  refine ⟨_, _, .of_own htasks hall fun t _ => hbalanced t, ?_⟩
  rw [← List.sum_map_add]
  exact (List.sum_le_sum fun t _ => hle t).trans (sum_countP_le htasks Task.id _ _)

/-- **The metrics account for every reply but those to messages over the size limit.**  In any run
over connections, the ok replies are as many as the commands that were counted, which are as many as
the latencies, and the other replies are as many as the failures that were counted and the messages
that were too large: but for one line of each connection that is busy, which may have been counted
before its reply.  Commands are counted under names that there are. -/
theorem replies_accounted {auth : Option String} {settings : Settings} {device : Device}
    {remark : String → String}
    (h : RunBy OverConnections (start auth settings (some {}) device remark) es w)
    (hop : ∀ x ∈ es, x.task = operator → x.asked.op.accounts = false) :
    ∃ m late lateErrors, w.metrics = some m ∧
      m.commands.total = es.countP (·.asked.repliesWith Reply.isOk) + late ∧
      m.latency.count = m.commands.total ∧
      m.errors.total + es.countP (·.asked.repliesWith Reply.isTooLarge) =
        es.countP (·.asked.repliesWith Reply.isError) + lateErrors ∧
      late + lateErrors ≤ w.tasks.countP Task.isBusy ∧
      ∀ label ∈ m.commands.map Prod.fst, label ∈ Gateway.knownNames := by
  obtain ⟨m, hm, htallies⟩ := h.run.tallied rfl
  obtain ⟨late, lateErrors, ⟨hcommands, herrors, hknown⟩, hle⟩ :=
    h.balanced (fresh_start auth settings (some {}) device remark) hop
  rw [countP_succeeds, List.countP_map] at hcommands
  rw [countP_fails, List.countP_map, List.countP_map] at herrors
  have htotal : m.commands.total = _ :=
    (congrArg Counts.total htallies.commands).trans (Counts.total_tally _)
  refine ⟨m, late, lateErrors, hm, htotal.trans hcommands, htallies.latencies.trans htotal.symm,
    ?_, hle, fun label hlabel => ?_⟩
  · rw [htallies.errors, Counts.total_tally]
    exact herrors
  · rw [htallies.commands] at hlabel
    obtain ⟨x, hx, hname⟩ := List.mem_filterMap.mp (Counts.mem_of_mem_tally hlabel)
    by_contra hnot
    refine (List.countP_eq_zero.mp hknown) x hx ?_
    unfold Answered.isUnknown
    rw [hname]
    exact decide_eq_true hnot

/-! ### A gateway by itself -/

theorem roles_setProgram {me : Nat} {p : Work RoundEnd} (h : ∀ t ∈ w.tasks, t.role ≠ .request) :
    ∀ t ∈ (w.setProgram me p).tasks, t.role ≠ .request := by
  intro t ht
  obtain ⟨u, hu, rfl⟩ := List.mem_map.mp ht
  split
  · exact h u hu
  · exact h u hu

/-- No turn of a worker starts a request. -/
theorem roles_turn (h : ∀ t ∈ w.tasks, t.role ≠ .request) (t : Task) :
    ∀ u ∈ (w.turn t).tasks, u.role ≠ .request := by
  unfold World.turn
  split
  · rename_i reply _
    intro u hu
    refine h u ?_
    unfold World.finish at hu
    split at hu
    all_goals exact List.mem_of_mem_filter hu
  · exact roles_setProgram h
  · rename_i op next _
    have hact : ∀ u ∈ (w.act t.id op).world.tasks, u.role ≠ .request := by
      rcases act_tasks w t.id op with hsame | ⟨device, schedule, rfl⟩
      · rwa [hsame]
      · refine List.forall_mem_append.mpr ⟨h, List.forall_mem_singleton.mpr ?_⟩
        exact Role.noConfusion
    cases hw : w.act t.id op with
    | answered a v | later time a v =>
      rw [hw] at hact
      exact roles_setProgram hact
    | wait cause deadline v =>
      rw [hw] at hact
      exact hact

/-- A gateway with metrics. -/
def measured : World := start none {} (some {}) (.simulated { bath := {} })

/-- It has one client, with these bytes and replies to and from it, and one worker for it. -/
def measuring (p : Work RoundEnd) (inbox : List UInt8) (outbox : List Reply) : World :=
  { measured with
    clients := #[{ inbox, outbox }]
    active := 1
    tasks := [⟨1, .connection 0, p⟩]
    nextTask := 2
    ready := [1] }

/-- The worker for the client, when there are bytes that came in. -/
def measurer (buffer : List UInt8) (discarding : Bool) : Work RoundEnd :=
  Program.done (.again (.connection { index := 0, client := "a", input := { buffer, discarding } }))

theorem measuring_overConnections {p : Work RoundEnd} {inbox : List UInt8} {outbox : List Reply} :
    ∀ t ∈ (measuring p inbox outbox).tasks, t.role ≠ .request :=
  List.forall_mem_singleton.mpr Role.noConfusion

/-- A client comes and sends something. -/
theorem run_measured (bytes : List UInt8) :
    RunBy OverConnections measured [] (measuring (measurer [] false) bytes []) := by
  have hopened : measured.openConnection? "a" = some (0, measuring (measurer [] false) [] []) := rfl
  have hnone : OverConnections measured none (measuring (measurer [] false) [] []) :=
    fun t ht => by cases ht
  exact (RunBy.start.step (.control (.openConnection hopened)) hnone).step
    (.control (.deliver 0 bytes)) measuring_overConnections

/-- The worker is answered at once. -/
theorem run_asked (op : Action) {next : op.Answer → Work RoundEnd} {a : op.Answer}
    {inbox left : List UInt8} {outbox sent : List Reply}
    (h : (measuring (Program.ask op next) inbox outbox).act 1 op =
      .answered a (measuring (Program.ask op next) left sent)) :
    RunBy OverConnections (measuring (Program.ask op next) inbox outbox) [⟨1, op, a⟩]
      (measuring (next a) left sent) := by
  have hturn := Step.turn (w := measuring (Program.ask op next) inbox outbox)
    (t := ⟨1, .connection 0, Program.ask op next⟩) (List.mem_singleton_self _)
    (List.mem_singleton_self _)
  have htells : (measuring (Program.ask op next) inbox outbox).tells
      ⟨1, .connection 0, Program.ask op next⟩ = some ⟨1, op, a⟩ := by
    show Option.map _ (Outcome.answer? _) = _
    rw [h]
    rfl
  have hworld : (measuring (Program.ask op next) inbox outbox).turn
      ⟨1, .connection 0, Program.ask op next⟩ = measuring (next a) left sent := by
    unfold World.turn
    simp only [h]
    rfl
  rw [htells, hworld] at hturn
  exact .single hturn measuring_overConnections

/-- The worker begins a round. -/
theorem run_round (buffer : List UInt8) (inbox : List UInt8) :
    RunBy OverConnections (measuring (measurer buffer false) inbox [])
      []
      (measuring ((Worker.connection { index := 0, client := "a", input := { buffer } }).round {})
        inbox []) :=
  .single (.turn (t := ⟨1, .connection 0, measurer buffer false⟩) (List.mem_singleton_self _)
    (List.mem_singleton_self _)) measuring_overConnections

/-- It reads what its client has sent. -/
theorem run_reading (b : UInt8) (bs : List UInt8) :
    RunBy OverConnections (measuring (measurer [] false) (b :: bs) [])
      [⟨1, .settings, ({} : Settings)⟩, ⟨1, .now, (0 : Nat)⟩, ⟨1, .read 0 none, .bytes (b :: bs)⟩]
      (measuring (measurer (b :: bs) false) [] []) := by
  have hsettings := (run_round [] (b :: bs)).trans (run_asked .settings rfl)
  have hnow := hsettings.trans (run_asked .now rfl)
  exact hnow.trans (run_asked (.read 0 none) rfl)

/-- It replies to a message over the size limit. -/
theorem run_overlong {buffer : List UInt8}
    (h : ({ buffer } : LineStream).next = (.oversized, ⟨buffer, true⟩)) :
    RunBy OverConnections (measuring (measurer buffer false) [] [])
      [⟨1, .reply 0 .tooLarge, ()⟩] (measuring (measurer buffer true) [] [.tooLarge]) := by
  have hround : (Worker.connection { index := 0, client := "a", input := { buffer } }).round {} =
      (Program.ask (.reply 0 .tooLarge) fun _ => measurer buffer true : Work RoundEnd) := by
    show (Connection.round _ {}).bind _ = _
    rw [Connection.round_event h LineStream.Event.noConfusion]
    rfl
  have hbegun := run_round buffer []
  rw [hround] at hbegun
  exact hbegun.trans (run_asked _ rfl)

/-- **A message over the size limit is replied to and not counted.** -/
theorem overlong_uncounted : ∃ es w m, RunBy OverConnections measured es w ∧
    (∀ x ∈ es, x.task = operator → x.asked.op.accounts = false) ∧
    Connection.received (own 1 es) = List.replicate (LineStream.maxLine + 1) 120 ∧
    w.tasks.countP Task.isBusy = 0 ∧ w.metrics = some m ∧
    ¬ m.errors.total = es.countP (·.asked.repliesWith Reply.isError) := by
  -- The stream stays closed, so that nothing below computes with its million bytes.
  obtain ⟨rest, hrest⟩ : ∃ rest, rest = List.replicate LineStream.maxLine (120 : UInt8) := ⟨_, rfl⟩
  have hline : (120 : UInt8) :: rest = List.replicate (LineStream.maxLine + 1) 120 := by
    rw [hrest, List.replicate_succ]
  have hover : ({ buffer := 120 :: rest } : LineStream).next = (.oversized, ⟨120 :: rest, true⟩) := by
    have hnone : LineStream.lineFeed ∉ (120 : UInt8) :: rest := by
      rw [hline]
      exact fun hmem => absurd (List.eq_of_mem_replicate hmem) (by decide)
    have hlong : LineStream.maxLine < ((120 : UInt8) :: rest).length := by
      rw [hline, List.length_replicate]
      exact Nat.lt_succ_self _
    have hnext := LineStream.nextLine_over hnone hlong []
    rwa [List.append_nil] at hnext
  have hrun := ((run_measured (120 :: rest)).trans (run_reading 120 rest)).trans (run_overlong hover)
  refine ⟨_, _, {}, hrun, fun x hx hoperator => ?_, ?_, rfl, rfl, Nat.noConfusion⟩
  · simp only [List.nil_append, List.cons_append, List.mem_cons, List.not_mem_nil, or_false] at hx
    rcases hx with rfl | rfl | rfl | rfl <;> cases hoperator
  · show (120 :: rest) ++ [] = _
    rw [List.append_nil, hline]

/-- A line that is no request, and then a request. -/
def pinging : List UInt8 := Text.toBytes "x\n\x7b\"command\":\"ping\"\x7d\n"

/-- What comes of them. -/
def pinged : List Event × World := played 30 (measuring (measurer [] false) pinging [])

/-- The request is counted as a command, and the other line as a failure. -/
theorem replies_accounted_ping : ∃ es w m, RunBy OverConnections measured es w ∧
    (∀ x ∈ es, x.task = operator → x.asked.op.accounts = false) ∧
    Connection.received (own 1 es) = pinging ∧ w.metrics = some m ∧
    m.commands.total = 1 ∧ m.latency.count = 1 ∧ m.errors.total = 1 := by
  have hplayed : RunBy OverConnections (measuring (measurer [] false) pinging []) pinged.1 pinged.2 :=
    played_runBy (P := fun u => ∀ t ∈ u.tasks, t.role ≠ .request) (fun _ t hu => roles_turn hu t)
      (fun _ _ hu => hu) (fun _ _ hu => hu) 30 measuring_overConnections
  have hrun : RunBy OverConnections measured pinged.1 pinged.2 := (run_measured pinging).trans hplayed
  obtain ⟨htasks, hidle, hreceived, hok, herror, hlarge⟩ : (∀ x ∈ pinged.1, x.task = 1) ∧
      pinged.2.tasks.countP Task.isBusy = 0 ∧ Connection.received (own 1 pinged.1) = pinging ∧
      pinged.1.countP (·.asked.repliesWith Reply.isOk) = 1 ∧
      pinged.1.countP (·.asked.repliesWith Reply.isError) = 1 ∧
      pinged.1.countP (·.asked.repliesWith Reply.isTooLarge) = 0 := by decide +kernel
  have hop : ∀ x ∈ pinged.1, x.task = operator → x.asked.op.accounts = false :=
    fun x hx hoperator => by cases (htasks x hx).symm.trans hoperator
  obtain ⟨m, late, lateErrors, hm, hcommands, hlatency, herrors, hle, -⟩ := replies_accounted hrun hop
  rw [hidle] at hle
  rw [hok] at hcommands
  rw [herror, hlarge] at herrors
  exact ⟨_, _, m, hrun, hop, hreceived, hm, by omega, by omega, by omega⟩

end World

end ChillerGateway
