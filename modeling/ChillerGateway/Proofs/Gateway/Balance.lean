import ChillerGateway.Proofs.Gateway.Sections
import ChillerGateway.Proofs.Gateway.Successes
import ChillerGateway.Proofs.Reply

/-!
# Counts and replies

A connection counts each line that it replies to as a command or as a failure, just before the reply.
A line over the size limit is replied to without being counted.  So at any time what a connection has
counted is what it has replied, but for such lines, and for one line that it is busy with.

* `Reply.isOk`, `Reply.isError` — the two kinds of replies.
* `Balanced` — how many counts there are more than replies.
* `Connection.balanced_answered` — one line with its reply.
* `Connection.balanced_course` — the history of a connection.
* `Worker.unaccounted_course` — that of a ticker or a watchdog, which counts nothing.
-/

namespace ChillerGateway

open Work (Stretch)

namespace Reply

/-- Whether a reply tells of a success. -/
def isOk : Reply → Bool
  | .ok .. => true
  | .error .. => false

/-- Whether a reply tells of a failure. -/
def isError (reply : Reply) : Bool := !reply.isOk

end Reply

namespace Answered

/-- Whether a command was counted. -/
def succeeds (x : Answered) : Bool := x.success?.isSome

/-- Whether a failure was counted. -/
def fails (x : Answered) : Bool := x.failure?.isSome

/-- Whether a command was counted that does not exist. -/
def isUnknown (x : Answered) : Bool := x.success?.any fun name => name ∉ Gateway.knownNames

variable {x : Answered}

theorem deals_of_accounts {p : Answered → Bool}
    (h : ∀ x, x.op.accounts = false → p x = false) : Deals p := by
  intro x hx
  have hop : ¬ x.op.accounts = false := fun hnot => by cases (h x hnot).symm.trans hx
  obtain ⟨op, a⟩ := x
  cases op with
  | countCommand | countError | reply => rfl
  | _ => exact absurd rfl hop

/-- What is not accounted for counts nothing and replies nothing. -/
theorem not_counted (h : x.op.accounts = false) :
    x.succeeds = false ∧ x.fails = false ∧ x.isUnknown = false ∧
      ∀ p, x.repliesWith p = false := by
  obtain ⟨op, a⟩ := x
  cases op with
  | countCommand | countError | reply => cases h
  | _ => exact ⟨rfl, rfl, rfl, fun _ => rfl⟩

end Answered

theorem countP_succeeds (es : List Answered) : es.countP Answered.succeeds = (successes es).length :=
  List.length_filterMap_eq_countP.symm

theorem countP_fails (es : List Answered) : es.countP Answered.fails = (failures es).length :=
  List.length_filterMap_eq_countP.symm

/-! ## What is counted and what is replied -/

/-- What was counted agrees with the replies that were sent, but for some whose replies are still to
come, and for the replies to lines over the size limit. -/
structure Balanced (es : List Answered) (late lateErrors : Nat) : Prop where
  commands : es.countP Answered.succeeds = es.countP (Answered.repliesWith Reply.isOk) + late
  errors : es.countP Answered.fails + es.countP (Answered.repliesWith Reply.isTooLarge) =
    es.countP (Answered.repliesWith Reply.isError) + lateErrors
  known : es.countP Answered.isUnknown = 0

namespace Balanced

variable {es fs : List Answered} {late lateErrors more moreErrors : Nat}

theorem nil : Balanced [] 0 0 := ⟨rfl, rfl, rfl⟩

theorem append (h : Balanced es late lateErrors) (h' : Balanced fs more moreErrors) :
    Balanced (es ++ fs) (late + more) (lateErrors + moreErrors) where
  commands := by
    rw [List.countP_append, List.countP_append, h.commands, h'.commands]
    omega
  errors := by
    have hbefore := h.errors
    have hafter := h'.errors
    simp only [List.countP_append]
    omega
  known := by rw [List.countP_append, h.known, h'.known]

/-- Nothing is accounted for. -/
theorem of_quiet (h : ∀ x ∈ es, x.op.accounts = false) : Balanced es 0 0 := by
  have hcounts := fun x hx => Answered.not_counted (h x hx)
  have hreplies : ∀ p, es.countP (Answered.repliesWith p) = 0 :=
    fun p => countP_eq_zero_of fun x hx => (hcounts x hx).2.2.2 p
  refine ⟨?_, ?_, countP_eq_zero_of fun x hx => (hcounts x hx).2.2.1⟩
  · rw [hreplies, countP_eq_zero_of fun x hx => (hcounts x hx).1]
  · rw [hreplies, hreplies, countP_eq_zero_of fun x hx => (hcounts x hx).2.1]

/-- Readings do not matter. -/
theorem congr (h : Balanced es late lateErrors)
    (hcounts : ∀ p, Answered.Deals p → fs.countP p = es.countP p) : Balanced fs late lateErrors := by
  have hreplies := fun p => hcounts _ (Answered.deals_repliesWith p)
  have hcounted : ∀ p : Answered → Bool, (∀ x, x.op.accounts = false → p x = false) →
      fs.countP p = es.countP p := fun p hp => hcounts p (Answered.deals_of_accounts hp)
  refine ⟨?_, ?_, ?_⟩
  · rw [hcounted _ fun _ hx => (Answered.not_counted hx).1, hreplies]
    exact h.commands
  · rw [hcounted _ fun _ hx => (Answered.not_counted hx).2.1, hreplies, hreplies]
    exact h.errors
  · rw [hcounted _ fun _ hx => (Answered.not_counted hx).2.2.1]
    exact h.known

end Balanced

theorem countP_isUnknown {es : List Answered}
    (h : ∀ name ∈ successes es, name ∈ Gateway.knownNames) : es.countP Answered.isUnknown = 0 := by
  refine countP_eq_zero_of fun x hx => ?_
  unfold Answered.isUnknown
  cases hname : x.success? with
  | none => rfl
  | some name =>
    have hknown := h name (List.mem_filterMap.mpr ⟨x, hx, hname⟩)
    exact decide_eq_false (not_not_intro hknown)

namespace Connection

variable {c : Connection} {intake : Intake} {line client : String} {event : LineStream.Event}
  {es asked : List Answered} {result : Except Error Json} {all : Bool}

/-- A line that is being handled may have been counted without a reply. -/
theorem balanced_handling {q : Work (Except Error Json)}
    (h : Stretch (Gateway.handling true intake line client) es q) :
    Balanced es (successes es).length (failures es).length := by
  have hsilent := Gateway.countP_repliesWith_handling h
  refine ⟨?_, ?_, countP_isUnknown (Gateway.counted_once h).2⟩
  · rw [countP_succeeds, hsilent, Nat.zero_add]
  · rw [countP_fails, hsilent, hsilent, Nat.zero_add, Nat.add_zero]

/-- With its reply, a line is balanced. -/
theorem balanced_answered
    (h : Stretch (Gateway.handling true intake line client) es (Program.done result))
    (index : Nat) :
    Balanced (es ++ [⟨.reply index (.ofResult result), ()⟩]) 0 0 := by
  have hbefore := balanced_handling h
  have htallied := Gateway.tallied_handling h
  rw [Gateway.failures_eq h] at hbefore
  have hfits : ¬ Answered.repliesWith Reply.isTooLarge ⟨.reply index (.ofResult result), ()⟩ = true :=
    Bool.not_eq_true _ ▸ Reply.isTooLarge_ofResult result
  generalize successes es = names at hbefore htallied
  obtain ⟨hcommands, herrors, hknown⟩ := hbefore
  refine ⟨?_, ?_, ?_⟩
  · rw [List.countP_append, List.countP_append, hcommands]
    cases htallied with
    | ok | error => rfl
  · have hcounts : [(⟨.reply index (.ofResult result), ()⟩ : Answered)].countP Answered.fails = 0 :=
      rfl
    simp only [List.countP_append, List.countP_cons_of_neg hfits, hcounts, List.countP_nil,
      Nat.add_zero]
    rw [herrors]
    cases htallied with
    | ok | error => rfl
  · rw [List.countP_append, hknown]
    rfl

/-- **What an event is counted as agrees with its reply**, once it is sent. -/
theorem Treats.balanced (h : c.Treats intake event asked all) :
    ∃ late lateErrors, Balanced asked late lateErrors ∧
      late + lateErrors ≤ if all then 0 else 1 := by
  cases h with
  | waiting | starved | blank => exact ⟨0, 0, .nil, Nat.zero_le _⟩
  | tooLarge => exact ⟨0, 0, ⟨rfl, rfl, rfl⟩, Nat.le_refl 0⟩
  | noted => exact ⟨0, 1, ⟨rfl, rfl, rfl⟩, Nat.le_refl 1⟩
  | unreadable => exact ⟨0, 0, ⟨rfl, rfl, rfl⟩, Nat.le_refl 0⟩
  | handling _ hs => exact ⟨_, _, balanced_handling hs, (Gateway.counted_once hs).1⟩
  | answered _ hs => exact ⟨0, 0, balanced_answered hs c.index, Nat.le_refl 0⟩

/-- What a connection has finished is balanced. -/
theorem balanced_sections {events : List LineStream.Event} {sections : List (List Answered)}
    (h : List.Forall₂ (c.Serves intake) events sections) : Balanced sections.flatten 0 0 := by
  induction h with
  | nil => exact .nil
  | cons hserves _ ih =>
    obtain ⟨late, lateErrors, hbalanced, hnone⟩ := hserves.treats.balanced
    obtain ⟨rfl, rfl⟩ := Nat.add_eq_zero_iff.mp (Nat.le_zero.mp hnone)
    exact hbalanced.append ih

end Connection

/-! ## What a worker is doing -/

/-- Whether a connection is about to do something else than to read from its client. -/
def Work.isBusy : Work RoundEnd → Bool
  | Program.ask op _ => !op.isRead
  | Program.done _ => false

/-- **What a connection has counted agrees with its replies**, but for one line at most, and only
while it is busy with it. -/
theorem Connection.balanced_course {c : Connection} {intake : Intake} {es : List Answered}
    {p : Work RoundEnd} (h : Course intake (Program.done (.again (.connection c))) es p) :
    ∃ late lateErrors, Balanced es late lateErrors ∧
      late + lateErrors ≤ if Work.isBusy p then 1 else 0 := by
  obtain ⟨events, sections, pending, asked, q, hsections⟩ := course_sections h
  obtain ⟨all, htreats, hall⟩ := treats_of_stretch hsections.serving
  obtain ⟨late, lateErrors, hnow, hle⟩ := htreats.balanced
  have hboth : Balanced (sections.flatten ++ asked) (0 + late) (0 + lateErrors) :=
    (balanced_sections hsections.served).append hnow
  rw [Nat.zero_add, Nat.zero_add] at hboth
  refine ⟨late, lateErrors, hboth.congr fun p hp => ?_, hle.trans ?_⟩
  · rw [List.countP_append]
    exact hsections.counts p hp
  · cases q with
    | done =>
      rw [hall rfl]
      exact Nat.zero_le _
    | ask op next =>
      -- The worker stands where it has come to in serving an event, and there it never reads.
      rcases hsections.here with hdone | ⟨k, rfl⟩
      · cases hdone
      · have hop : op.isRead = false :=
          (hsections.serving.along (serve_reads_nothing c intake _) fun _ => rfl).2.1
        have hbusy : Work.isBusy ((Program.ask op next).bind k) = true := by
          show (!op.isRead) = true
          rw [hop]
          rfl
        rw [hbusy, if_pos rfl]
        split <;> decide

/-! ## Workers in the background -/

/-- Whether a worker serves no client. -/
def Worker.isBackground : Worker → Bool
  | ticker _ | watchdog _ => true
  | connection _ | request .. => false

/-- A program that does nothing that is accounted for, but for errands. -/
abbrev Work.Unaccounted {α : Type} (p : Work α) : Prop :=
  Work.Made (fun op : Action => op.accounts = false) (Errand.Locked fun _ => True) (fun _ => True) p

theorem Work.Unaccounted.along {α : Type} {p : Work α} (h : p.Unaccounted) :
    p.Along (fun op : Action => op.accounts = false) fun _ => True :=
  Work.Made.along h (fun _ hop => hop) fun _ hu => by
    obtain ⟨e, -⟩ := hu
    exact e.along_accounts

theorem Ticker.unaccounted (t : Ticker) : t.round.Unaccounted := by
  have hfinish : t.finish.Unaccounted := Work.Made.question rfl fun _ => .done trivial
  unfold round
  refine Work.Made.question rfl fun cancelled => ?_
  split
  · exact hfinish
  refine Work.Made.question rfl fun now => ?_
  have htick : Work.Unaccounted (t.runner.tick (apply t.device) now) :=
    Worker.made_tick (P := fun op : Action => op.accounts = false) rfl (fun _ => trivial) now _
  refine Work.Made.bind htick fun ticked _ => ?_
  obtain ⟨result, runner⟩ := ticked
  simp only
  split
  · exact Work.Made.ask rfl fun _ => .ask rfl fun _ => .done trivial
  · exact hfinish

theorem Watchdog.unaccounted (w : Watchdog) : w.round.Unaccounted := by
  have henter : ∀ state, (w.enter state).Unaccounted := fun state =>
    Work.Made.question rfl fun _ => .done trivial
  have hpause : ∀ {span} {k : Bool → Work (Option Watchdog)}, (∀ a, (k a).Unaccounted) →
      Work.Unaccounted ((w.pause span).bind k) := fun hk => Work.Made.ask rfl fun _ => .ask rfl hk
  unfold round
  split
  · refine hpause fun elapsed => ?_
    split
    · exact Work.Made.unit (.mk (.check w.device) trivial) fun _ => henter _
    · exact .done trivial
  · refine Work.Made.question rfl fun _ => ?_
    exact Work.Made.unit (.mk (.disconnect w.device) trivial) fun _ => henter _
  · refine hpause fun elapsed => ?_
    split
    · refine Work.Made.unit (.mk (.reconnect w.device) trivial) fun back => ?_
      cases back with
      | true =>
        refine Work.Made.question rfl fun _ => Work.Made.question rfl fun online => ?_
        split
        · exact henter _
        · exact .done trivial
      | false =>
        refine Work.Made.question rfl fun online => ?_
        split
        · exact henter _
        · exact .done trivial
    · exact .done trivial
  · exact .done trivial

namespace Worker

variable {worker : Worker} {intake : Intake} {es : List Answered} {p : Work RoundEnd}

/-- What a worker in the background does is not accounted for, and it stays in the background. -/
theorem unaccounted_round (h : worker.isBackground = true) (intake : Intake) :
    (worker.round intake).Along (fun op : Action => op.accounts = false) fun r =>
      ∀ next, r = .again next → next.isBackground = true := by
  have hfollowing : ∀ {β : Type} {f : β → Worker}, (∀ b, (f b).isBackground = true) →
      ∀ next, ∀ worker, following f next = .again worker → worker.isBackground = true := by
    intro β f hf next worker heq
    cases next with
    | none => cases heq
    | some b =>
      cases heq
      exact hf b
  cases worker with
  | ticker t => exact t.unaccounted.along.bind fun next _ => hfollowing (fun _ => rfl) next
  | watchdog w => exact w.unaccounted.along.bind fun next _ => hfollowing (fun _ => rfl) next
  | connection | request => cases h

theorem unaccounted_course (hworker : worker.isBackground = true)
    (h : Course intake (Program.done (.again worker)) es p) : Balanced es 0 0 := by
  have hbeginning : (Program.done (.again worker) : Work RoundEnd).Along
      (fun op : Action => op.accounts = false) fun r =>
        ∀ next, r = .again next → next.isBackground = true := by
    rintro next ⟨⟩
    exact hworker
  exact .of_quiet
    (h.along (fun _ hnext => unaccounted_round hnext intake) (fun _ => rfl) hbeginning).2

end Worker

end ChillerGateway
