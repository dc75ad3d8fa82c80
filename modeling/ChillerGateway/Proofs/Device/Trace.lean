import ChillerGateway.Proofs.Device.Attempt

/-!
# What a driver is answered

A driver program with the answers that it got, whoever gave them and whenever.  What they show of a
link are the lines that went out or did not, and what came of waiting.

* `Trace` — a program with its answers and its result; `Trace.bind` cuts it between two programs.
* `happenings` — what the answers show of the link.
* `Link.trace_query` — one command.
* `LinkDevice.trace_execute` — a driver alone with a link is answered as a link may answer.
-/

namespace ChillerGateway

/-- A step of a driver with its answer. -/
structure Exchanged where
  op : Exchange
  answer : op.Answer

/-- A driver program with the answers that it got, and its result. -/
inductive Trace {α : Type} : Program Exchange.interface α → List Exchanged → α → Prop where
  | done (a : α) : Trace (.done a) [] a
  | ask {op : Exchange} {next : op.Answer → Program Exchange.interface α} {es : List Exchanged}
      {a : α} (answer : op.Answer) (h : Trace (next answer) es a) :
      Trace (.ask op next) (⟨op, answer⟩ :: es) a

namespace Trace

variable {α β : Type} {es : List Exchanged}

theorem of_done {a b : α} (h : Trace (.done a) es b) : es = [] ∧ b = a := by
  cases h with
  | done => exact ⟨rfl, rfl⟩

/-- The way down two programs, one after the other. -/
theorem bind {p : Program Exchange.interface α} {f : α → Program Exchange.interface β} {b : β}
    (h : Trace (p.bind f) es b) :
    ∃ a before after, es = before ++ after ∧ Trace p before a ∧ Trace (f a) after b := by
  induction p generalizing es with
  | done a => exact ⟨a, [], es, rfl, .done a, h⟩
  | ask op next ih =>
    cases h with
    | ask answer h =>
      obtain ⟨a, before, after, rfl, hp, hk⟩ := ih answer h
      exact ⟨a, ⟨op, answer⟩ :: before, after, rfl, .ask answer hp, hk⟩

/-- A failure ends an attempt. -/
theorem attempt_bind {p : Attempt α} {f : α → Attempt β} {r : Except Error β}
    (h : Trace (p >>= f).run es r) :
    (∃ e, r = .error e ∧ Trace p.run es (.error e)) ∨
      ∃ a before after, es = before ++ after ∧ Trace p.run before (.ok a) ∧
        Trace (f a).run after r := by
  obtain ⟨x, before, after, rfl, hp, hk⟩ := Trace.bind h
  cases x with
  | error e =>
    obtain ⟨rfl, rfl⟩ := hk.of_done
    rw [List.append_nil]
    exact .inl ⟨e, rfl, hp⟩
  | ok a => exact .inr ⟨a, before, after, rfl, hp, hk⟩

theorem of_step {op : Exchange} {r : Except Error op.Answer}
    (h : Trace (Attempt.step op).run es r) : ∃ a, es = [⟨op, a⟩] ∧ r = .ok a := by
  cases h with
  | ask a h =>
    obtain ⟨rfl, rfl⟩ := h.of_done
    exact ⟨a, rfl, rfl⟩

theorem of_outcome {p : Attempt α} {r : Except Error (Except Error α)}
    (h : Trace (Attempt.outcome p).run es r) : ∃ x, r = .ok x ∧ Trace p.run es x := by
  obtain ⟨x, before, after, rfl, hp, hk⟩ := Trace.bind h
  obtain ⟨rfl, rfl⟩ := hk.of_done
  rw [List.append_nil]
  exact ⟨x, rfl, hp⟩

/-- What is made of a result asks nothing. -/
theorem of_map {p : Attempt α} {f : α → Attempt β} {g : α → Except Error β} {r : Except Error β}
    (h : Trace (p >>= f).run es r) (hf : ∀ a, f a = ExceptT.mk (pure (g a))) :
    ∃ x, Trace p.run es x ∧ r = x.bind g := by
  rcases h.attempt_bind with ⟨e, rfl, hp⟩ | ⟨a, before, after, rfl, hp, hk⟩
  · exact ⟨.error e, hp, rfl⟩
  · rw [hf a] at hk
    obtain ⟨rfl, rfl⟩ := Trace.of_done hk
    rw [List.append_nil]
    exact ⟨.ok a, hp, rfl⟩

end Trace

/-! ## What happens on a link -/

/-- What shows on a link. -/
inductive Happening where
  | sent (line : String)
  /-- A command was to go out, and did not. -/
  | unsent (e : Error)
  | heard (r : Reception)

/-- What an answer shows of a link. -/
def Exchanged.happening? : Exchanged → Option Happening
  | ⟨.send line, .ok ()⟩ => some (.sent line)
  | ⟨.send _, .error e⟩ => some (.unsent e)
  | ⟨.isOpen, false⟩ => some (.unsent .notConnected)
  | ⟨.receive _, r⟩ => some (.heard r)
  | _ => none

/-- What some answers show of a link. -/
def happenings (es : List Exchanged) : List Happening := es.filterMap Exchanged.happening?

@[simp] theorem happenings_nil : happenings [] = [] := rfl

@[simp] theorem happenings_append (es fs : List Exchanged) :
    happenings (es ++ fs) = happenings es ++ happenings fs := List.filterMap_append

/-- A link fails to send a line for reasons of its own only. -/
def Exchanged.OfLink : Exchanged → Prop
  | ⟨.send _, .error e⟩ => ∃ text, e = .io text
  | _ => True

/-! ## One command -/

namespace Link

variable {es : List Exchanged} {timeout : Nat}

/-- Nothing shows of the pause between commands. -/
theorem trace_pace {r : Except Error Unit} (h : Trace pace.run es r) :
    happenings es = [] ∧ r = .ok () := by
  cases h with
  | ask last h =>
    cases last with
    | none =>
      cases h with
      | ask now h =>
        cases h with
        | ask _ h =>
          obtain ⟨rfl, rfl⟩ := h.of_done
          exact ⟨rfl, rfl⟩
    | some last =>
      cases h with
      | ask _ h =>
        cases h with
        | ask now h =>
          cases h with
          | ask _ h =>
            obtain ⟨rfl, rfl⟩ := h.of_done
            exact ⟨rfl, rfl⟩

theorem trace_pause {r : Except Error Unit} (h : Trace pause.run es r) :
    happenings es = [] ∧ r = .ok () := by
  cases h with
  | ask now h =>
    cases h with
    | ask _ h =>
      obtain ⟨rfl, rfl⟩ := h.of_done
      exact ⟨rfl, rfl⟩

/-- A failure to send that is one of the link. -/
def IsUnsent (e : Error) : Prop := e = .notConnected ∨ ∃ text, e = .io text

/-- A command goes out once, or not at all. -/
theorem trace_write {command : String} {r : Except Error Unit}
    (h : Trace (write command).run es r) (hl : ∀ x ∈ es, x.OfLink) :
    (happenings es = [.sent command] ∧ r = .ok ()) ∨
      ∃ e, IsUnsent e ∧ happenings es = [.unsent e] ∧ r = .error e := by
  unfold write at h
  rcases h.attempt_bind with ⟨e, rfl, hpace⟩ | ⟨_, before, after, rfl, hpace, h₁⟩
  · cases (trace_pace hpace).2
  rw [happenings_append, (trace_pace hpace).1, List.nil_append]
  have hl₁ := (List.forall_mem_append.mp hl).2
  rcases h₁.attempt_bind with ⟨e, rfl, ho⟩ | ⟨live, before, after, rfl, ho, h₂⟩
  · obtain ⟨_, -, ho⟩ := ho.of_step
    cases ho
  obtain ⟨_, rfl, heq⟩ := ho.of_step
  obtain rfl := Except.ok.inj heq
  cases live with
  | false =>
    obtain ⟨rfl, rfl⟩ := Trace.of_done h₂
    exact .inr ⟨.notConnected, .inl rfl, rfl, rfl⟩
  | true =>
    cases h₂ with
    | ask _ h₃ =>
      cases h₃ with
      | ask _ h₄ =>
        obtain ⟨rfl, rfl⟩ := h₄.of_done
        cases r with
        | ok => exact .inl ⟨rfl, rfl⟩
        | error e => exact .inr ⟨e, .inr (hl₁ ⟨.send command, .error e⟩ (by simp)), rfl, rfl⟩

/-- What came of one question: it did not go out, or it did and something came of waiting. -/
inductive Asked where
  | unsent (e : Error) (h : IsUnsent e)
  | heard (r : Reception)

namespace Asked

/-- What shows of a question on the link. -/
def happenings (question : String) : Asked → List Happening
  | unsent e _ => [.unsent e]
  | heard r => [.sent question, .heard r]

/-- The answer to a question, or the failure that came of it. -/
def answer : Asked → Except Error String
  | unsent e _ => .error e
  | heard r => answerOf r

end Asked

/-- A question shows on the link as what came of it. -/
theorem trace_query {command : String} {r : Except Error String}
    (h : Trace (query timeout command).run es r) (hl : ∀ x ∈ es, x.OfLink) :
    ∃ asked : Asked, happenings es = asked.happenings command ∧ r = asked.answer := by
  unfold query at h
  rcases h.attempt_bind with ⟨e, rfl, hw⟩ | ⟨_, before, after, rfl, hw, hr⟩
  · rcases trace_write hw hl with ⟨-, hok⟩ | ⟨e', he, hshown, heq⟩
    · cases hok
    · cases heq
      exact ⟨.unsent e he, hshown, rfl⟩
  · rcases trace_write hw (List.forall_mem_append.mp hl).1 with ⟨hshown, -⟩ | ⟨_, -, -, heq⟩
    · cases hr with
      | ask heard h =>
        obtain ⟨rfl, rfl⟩ := h.of_done
        refine ⟨.heard heard, ?_, rfl⟩
        rw [happenings_append, hshown]
        rfl
    · cases heq

end Link

/-! ## A driver alone with a link -/

namespace LinkDevice

theorem ofLink_exchange (l : LinkDevice) (now : Nat) (op : Exchange) :
    Exchanged.OfLink ⟨op, (l.exchange now op).2.1⟩ := by
  cases op with
  | send line =>
    show Exchanged.OfLink ⟨.send line, (l.send now line).1⟩
    unfold send
    split
    · rename_i e he
      unfold LineCodec.encode at he
      split at he
      · cases he
      · cases he
        exact ⟨_, rfl⟩
    · split
      · exact ⟨_, rfl⟩
      · split
        · exact ⟨_, rfl⟩
        · split
          · trivial
          · trivial
  | _ => trivial

/-- **A driver alone with a link** is answered as a link may answer. -/
theorem trace_execute {α : Type} (p : Program Exchange.interface α) (now : Nat) (l : LinkDevice) :
    ∃ es, Trace p es (execute p now l).1 ∧ ∀ x ∈ es, x.OfLink := by
  induction p generalizing now l with
  | done a => exact ⟨[], .done a, List.forall_mem_nil _⟩
  | ask op next ih =>
    obtain ⟨es, hes, hl⟩ := ih (l.exchange now op).2.1 (l.exchange now op).1 (l.exchange now op).2.2
    exact ⟨⟨op, (l.exchange now op).2.1⟩ :: es, .ask _ hes,
      List.forall_mem_cons.mpr ⟨l.ofLink_exchange now op, hl⟩⟩

end LinkDevice

end ChillerGateway
