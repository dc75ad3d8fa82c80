import ChillerGateway.Gateway.Worker

/-!
# The course of a worker

A worker asks a question, is answered, and goes on.  Whatever else happens in a gateway, a worker
only ever goes down its own program, so what it does in a run is a path of that program: its course.

* `Answered` — a question with its answer.
* `Course` — from one program of a worker to another, with the questions on the way.
-/

namespace ChillerGateway

/-- A question with its answer. -/
structure Answered where
  op : Action
  answer : op.Answer

/-- What a projection of a history gets from one answer more. -/
theorem filterMap_snoc {α β : Type} (f : α → Option β) (es : List α) (x : α) :
    (es ++ [x]).filterMap f = es.filterMap f ++ (f x).toList := by
  rw [List.filterMap_append, List.filterMap_cons]
  cases f x <;> rfl

/-- Whether a question is a step of a driver. -/
def Action.exchanges : Action → Bool
  | .exchange .. => true
  | _ => false

/-- Whether a question turns the flag of a device. -/
def Action.flags : Action → Bool
  | .setOnline .. => true
  | _ => false

/-- How a worker goes on with a program after its question: at once, or when the time has come to
which the answer to a step of a driver belongs. -/
inductive Resumes (op : Action) (p : Work RoundEnd) : Work RoundEnd → Prop where
  | now : Resumes op p p
  | later (time : Nat) : op.exchanges = true →
      Resumes op p (Program.ask (.pauseUntil time none) fun _ => p)

theorem Resumes.eq {op : Action} {p q : Work RoundEnd} (h : Resumes op p q)
    (hop : op.exchanges = false) : q = p := by
  cases h with
  | now => rfl
  | later _ hnot => cases hnot.symm.trans hop

/-- A way from one program of a worker to another, with what it was answered on this way. -/
inductive Course (intake : Intake) (p : Work RoundEnd) :
    List Answered → Work RoundEnd → Prop where
  | start : Course intake p [] p
  | answered {es op next q} (a : Action.Answer op) : Course intake p es (Program.ask op next) →
      Resumes op (next a) q → Course intake p (es ++ [⟨op, a⟩]) q
  | again {es worker} :
      Course intake p es (Program.done (.again worker)) → Course intake p es (worker.round intake)

namespace Course

variable {intake : Intake} {p q r : Work RoundEnd} {es fs : List Answered}

theorem trans (h : Course intake p es q) (h' : Course intake q fs r) :
    Course intake p (es ++ fs) r := by
  induction h' with
  | start => rwa [List.append_nil]
  | answered a _ hr ih =>
    rw [← List.append_assoc]
    exact ih.answered a hr
  | again _ ih => exact ih.again

/-- A worker that asks is answered first of all. -/
theorem asked {op : Action} {next : op.Answer → Work RoundEnd}
    (h : Course intake (Program.ask op next) es q) :
    (es = [] ∧ q = Program.ask op next) ∨
      ∃ a p' fs, es = ⟨op, a⟩ :: fs ∧ Resumes op (next a) p' ∧ Course intake p' fs q := by
  induction h with
  | start => exact .inl ⟨rfl, rfl⟩
  | answered a _ hr ih =>
    rcases ih with ⟨rfl, hq⟩ | ⟨b, p', fs, rfl, hfirst, hc⟩
    · cases hq
      exact .inr ⟨a, _, [], rfl, hr, .start⟩
    · exact .inr ⟨b, p', _, rfl, hfirst, hc.answered a hr⟩
  | again _ ih =>
    rcases ih with ⟨-, hq⟩ | ⟨b, p', fs, rfl, hfirst, hc⟩
    · cases hq
    · exact .inr ⟨b, p', fs, rfl, hfirst, hc.again⟩

/-- A worker that has ended goes nowhere. -/
theorem ended {reply : Option Reply} (h : Course intake (Program.done (.ended reply)) es q) :
    es = [] ∧ q = Program.done (.ended reply) := by
  induction h with
  | start => exact ⟨rfl, rfl⟩
  | answered _ _ _ ih | again _ ih => cases ih.2

end Course

end ChillerGateway
