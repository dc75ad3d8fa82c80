import ChillerGateway.Proofs.Gateway.Course
import ChillerGateway.Proofs.Program

/-!
# Paths of programs

A program is a tree; a run of it takes one path.  Statements about a program either hold along all
of its paths, or speak of the answers on one of them.  Some programs are best seen as made of units:
smaller programs, with other questions before, between and after them.

* `tenure` — what is answered from taking a lock to releasing it.
* `Work.Stretch` — the answers on a path, as a worker goes down it; `bind_cases` cuts it in two.
* `Work.course_cases` — the same of a course.
* `Course.along` — what holds of all rounds holds along a course.
* `Work.Made` — a program that is made of units and other questions.
* `Work.Made.place` — a worker on its way down such a program is between two units, or in one.
-/

namespace ChillerGateway

/-! ## Answers -/

/-- An answer to a step of a driver; there is no bath behind a link. -/
def Exchange.somehow : (op : Exchange) → op.Answer
  | .now => 0
  | .lastCommand => none
  | .isOpen => false
  | .sleepUntil _ | .setLastCommand _ | .dropStream | .clearInput => ()
  | .openStream | .send _ | .simulated _ => .error .notConnected
  | .receive _ => .timeout

/-- An answer to a question. -/
def Action.somehow : (op : Action) → op.Answer
  | .now => (0 : Nat)
  | .pauseUntil .. | .isCancelled _ | .countRequest _ | .isOnline _ | .stopSchedule _ => false
  | .settings => ({} : Settings)
  | .beginCommand => (⟨{}, 0⟩ : Outset)
  | .resolve _ => (none : Option Handle)
  | .exchange _ op => op.somehow
  | .scheduleStatus _ => Json.null
  | .read .. => Incoming.ended
  | .awaitReply _ => (none : Option Reply)
  | .setOnline .. | .lock _ | .unlock _ | .loadSchedule .. | .retire .. | .awaitTickers _ | .audit _
  | .countCommand .. | .countError _ | .announce .. | .reply .. => ()

/-- What is answered from taking a lock to releasing it. -/
def tenure (ref : Nat) (asked : List Answered) : List Answered :=
  ⟨.lock ref, ()⟩ :: (asked ++ [⟨.unlock ref, ()⟩])

theorem forall_mem_tenure {P : Answered → Prop} {ref : Nat} {asked : List Answered}
    (hlock : P ⟨.lock ref, ()⟩) (hunlock : P ⟨.unlock ref, ()⟩) (h : ∀ x ∈ asked, P x) :
    ∀ x ∈ tenure ref asked, P x := by
  unfold tenure
  rw [List.forall_mem_cons, List.forall_mem_append, List.forall_mem_singleton]
  exact ⟨hlock, h, hunlock⟩

namespace Work

open Program (Along)

variable {α β : Type}

theorem along_question {P : Action → Prop} {Q : α → Prop} {op : Action} {k : op.Answer → Work α}
    (hop : P op) (hk : ∀ a, (k a).Along P Q) : ((ask op).bind k).Along P Q := ⟨hop, hk⟩

theorem along_drive {P : Action → Prop} {ref : Nat} (h : ∀ op, P (.exchange ref op))
    (p : Attempt α) : (drive ref p).Along P fun _ => True := by
  unfold drive
  generalize p.run = q
  induction q with
  | done a => trivial
  | ask op next ih => exact ⟨h op, fun answer => ih answer⟩

/-- A failure ends an attempt. -/
theorem drive_bind (ref : Nat) (p : Attempt α) (f : α → Attempt β) :
    drive ref (p >>= f) = (drive ref p).bind fun
      | .ok a => drive ref (f a)
      | .error e => Program.done (.error e) := by
  have hwithin := congrArg
    (Program.within (I := Exchange.interface) fun op => ask (.exchange ref op)) (p.run_bind f)
  refine hwithin.trans ((Program.within_bind _ _ _).trans ?_)
  exact congrArg (Program.bind (drive ref p)) (funext fun r => by cases r <;> rfl)

theorem locked_eq (ref : Nat) (p : Work α) :
    locked ref p = Program.ask (I := Action.interface) (.lock ref) fun _ =>
      p.bind fun a => Program.ask (I := Action.interface) (.unlock ref) fun _ => Program.done a :=
  rfl

/-! ## One path -/

/-- The way of a worker from one program to another, with what it was answered on this way.  The
answer to a step of a driver may belong to a later time. -/
inductive Stretch (p : Work α) : List Answered → Work α → Prop where
  | start : Stretch p [] p
  | answered {es op next} (a : Action.Answer op) :
      Stretch p es (Program.ask op next) → Stretch p (es ++ [⟨op, a⟩]) (next a)
  | delayed {es op next} (a : Action.Answer op) (time : Nat) :
      Stretch p es (Program.ask op next) → op.exchanges = true →
      Stretch p (es ++ [⟨op, a⟩]) (Program.ask (.pauseUntil time none) fun _ => next a)

namespace Stretch

variable {p q r : Work α} {es fs : List Answered}

theorem trans (h : Stretch p es q) (h' : Stretch q fs r) : Stretch p (es ++ fs) r := by
  induction h' with
  | start => rwa [List.append_nil]
  | answered a _ ih =>
    rw [← List.append_assoc]
    exact ih.answered a
  | delayed a time _ hop ih =>
    rw [← List.append_assoc]
    exact ih.delayed a time hop

/-- A worker that asks goes on with the answer. -/
theorem cons {op : Action} {next : op.Answer → Work α} (a : op.Answer)
    (h : Stretch (next a) es q) : Stretch (Program.ask op next) (⟨op, a⟩ :: es) q :=
  Stretch.trans (Stretch.start.answered a) h

theorem question {op : Action} {k : op.Answer → Work α} (a : op.Answer)
    (h : Stretch (k a) es q) : Stretch ((Work.ask op).bind k) (⟨op, a⟩ :: es) q := cons a h

/-- A way down the first of two programs. -/
theorem bind {k : α → Work β} (h : Stretch p es q) : Stretch (p.bind k) es (q.bind k) := by
  induction h with
  | start => exact .start
  | answered a _ ih => exact Stretch.answered a ih
  | delayed a time _ hop ih => exact Stretch.delayed a time ih hop

/-- A way down two programs, one after the other. -/
theorem bind_trans {k : α → Work β} {a : α} {t : Work β} (h : Stretch p es (Program.done a))
    (h' : Stretch (k a) fs t) : Stretch (p.bind k) (es ++ fs) t :=
  Stretch.trans (h.bind (k := k)) h'

/-- Where a worker is that goes down two programs: in the first, or past its end. -/
theorem bind_cases {k : α → Work β} {t : Work β} (h : Stretch (p.bind k) es t) :
    (∃ q, Stretch p es q ∧ t = q.bind k) ∨
      ∃ a before after, es = before ++ after ∧ Stretch p before (Program.done a) ∧
        Stretch (k a) after t := by
  -- A step from the last program of the path: it is one of the first program, or the first one of
  -- the second.
  have hstep : ∀ {es : List Answered} {op next}, ((∃ q, Stretch p es q ∧ Program.ask op next =
      q.bind k) ∨ ∃ a before after, es = before ++ after ∧ Stretch p before (Program.done a) ∧
        Stretch (k a) after (Program.ask op next)) →
      (∃ next', Stretch p es (Program.ask op next') ∧ next = fun a => (next' a).bind k) ∨
      ∃ a before after, es = before ++ after ∧ Stretch p before (Program.done a) ∧
        Stretch (k a) after (Program.ask op next) := by
    rintro es op next (⟨q, hq, heq⟩ | hright)
    · cases q with
      | done a => exact .inr ⟨a, es, [], (List.append_nil es).symm, hq, heq ▸ .start⟩
      | ask op' next' =>
        cases heq
        exact .inl ⟨next', hq, rfl⟩
    · exact .inr hright
  induction h with
  | start => exact .inl ⟨p, .start, rfl⟩
  | answered a _ ih =>
    rcases hstep ih with ⟨next', hq, rfl⟩ | ⟨b, before, after, rfl, hp, hk⟩
    · exact .inl ⟨next' a, hq.answered a, rfl⟩
    · exact .inr ⟨b, before, _, List.append_assoc _ _ _, hp, hk.answered a⟩
  | delayed a time _ hop ih =>
    rcases hstep ih with ⟨next', hq, rfl⟩ | ⟨b, before, after, rfl, hp, hk⟩
    · exact .inl ⟨_, hq.delayed a time hop, rfl⟩
    · exact .inr ⟨b, before, _, List.append_assoc _ _ _, hp, hk.delayed a time hop⟩

/-- A path to the end of two programs is one to the end of each. -/
theorem bind_done {k : α → Work β} {b : β} (h : Stretch (p.bind k) es (Program.done b)) :
    ∃ a before after, es = before ++ after ∧ Stretch p before (Program.done a) ∧
      Stretch (k a) after (Program.done b) := by
  rcases h.bind_cases with ⟨q, hq, heq⟩ | hright
  · cases q with
    | done a => exact ⟨a, es, [], (List.append_nil es).symm, hq, heq ▸ .start⟩
    | ask => cases heq
  · exact hright

/-- The end of an attempt in two parts. -/
theorem attempt_bind_ok {ref : Nat} {p : Attempt α} {f : α → Attempt β} {a : α}
    {r : Work (Except Error β)} (h : Stretch (drive ref p) es (Program.done (.ok a)))
    (h' : Stretch (drive ref (f a)) fs r) : Stretch (drive ref (p >>= f)) (es ++ fs) r := by
  rw [drive_bind]
  exact h.bind_trans h'

theorem attempt_bind_error {ref : Nat} {p : Attempt α} {f : α → Attempt β} {e : Error}
    (h : Stretch (drive ref p) es (Program.done (.error e))) :
    Stretch (drive ref (p >>= f)) es (Program.done (.error e)) := by
  rw [drive_bind]
  exact h.bind

/-- A program that is done asks nothing. -/
theorem of_done {a : α} (h : Stretch (Program.done a) es q) : es = [] ∧ q = Program.done a := by
  induction h with
  | start => exact ⟨rfl, rfl⟩
  | answered _ _ ih | delayed _ _ _ _ ih => cases ih.2

/-- A path to the end of an attempt in two parts: it is one to the end of the first part that
failed, or to the end of each. -/
theorem attempt_bind {ref : Nat} {p : Attempt α} {f : α → Attempt β} {r : Except Error β}
    (h : Stretch (drive ref (p >>= f)) es (Program.done r)) :
    (∃ e, r = .error e ∧ Stretch (drive ref p) es (Program.done (.error e))) ∨
      ∃ a before after, es = before ++ after ∧
        Stretch (drive ref p) before (Program.done (.ok a)) ∧
        Stretch (drive ref (f a)) after (Program.done r) := by
  rw [drive_bind] at h
  obtain ⟨x, before, after, rfl, hp, hf⟩ := h.bind_done
  cases x with
  | ok a => exact .inr ⟨a, before, after, rfl, hp, hf⟩
  | error e =>
    obtain ⟨rfl, heq⟩ := hf.of_done
    cases heq
    rw [List.append_nil]
    exact .inl ⟨e, rfl, hp⟩

/-- A worker that asks is answered first of all. -/
theorem asked {op : Action} {next : op.Answer → Work α} (h : Stretch (Program.ask op next) es q) :
    (es = [] ∧ q = Program.ask op next) ∨
      ∃ a p' fs, es = ⟨op, a⟩ :: fs ∧ Stretch p' fs q ∧
        (p' = next a ∨ op.exchanges = true ∧
          ∃ time, p' = Program.ask (I := Action.interface) (.pauseUntil time none)
            fun _ => next a) := by
  induction h with
  | start => exact .inl ⟨rfl, rfl⟩
  | answered a _ ih =>
    rcases ih with ⟨rfl, heq⟩ | ⟨b, p', fs, rfl, hfs, hp'⟩
    · cases heq
      exact .inr ⟨a, _, [], rfl, .start, .inl rfl⟩
    · exact .inr ⟨b, p', _, rfl, hfs.answered a, hp'⟩
  | delayed a time _ hop ih =>
    rcases ih with ⟨rfl, heq⟩ | ⟨b, p', fs, rfl, hfs, hp'⟩
    · cases heq
      exact .inr ⟨a, _, [], rfl, .start, .inr ⟨hop, time, rfl⟩⟩
    · exact .inr ⟨b, p', _, rfl, hfs.delayed a time hop, hp'⟩

/-- A worker that asks something else than a step of a driver goes on at once. -/
theorem asked_other {op : Action} {next : op.Answer → Work α}
    (h : Stretch (Program.ask op next) es q) (hop : op.exchanges = false) :
    (es = [] ∧ q = Program.ask op next) ∨ ∃ a fs, es = ⟨op, a⟩ :: fs ∧ Stretch (next a) fs q := by
  rcases h.asked with hstart | ⟨a, p', fs, rfl, hfs, rfl | ⟨hex, -⟩⟩
  · exact .inl hstart
  · exact .inr ⟨a, fs, rfl, hfs⟩
  · cases hex.symm.trans hop

theorem ask_done {op : Action} {next : op.Answer → Work α} {b : α}
    (h : Stretch (Program.ask op next) es (Program.done b)) (hop : op.exchanges = false) :
    ∃ a fs, es = ⟨op, a⟩ :: fs ∧ Stretch (next a) fs (Program.done b) := by
  rcases h.asked_other hop with ⟨-, heq⟩ | hnext
  · cases heq
  · exact hnext

theorem question_other {op : Action} {k : op.Answer → Work α}
    (h : Stretch ((Work.ask op).bind k) es q) (hop : op.exchanges = false) :
    (es = [] ∧ q = (Work.ask op).bind k) ∨ ∃ a fs, es = ⟨op, a⟩ :: fs ∧ Stretch (k a) fs q :=
  asked_other h hop

theorem question_done {op : Action} {k : op.Answer → Work α} {b : α}
    (h : Stretch ((Work.ask op).bind k) es (Program.done b)) (hop : op.exchanges = false) :
    ∃ a fs, es = ⟨op, a⟩ :: fs ∧ Stretch (k a) fs (Program.done b) := ask_done h hop

/-- A path to the end of a program with a lock around it. -/
theorem locked_done {ref : Nat} {a : α} (h : Stretch (locked ref p) es (Program.done a)) :
    ∃ inside, es = tenure ref inside ∧ Stretch p inside (Program.done a) := by
  rw [locked_eq] at h
  obtain ⟨_, fs, rfl, hlocked⟩ := h.ask_done rfl
  obtain ⟨b, inside, rest, rfl, hinside, hrest⟩ := hlocked.bind_done
  obtain ⟨_, gs, rfl, hdone⟩ := hrest.ask_done rfl
  obtain ⟨rfl, heq⟩ := hdone.of_done
  cases heq
  exact ⟨inside, rfl, hinside⟩

/-- What holds along all paths holds along this one; a delay asks for the clock only. -/
theorem along {P : Action → Prop} {Q : α → Prop} (h : Stretch p es q) (hp : p.Along P Q)
    (hP : ∀ time, P (.pauseUntil time none)) : (∀ x ∈ es, P x.op) ∧ q.Along P Q := by
  induction h with
  | start =>
    refine ⟨?_, hp⟩
    intro x hx
    cases hx
  | answered a _ ih =>
    obtain ⟨hes, hop, hnext⟩ := ih
    exact ⟨List.forall_mem_append.mpr ⟨hes, List.forall_mem_singleton.mpr hop⟩, hnext a⟩
  | delayed a time _ _ ih =>
    obtain ⟨hes, hop, hnext⟩ := ih
    refine ⟨List.forall_mem_append.mpr ⟨hes, List.forall_mem_singleton.mpr hop⟩, hP time, ?_⟩
    exact fun _ => hnext a

/-- A question that the second of two programs never asks is one of the first. -/
theorem within_first {P : Action → Prop} {Q : β → Prop} {k : α → Work β} {op : Action}
    {next : op.Answer → Work β} (h : Stretch (p.bind k) es (Program.ask op next))
    (hk : ∀ a, (k a).Along P Q) (hP : ∀ time, P (.pauseUntil time none)) (hop : ¬ P op) :
    ∃ rest, Stretch p es (Program.ask op rest) ∧ next = fun a => (rest a).bind k := by
  rcases h.bind_cases with ⟨q, hq, heq⟩ | ⟨a, before, after, rfl, -, hafter⟩
  · cases q with
    | done a =>
      have hsecond := hk a
      rw [show k a = Program.ask op next from heq.symm] at hsecond
      exact absurd hsecond.1 hop
    | ask op' rest =>
      cases heq
      exact ⟨rest, hq, rfl⟩
  · exact absurd (hafter.along (hk a) hP).2.1 hop

/-- What holds as long as the answers are such as can be given holds along a path on which they
are; after a step of a driver there may be a rest. -/
theorem alongIf {H P : (op : Action) → op.Answer → Prop} {Q : α → Prop} (h : Stretch p es q)
    (hp : p.AlongIf H P Q) (hes : ∀ x ∈ es, H x.op x.answer)
    (hP : ∀ op a, op.exchanges = true → P op a → ∀ time rested, P (.pauseUntil time none) rested) :
    (∀ x ∈ es, P x.op x.answer) ∧ q.AlongIf H P Q := by
  induction h with
  | start => exact ⟨fun x hx => (by cases hx), hp⟩
  | @answered es op next a _ ih =>
    rw [List.forall_mem_append, List.forall_mem_singleton] at hes
    obtain ⟨hbefore, hnext⟩ := ih hes.1
    obtain ⟨hop, hrest⟩ := hnext a hes.2
    exact ⟨List.forall_mem_append.mpr ⟨hbefore, List.forall_mem_singleton.mpr hop⟩, hrest⟩
  | @delayed es op next a time _ hexchanges ih =>
    rw [List.forall_mem_append, List.forall_mem_singleton] at hes
    obtain ⟨hbefore, hnext⟩ := ih hes.1
    obtain ⟨hop, hrest⟩ := hnext a hes.2
    exact ⟨List.forall_mem_append.mpr ⟨hbefore, List.forall_mem_singleton.mpr hop⟩,
      fun rested _ => ⟨hP op a hexchanges hop time rested, hrest⟩⟩

/-- A driver program asks a worker for nothing but its steps, and rests between them. -/
theorem forall_mem_driven {P : Action → Prop} {ref : Nat} {p : Attempt α}
    {q : Work (Except Error α)} (h : Stretch (drive ref p) es q)
    (hstep : ∀ op, P (.exchange ref op)) (hrest : ∀ time, P (.pauseUntil time none)) :
    ∀ x ∈ es, P x.op := (h.along (along_drive hstep p) hrest).1

end Stretch

/-- Where a worker is that was on its way down two programs: in the first, or past its end. -/
theorem course_cases {intake : Intake} {p : Work α} {k : α → Work RoundEnd}
    {es : List Answered} {t : Work RoundEnd} (h : Course intake (p.bind k) es t) :
    (∃ q, Stretch p es q ∧ t = q.bind k) ∨
      ∃ a before after, es = before ++ after ∧ Stretch p before (Program.done a) ∧
        Course intake (k a) after t := by
  induction h with
  | start => exact .inl ⟨p, .start, rfl⟩
  | @answered es op next t a _ hr ih =>
    rcases ih with ⟨q, hq, heq⟩ | ⟨b, before, after, rfl, hp, hk⟩
    · cases q with
      | done b =>
        have hk : Course intake (k b) [] (Program.ask op next) := heq ▸ .start
        exact .inr ⟨b, es, _, rfl, hq, hk.answered a hr⟩
      | ask op' next' =>
        cases heq
        cases hr with
        | now => exact .inl ⟨next' a, hq.answered a, rfl⟩
        | later time hop => exact .inl ⟨_, hq.delayed a time hop, rfl⟩
    · exact .inr ⟨b, before, _, List.append_assoc _ _ _, hp, hk.answered a hr⟩
  | @again es worker _ ih =>
    rcases ih with ⟨q, hq, heq⟩ | ⟨b, before, after, rfl, hp, hk⟩
    · cases q with
      | done b =>
        have hk : Course intake (k b) [] (Program.done (.again worker)) := heq ▸ .start
        exact .inr ⟨b, es, [], (List.append_nil es).symm, hq, hk.again⟩
      | ask => cases heq
    · exact .inr ⟨b, before, after, rfl, hp, hk.again⟩

end Work

/-- What holds of the rounds of some workers, of which only such ones come, holds along a course; a
delay asks for the clock only. -/
theorem Course.along {P : Action → Prop} {W : Worker → Prop} {intake : Intake}
    {p q : Work RoundEnd} {es : List Answered}
    (hround : ∀ worker, W worker →
      (worker.round intake).Along P fun r => ∀ next, r = .again next → W next)
    (hP : ∀ time, P (.pauseUntil time none))
    (hp : p.Along P fun r => ∀ next, r = .again next → W next) (h : Course intake p es q) :
    (q.Along P fun r => ∀ next, r = .again next → W next) ∧ ∀ x ∈ es, P x.op := by
  induction h with
  | start => exact ⟨hp, fun x hx => by cases hx⟩
  | answered a _ hr ih =>
    obtain ⟨⟨hop, hnext⟩, hes⟩ := ih
    refine ⟨?_, List.forall_mem_append.mpr ⟨hes, List.forall_mem_singleton.mpr hop⟩⟩
    cases hr with
    | now => exact hnext a
    | later time => exact ⟨hP time, fun _ => hnext a⟩
  | again _ ih => exact ⟨hround _ (ih.1 _ rfl), ih.2⟩

namespace Work

variable {α β : Type}

/-! ## Units -/

/-- A program that is made of units, which satisfy `U`, and of other questions, which satisfy `P`,
with a result that satisfies `Q`. -/
inductive Made (P : Action → Prop) (U : {β : Type} → Work β → Prop) (Q : α → Prop) :
    Work α → Prop where
  | done {a} : Q a → Made P U Q (Program.done a)
  | ask {op next} : P op → (∀ a, Made P U Q (next a)) → Made P U Q (Program.ask op next)
  | unit {β : Type} {u : Work β} {k} : U u → (∀ b, Made P U Q (k b)) → Made P U Q (u.bind k)

namespace Made

variable {P P' : Action → Prop} {U : {β : Type} → Work β → Prop} {Q : α → Prop}

theorem bind {R : β → Prop} {p : Work α} {f : α → Work β} (h : Made P U Q p)
    (hf : ∀ a, Q a → Made P U R (f a)) : Made P U R (p.bind f) := by
  induction h with
  | done ha => exact hf _ ha
  | ask hop _ ih => exact .ask hop ih
  | unit hu _ ih =>
    rw [Program.bind_assoc]
    exact .unit hu ih

theorem question {op : Action} {k : op.Answer → Work α} (hop : P op)
    (hk : ∀ a, Made P U Q (k a)) : Made P U Q ((Work.ask op).bind k) := .ask hop hk

/-- One unit. -/
theorem single {u : Work α} (h : U u) : Made P U (fun _ => True) u := by
  rw [← Program.bind_done u]
  exact .unit h fun _ => .done trivial

theorem mono {Q' : α → Prop} {p : Work α} (h : Made P U Q p) (hP : ∀ op, P op → P' op)
    (hQ : ∀ a, Q a → Q' a) : Made P' U Q' p := by
  induction h with
  | done ha => exact .done (hQ _ ha)
  | ask hop _ ih => exact .ask (hP _ hop) ih
  | unit hu _ ih => exact .unit hu ih

/-- A program without units. -/
theorem of_along {p : Work α} (h : p.Along P Q) : Made P U Q p := by
  induction p with
  | done a => exact .done h
  | ask op next ih => exact .ask h.1 fun a => ih a (h.2 a)

/-- A program whose units are made of other units. -/
theorem refine {U' : {β : Type} → Work β → Prop} {p : Work α} (h : Made P U Q p)
    (hP : ∀ op, P op → P' op) (hU : ∀ {β : Type} (u : Work β), U u → Made P' U' (fun _ => True) u) :
    Made P' U' Q p := by
  induction h with
  | done ha => exact .done ha
  | ask hop _ ih => exact .ask (hP _ hop) ih
  | unit hu _ ih => exact (hU _ hu).bind fun b _ => ih b

/-- What holds of the other questions and along all paths of the units holds along all paths. -/
theorem along {p : Work α} (h : Made P U Q p) (hP : ∀ op, P op → P' op)
    (hU : ∀ {β : Type} (u : Work β), U u → u.Along P' fun _ => True) : p.Along P' Q := by
  induction h with
  | done ha => exact ha
  | ask hop _ ih => exact ⟨hP _ hop, ih⟩
  | unit hu _ ih => exact (hU _ hu).bind fun b _ => ih b

/-- At the end there is the result. -/
theorem of_done {a : α} (h : Made P U Q (Program.done a)) : Q a := by
  generalize hp : (Program.done a : Work α) = p at h
  induction h with
  | done ha =>
    cases hp
    exact ha
  | ask => cases hp
  | @unit β u k _ _ ih =>
    cases u with
    | done b => exact ih b hp
    | ask => cases hp

/-- The next question is one of the others, or the first one of a unit. -/
theorem asked {op : Action} {next : op.Answer → Work α} (h : Made P U Q (Program.ask op next)) :
    (P op ∧ ∀ a, Made P U Q (next a)) ∨
      ∃ (β : Type) (first : op.Answer → Work β) (k : β → Work α),
        U (Program.ask (I := Action.interface) op first) ∧ next = (fun a => (first a).bind k) ∧
          ∀ b, Made P U Q (k b) := by
  generalize hp : (Program.ask op next : Work α) = p at h
  induction h with
  | done _ => cases hp
  | ask hop hnext _ =>
    cases hp
    exact .inl ⟨hop, hnext⟩
  | @unit β u k hu hk ih =>
    cases u with
    | done b => exact ih b hp
    | ask op' first =>
      cases hp
      exact .inr ⟨β, first, k, hu, rfl, hk⟩

/-- Where a worker is that goes down a program made of units, with what it was answered: between two
units, or in one of them. -/
inductive Place (P : Action → Prop) (U : {β : Type} → Work β → Prop) (Q : α → Prop) :
    List Answered → Work α → Prop where
  | between {es p} : Made P U Q p → Place P U Q es p
  | inside {β : Type} {before asked : List Answered} {u r : Work β} {k} : U u →
      Stretch u asked r → (∀ b, Made P U Q (k b)) → Place P U Q (before ++ asked) (r.bind k)

namespace Place

variable {es : List Answered}

/-- A question of such a worker: one between the units, or one in a unit. -/
inductive Asks (P : Action → Prop) (U : {β : Type} → Work β → Prop) (Q : α → Prop)
    (es : List Answered) (op : Action) (next : op.Answer → Work α) : Prop where
  | between : P op → (∀ a, Made P U Q (next a)) → Asks P U Q es op next
  | inside {β : Type} {before asked : List Answered} {u : Work β} {rest : op.Answer → Work β}
      {k : β → Work α} : es = before ++ asked → U u →
      Stretch u asked (Program.ask (I := Action.interface) op rest) →
      next = (fun a => (rest a).bind k) → (∀ b, Made P U Q (k b)) → Asks P U Q es op next

theorem asks_of_made {op : Action} {next : op.Answer → Work α}
    (h : Made P U Q (Program.ask op next)) : Asks P U Q es op next := by
  rcases h.asked with ⟨hop, hnext⟩ | ⟨β, first, k, hu, rfl, hk⟩
  · exact .between hop hnext
  · exact .inside (List.append_nil es).symm hu .start rfl hk

theorem asks {op : Action} {next : op.Answer → Work α}
    (h : Place P U Q es (Program.ask op next)) : Asks P U Q es op next := by
  generalize hp : (Program.ask op next : Work α) = p at h
  cases h with
  | between hmade => exact asks_of_made (hp ▸ hmade)
  | @inside β before inside u r k hu hs hk =>
    cases r with
    | done b => exact asks_of_made (hp ▸ hk b)
    | ask op' rest =>
      cases hp
      exact .inside rfl hu hs rfl hk

theorem answered {op : Action} {next : op.Answer → Work α}
    (h : Place P U Q es (Program.ask op next)) (a : op.Answer) :
    Place P U Q (es ++ [⟨op, a⟩]) (next a) := by
  cases h.asks with
  | between _ hnext => exact .between (hnext a)
  | inside hes hu hs hnext hk =>
    subst hes hnext
    rw [List.append_assoc]
    exact .inside hu (hs.answered a) hk

theorem delayed {op : Action} {next : op.Answer → Work α}
    (h : Place P U Q es (Program.ask op next)) (hP : ∀ op, P op → op.exchanges = false)
    (a : op.Answer) (time : Nat) (hop : op.exchanges = true) :
    Place P U Q (es ++ [⟨op, a⟩]) (Program.ask (.pauseUntil time none) fun _ => next a) := by
  cases h.asks with
  | between hother => cases (hP op hother).symm.trans hop
  | inside hes hu hs hnext hk =>
    subst hes hnext
    rw [List.append_assoc]
    exact .inside hu (hs.delayed a time hop) hk

/-- At the end there is the result. -/
theorem of_done {a : α} (h : Place P U Q es (Program.done a)) : Q a := by
  generalize hp : (Program.done a : Work α) = p at h
  cases h with
  | between hmade => exact (hp ▸ hmade).of_done
  | @inside β before inside u r k _ _ hk =>
    cases r with
    | done b => exact (hp ▸ hk b : Made P U Q (Program.done a)).of_done
    | ask => cases hp

end Place

/-- **Whoever goes down a program made of units is between two of them, or in one.** -/
theorem place {p q : Work α} {es : List Answered} (h : Made P U Q p) (hs : Stretch p es q)
    (hP : ∀ op, P op → op.exchanges = false) : Place P U Q es q := by
  induction hs with
  | start => exact .between h
  | answered a _ ih => exact ih.answered a
  | delayed a time _ hop ih => exact ih.delayed hP a time hop

end Made

end Work

end ChillerGateway
