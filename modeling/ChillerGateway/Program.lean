/-!
# Programs

A program is a finite tree: it is done with a result, or asks its surroundings a question and goes
on with whatever is answered.  What a program may ask is an `Interface`, with the type of answer
each question has.

* `Program.run` — a program among surroundings that answer in some monad.
* `Program.within` — a program that asks other questions in place of its own.

A statement about all runs of a program is a statement about all paths of its tree.
-/

namespace ChillerGateway

/-- What may be asked, and what kind of answer is given. -/
structure Interface where
  Op : Type
  Answer : Op → Type

/-- A program that asks questions of the interface `I` and ends with an `α`. -/
inductive Program (I : Interface) (α : Type) where
  | done (a : α)
  | ask (op : I.Op) (next : I.Answer op → Program I α)

namespace Program

variable {I J : Interface} {α β : Type}

/-- The first program, then the second with its result. -/
def bind : Program I α → (α → Program I β) → Program I β
  | done a, f => f a
  | ask op next, f => ask op fun answer => (next answer).bind f

instance : Monad (Program I) where
  pure := done
  bind := bind

/-- One question. -/
def perform (op : I.Op) : Program I (I.Answer op) := ask op done

/-- The result of a program whose questions are answered in a monad. -/
def run {m : Type → Type} [Monad m] (answer : (op : I.Op) → m (I.Answer op)) : Program I α → m α
  | done a => pure a
  | ask op next => do
    let a ← answer op
    (next a).run answer

/-- The program with each question replaced by a program that answers it. -/
def within (f : (op : I.Op) → Program J (I.Answer op)) : Program I α → Program J α
  | done a => done a
  | ask op next => (f op).bind fun answer => (next answer).within f

@[simp] theorem pure_eq (a : α) : (pure a : Program I α) = done a := rfl

@[simp] theorem bind_eq (p : Program I α) (f : α → Program I β) : p >>= f = p.bind f := rfl

@[simp] theorem bind_done (p : Program I α) : p.bind done = p := by
  induction p with
  | done a => rfl
  | ask op next ih => simp only [bind, ih]

theorem bind_assoc {γ : Type} (p : Program I α) (f : α → Program I β) (g : β → Program I γ) :
    (p.bind f).bind g = p.bind fun a => (f a).bind g := by
  induction p with
  | done a => rfl
  | ask op next ih => simp only [bind, ih]

end Program

end ChillerGateway
