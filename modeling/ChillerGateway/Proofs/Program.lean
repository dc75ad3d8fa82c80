import ChillerGateway.Program

/-!
# All paths of a program

* `Program.Along` — what holds of all questions and of the result, whatever is answered.
* `Program.AlongIf` — what holds of them as long as the answers are such as can be given.
* `Program.within_bind` — other questions in place of a program's own, one part after the other.
-/

namespace ChillerGateway

namespace Program

variable {I J : Interface} {α β : Type}

/-- Whatever a program is answered, its questions satisfy `P` and its result `Q`. -/
def Along (P : I.Op → Prop) (Q : α → Prop) : Program I α → Prop
  | done a => Q a
  | ask op next => P op ∧ ∀ answer, (next answer).Along P Q

namespace Along

variable {P P' : I.Op → Prop} {Q : α → Prop} {R : β → Prop}

theorem bind {p : Program I α} {f : α → Program I β} (h : p.Along P Q)
    (hf : ∀ a, Q a → (f a).Along P R) : (p.bind f).Along P R := by
  induction p with
  | done a => exact hf a h
  | ask op next ih => exact ⟨h.1, fun answer => ih answer (h.2 answer)⟩

theorem mono {Q' : α → Prop} {p : Program I α} (h : p.Along P Q) (hP : ∀ op, P op → P' op)
    (hQ : ∀ a, Q a → Q' a) : p.Along P' Q' := by
  induction p with
  | done a => exact hQ a h
  | ask op next ih => exact ⟨hP op h.1, fun answer => ih answer (h.2 answer)⟩

end Along

/-- As long as what a program is answered satisfies `H`, its questions with their answers satisfy `P`
and its result `Q`. -/
def AlongIf (H P : (op : I.Op) → I.Answer op → Prop) (Q : α → Prop) : Program I α → Prop
  | done a => Q a
  | ask op next => ∀ answer, H op answer → P op answer ∧ (next answer).AlongIf H P Q

namespace AlongIf

variable {H H' P P' : (op : I.Op) → I.Answer op → Prop} {Q Q' : α → Prop} {R : β → Prop}
  {p : Program I α}

theorem bind {f : α → Program I β} (h : p.AlongIf H P Q) (hf : ∀ a, Q a → (f a).AlongIf H P R) :
    (p.bind f).AlongIf H P R := by
  induction p with
  | done a => exact hf a h
  | ask op next ih => exact fun answer ha => ⟨(h answer ha).1, ih answer (h answer ha).2⟩

theorem mono (h : p.AlongIf H P Q) (hH : ∀ op a, H' op a → H op a)
    (hP : ∀ op a, P op a → P' op a) (hQ : ∀ a, Q a → Q' a) : p.AlongIf H' P' Q' := by
  induction p with
  | done a => exact hQ a h
  | ask op next ih =>
    intro answer ha
    obtain ⟨hop, hnext⟩ := h answer (hH op answer ha)
    exact ⟨hP op answer hop, ih answer hnext⟩

/-- What holds whatever is answered. -/
theorem of_along {P : I.Op → Prop} (h : p.Along P Q) : p.AlongIf H (fun op _ => P op) Q := by
  induction p with
  | done a => exact h
  | ask op next ih => exact fun answer _ => ⟨h.1, ih answer (h.2 answer)⟩

end AlongIf

theorem within_bind (f : (op : I.Op) → Program J (I.Answer op)) (p : Program I α)
    (k : α → Program I β) : (p.bind k).within f = (p.within f).bind fun a => (k a).within f := by
  induction p with
  | done a => rfl
  | ask op next ih => simp only [bind, within, ih, bind_assoc]

end Program

end ChillerGateway
