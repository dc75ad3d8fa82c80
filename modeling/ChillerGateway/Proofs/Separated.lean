import Mathlib.Data.List.TakeWhile

/-!
# Up to a separator

Bytes that come in lines are cut at the first separator.

* `Separated.takeWhile_append`, `Separated.dropWhile_append` — the two parts of what has one.
* `Separated.takeWhile_eq_self`, `Separated.dropWhile_eq_nil` — and of what has none.
* `Separated.induction` — piece by piece.
-/

namespace ChillerGateway

namespace Separated

variable {α : Type} [DecidableEq α] {sep : α} {front : List α}

theorem forall_ne (h : sep ∉ front) : ∀ a ∈ front, decide (a ≠ sep) = true :=
  fun _ ha => decide_eq_true fun heq => h (heq ▸ ha)

theorem takeWhile_eq_self (h : sep ∉ front) : front.takeWhile (· ≠ sep) = front :=
  List.takeWhile_eq_self_iff.mpr (forall_ne h)

theorem dropWhile_eq_nil (h : sep ∉ front) : front.dropWhile (· ≠ sep) = [] :=
  List.dropWhile_eq_nil_iff.mpr (forall_ne h)

theorem takeWhile_append (h : sep ∉ front) (rest : List α) :
    (front ++ sep :: rest).takeWhile (· ≠ sep) = front := by
  rw [List.takeWhile_append_of_pos (forall_ne h), List.takeWhile_cons_of_neg (by simp),
    List.append_nil]

theorem dropWhile_append (h : sep ∉ front) (rest : List α) :
    (front ++ sep :: rest).dropWhile (· ≠ sep) = sep :: rest := by
  rw [List.dropWhile_append_of_pos (forall_ne h), List.dropWhile_cons_of_neg (by simp)]

/-- What holds of a text without a separator, and of one more piece before a text of which it
holds, holds of every text. -/
@[elab_as_elim]
theorem induction {motive : List α → Prop} (sep : α) (last : ∀ l, sep ∉ l → motive l)
    (piece : ∀ front rest, sep ∉ front → motive rest → motive (front ++ sep :: rest))
    (l : List α) : motive l := by
  induction hn : l.length using Nat.strongRecOn generalizing l with
  | ind n ih =>
    by_cases h : sep ∈ l
    · obtain ⟨front, rest, rfl, hfront⟩ := List.eq_append_cons_of_mem h
      rw [List.length_append, List.length_cons] at hn
      exact piece front rest hfront (ih rest.length (by omega) rest rfl)
    · exact last l h

end Separated

end ChillerGateway
