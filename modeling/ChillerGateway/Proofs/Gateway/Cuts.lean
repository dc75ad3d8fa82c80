import ChillerGateway.Proofs.Gateway.Messages

/-!
# How a stream is cut

A network hands a stream over in pieces of its own choice.  A connection whose gateway answers alike
goes through the same dealings whatever the pieces are: the same lines are handled, with the same
questions and answers, and the same replies are sent.

* `AnsweredBy` — answers that depend on nothing but what was asked and answered before.
* `Work.Stretch.determined` — a program that is answered alike takes the same path.
* `World.same_replies_however_cut` — two conversations over one stream.
-/

namespace ChillerGateway

/-! ## Answers alike -/

/-- What was answered without the rests of drivers, which tell nothing. -/
def unrested (es : List Answered) : List Answered := es.filter fun x => !x.op.isRest

theorem unrested_append (es fs : List Answered) :
    unrested (es ++ fs) = unrested es ++ unrested fs := List.filter_append ..

theorem unrested_cons {x : Answered} (h : x.op.isRest = false) (es : List Answered) :
    unrested (x :: es) = x :: unrested es := List.filter_cons_of_pos (by rw [h]; rfl)

/-- After some answers, each one more is what a gateway answers after all before it. -/
def AnsweredBy (gateway : List Answered → (op : Action) → op.Answer) :
    List Answered → List Answered → Prop
  | _, [] => True
  | past, x :: es => x.answer = gateway past x.op ∧ AnsweredBy gateway (past ++ [x]) es

theorem answeredBy_append {gateway : List Answered → (op : Action) → op.Answer}
    {past es fs : List Answered} : AnsweredBy gateway past (es ++ fs) ↔
      AnsweredBy gateway past es ∧ AnsweredBy gateway (past ++ es) fs := by
  induction es generalizing past with
  | nil =>
    rw [List.append_nil]
    exact ⟨fun h => ⟨trivial, h⟩, fun h => h.2⟩
  | cons x es ih =>
    have happend : past ++ x :: es = past ++ [x] ++ es := List.append_cons _ _ _
    rw [happend]
    show (_ ∧ AnsweredBy gateway (past ++ [x]) (es ++ fs)) ↔ (_ ∧ _) ∧ _
    rw [ih, and_assoc]

namespace Work.Stretch

variable {α : Type} {p : Work α} {es fs past : List Answered} {a b : α}
  {gateway : List Answered → (op : Action) → op.Answer}

/-- A question on a path to the end, and what follows its answer but for a rest. -/
theorem ask_unrested {op : Action} {next : op.Answer → Work α}
    (h : Stretch (Program.ask op next) es (Program.done a)) (hop : op.isRest = false) :
    ∃ answer rest, unrested es = ⟨op, answer⟩ :: unrested rest ∧
      Stretch (next answer) rest (Program.done a) := by
  rcases h.asked with ⟨-, heq⟩ | ⟨answer, q, rest, rfl, hrest, hq⟩
  · cases heq
  · rw [unrested_cons hop]
    rcases hq with rfl | ⟨-, time, rfl⟩
    · exact ⟨answer, rest, rfl, hrest⟩
    · obtain ⟨_, after, rfl, hafter⟩ := hrest.ask_done rfl
      exact ⟨answer, after, rfl, hafter⟩

/-- **A program that is answered alike takes the same path to the same result.** -/
theorem determined (hp : p.Along (fun op : Action => op.isRest = false) fun _ => True)
    (h : Stretch p es (Program.done a)) (h' : Stretch p fs (Program.done b))
    (hes : AnsweredBy gateway past (unrested es)) (hfs : AnsweredBy gateway past (unrested fs)) :
    unrested es = unrested fs ∧ a = b := by
  induction p generalizing es fs past with
  | done r =>
    obtain ⟨rfl, ha⟩ := h.of_done
    obtain ⟨rfl, hb⟩ := h'.of_done
    cases ha
    cases hb
    exact ⟨rfl, rfl⟩
  | ask op next ih =>
    obtain ⟨answer, rest, hfirst, hrest⟩ := h.ask_unrested hp.1
    obtain ⟨answer', rest', hfirst', hrest'⟩ := h'.ask_unrested hp.1
    rw [hfirst] at hes ⊢
    rw [hfirst'] at hfs ⊢
    obtain rfl : answer = answer' := hes.1.trans hfs.1.symm
    obtain ⟨hsame, hresult⟩ := ih answer (hp.2 answer) hrest hrest' hes.2 hfs.2
    exact ⟨congrArg _ hsame, hresult⟩

end Work.Stretch

namespace Connection

variable {c : Connection} {intake : Intake} {past : List Answered}
  {gateway : List Answered → (op : Action) → op.Answer}

/-- Events that are served one after the other with answers alike are served the same way. -/
theorem sections_determined {events : List LineStream.Event}
    {sections sections' : List (List Answered)}
    (h : List.Forall₂ (c.Serves intake) events sections)
    (h' : List.Forall₂ (c.Serves intake) events sections')
    (hg : AnsweredBy gateway past (unrested sections.flatten))
    (hg' : AnsweredBy gateway past (unrested sections'.flatten)) :
    unrested sections.flatten = unrested sections'.flatten := by
  induction h generalizing past sections' with
  | nil => rw [List.forall₂_nil_left_iff.mp h']
  | @cons event asked events sections hserves _ ih =>
    obtain ⟨asked', rest', hserves', hrest', rfl⟩ := List.forall₂_cons_left_iff.mp h'
    rw [List.flatten_cons, unrested_append, answeredBy_append] at hg hg'
    have hfirst := (Work.Stretch.determined ((along_serve c intake event).mono
      (fun _ hop => hop.2) fun _ h => h) hserves hserves' hg.1 hg'.1).1
    rw [← hfirst] at hg'
    rw [List.flatten_cons, List.flatten_cons, unrested_append, unrested_append, ← hfirst,
      ih hrest' hg.2 hg'.2]

/-- To rest is not to reply. -/
theorem replies_unrested (es : List Answered) : replies (unrested es) = replies es := by
  induction es with
  | nil => rfl
  | cons x es ih =>
    cases hrest : x.op.isRest with
    | false =>
      rw [unrested_cons hrest]
      show replies ([x] ++ unrested es) = replies ([x] ++ es)
      rw [replies_append, replies_append, ih]
    | true =>
      have hgone : unrested (x :: es) = unrested es :=
        List.filter_cons_of_neg (by rw [hrest]; exact Bool.false_ne_true)
      rw [hgone, ih]
      obtain ⟨op, a⟩ := x
      cases op with
      | reply => cases hrest
      | _ => rfl

end Connection

/-! ## Two conversations -/

namespace World

/-- **Replies do not depend on how the network cuts the stream.**  Of a stream that comes in in any
two ways, a connection hands the same events on, each to be served to its end; and if the gateway
answers alike in what concerns them, then all questions and answers about them are the same, and so
are the replies. -/
theorem same_replies_however_cut {intake : Intake} {index : Nat} {client : String}
    {reads reads' : List (List UInt8)} {asked asked' : List Answered}
    {gateway : List Answered → (op : Action) → op.Answer}
    (h : Conversed intake index client reads asked)
    (h' : Conversed intake index client reads' asked')
    (hsame : reads.flatten = reads'.flatten)
    (hg : AnsweredBy gateway [] (unrested (Connection.dealings asked)))
    (hg' : AnsweredBy gateway [] (unrested (Connection.dealings asked'))) :
    (∃ sections sections' : List (List Answered),
      List.Forall₂ (({ index, client } : Connection).Serves intake)
        (LineStream.events reads.flatten) sections ∧
      List.Forall₂ (({ index, client } : Connection).Serves intake)
        (LineStream.events reads.flatten) sections' ∧
      Connection.dealings asked = sections.flatten ∧
      Connection.dealings asked' = sections'.flatten) ∧
    unrested (Connection.dealings asked) = unrested (Connection.dealings asked') ∧
    Connection.replies asked = Connection.replies asked' := by
  obtain ⟨sections, hserves, hdealings⟩ := h.sections
  obtain ⟨sections', hserves', hdealings'⟩ := h'.sections
  rw [← hsame] at hserves'
  have hequal : unrested (Connection.dealings asked) = unrested (Connection.dealings asked') := by
    rw [hdealings] at hg ⊢
    rw [hdealings'] at hg' ⊢
    exact Connection.sections_determined hserves hserves' hg hg'
  refine ⟨⟨sections, sections', hserves, hserves', hdealings, hdealings'⟩, hequal, ?_⟩
  rw [← Connection.replies_dealings, ← Connection.replies_unrested, hequal,
    Connection.replies_unrested, Connection.replies_dealings]

/-- A gateway that admits every request, and otherwise answers somehow. -/
def admitting (_ : List Answered) : (op : Action) → op.Answer
  | .countRequest _ => true
  | op => op.somehow

/-- Whether such a gateway answers so. -/
def isAdmitting : Answered → Bool
  | ⟨.countRequest _, allowed⟩ => allowed
  | ⟨.countError _, _⟩ | ⟨.reply .., _⟩ => true
  | _ => false

theorem answeredBy_admitting {es past : List Answered} (h : es.all isAdmitting = true) :
    AnsweredBy admitting past es := by
  induction es generalizing past with
  | nil => trivial
  | cons x es ih =>
    rw [List.all_cons, Bool.and_eq_true] at h
    refine ⟨?_, ih h.2⟩
    obtain ⟨op, a⟩ := x
    cases op with
    | countRequest => exact h.1
    | countError | reply => rfl
    | _ => cases h.1

/-- Cuts within a line, right after a line feed, and before the end. -/
theorem same_replies_two_cuts : ∃ asked asked',
    Conversed {} 0 "a" [[120], [10, 255], [10, 32]] asked ∧
    Conversed {} 0 "a" [[120, 10], [255, 10, 32]] asked' ∧
    Connection.replies asked = Connection.replies asked' ∧
    (Connection.replies asked).length = 2 := by
  have hthree : Conversed {} 0 "a" [[120], [10, 255], [10, 32]] _ :=
    conversed_hear 20 (by decide +kernel) (by decide +kernel)
  have htwo : Conversed {} 0 "a" [[120, 10], [255, 10, 32]] _ :=
    conversed_hear 20 (by decide +kernel) (by decide +kernel)
  have hequal := same_replies_however_cut hthree htwo rfl
    (answeredBy_admitting (by decide +kernel)) (answeredBy_admitting (by decide +kernel))
  exact ⟨_, _, hthree, htwo, hequal.2.2, by decide +kernel⟩

end World

end ChillerGateway
