import ChillerGateway.Proofs.Device.LineCodec
import ChillerGateway.Proofs.Gateway.Conversation

/-!
# One reply for each message

The messages of a client are the pieces of its stream between line feeds.  Each of them gets one
reply, in their order, unless it is blank; only a last message that lacks its line feed and is not
made of characters gets none.

* `Text.ofBytes?_concat_return` — a carriage return at the end makes no difference to the characters
  before it.
* `LineStream.messages`, `LineStream.Torn` — the messages of a stream, and a stream that breaks off
  within one.
* `Connection.Replied` — what a message is answered.
* `World.replied_in_order` — what the messages of a stream are answered.
-/

namespace ChillerGateway

open Work (Stretch)

/-! ## Characters of a line -/

namespace Text

variable {bytes : List UInt8} {s : String}

/-- A byte that a character may begin with is at the end of an encoding only as a character of its
own. -/
theorem encoded_concat {m : List Char} {b : UInt8} (hb : b.IsUTF8FirstByte)
    (h : m.flatMap String.utf8EncodeChar = bytes ++ [b]) :
    ∃ m' : List Char, m'.flatMap String.utf8EncodeChar = bytes := by
  rcases List.eq_nil_or_concat m with rfl | ⟨m', c, rfl⟩
  · exact absurd h.symm (List.append_ne_nil_of_right_ne_nil _ (List.cons_ne_nil _ _))
  · rw [List.concat_eq_append, List.flatMap_append, List.flatMap_singleton] at h
    have hne : String.utf8EncodeChar c ≠ [] := String.utf8EncodeChar_ne_nil
    rw [← List.dropLast_concat_getLast hne, ← List.append_assoc] at h
    obtain ⟨hinit, hlast⟩ := List.append_inj' h rfl
    have hfirst : (String.utf8EncodeChar c).length - 1 = 0 := by
      have hfirst := List.getLast_eq_getElem hne
      rw [List.singleton_inj.mp hlast] at hfirst
      exact UInt8.isUTF8FirstByte_getElem_utf8EncodeChar.mp (hfirst ▸ hb)
    have hnil : (String.utf8EncodeChar c).dropLast = [] := by
      rw [← List.length_eq_zero_iff, List.length_dropLast, hfirst]
    rw [hnil, List.append_nil] at hinit
    exact ⟨m', hinit⟩

/-- A carriage return at the end is a character of its own. -/
theorem ofBytes?_concat_return (bytes : List UInt8) :
    ofBytes? (bytes ++ [13]) = (ofBytes? bytes).map (·.push '\r') := by
  cases h : ofBytes? bytes with
  | some s =>
    refine ofBytes?_eq_some.mpr ?_
    rw [String.toList_push, List.flatMap_append, ofBytes?_eq_some.mp h]
    rfl
  | none =>
    cases hall : ofBytes? (bytes ++ [13]) with
    | none => rfl
    | some s =>
      obtain ⟨m, hm⟩ := encoded_concat (.inl (by decide)) (ofBytes?_eq_some.mp hall)
      have hsome : ofBytes? bytes = some (String.ofList m) := ofBytes?_eq_some.mpr (by
        rwa [String.toList_ofList])
      cases h.symm.trans hsome

theorem trim_push_return (s : String) : trim (s.push '\r') = trim s := by
  unfold trim
  rw [String.toList_push, trimChars_concat_blank _ (by decide)]

end Text

/-! ## Messages -/

namespace LineStream

/-- Pieces without the last one, if that is of some kind. -/
def dropLastIf (p : List UInt8 → Bool) (pieces : List (List UInt8)) : List (List UInt8) :=
  if pieces.getLast?.any p then pieces.dropLast else pieces

/-- The messages of a stream: its pieces, but for an empty one at the end. -/
def messages (stream : List UInt8) : List (List UInt8) := dropLastIf List.isEmpty (pieces stream)

/-- Whether a message that is not too long is not made of characters. -/
def isGarbled (message : List UInt8) : Bool :=
  decide (message.length ≤ maxLine) && (Text.ofBytes? message).isNone

/-- A stream that breaks off within a garbled message. -/
def Torn (stream : List UInt8) : Prop := (pieces stream).getLast?.any isGarbled = true

/-- Whether the end of a stream gives nothing after this piece. -/
def isUnheard (piece : List UInt8) : Bool := piece.isEmpty || isGarbled piece

theorem dropLastIf_concat (p : List UInt8 → Bool) (lines : List (List UInt8)) (last : List UInt8) :
    dropLastIf p (lines ++ [last]) = if p last then lines else lines ++ [last] := by
  unfold dropLastIf
  rw [List.getLast?_concat, List.dropLast_concat]
  rfl

theorem dropLastIf_cons_cons (p : List UInt8 → Bool) (line next : List UInt8)
    (pieces : List (List UInt8)) :
    dropLastIf p (line :: next :: pieces) = line :: dropLastIf p (next :: pieces) := by
  unfold dropLastIf
  rw [List.getLast?_cons_cons]
  split
  · rfl
  · rfl

theorem isGarbled_nil : isGarbled [] = false := by
  unfold isGarbled
  rw [Text.ofBytes?_nil]
  rfl

/-- **The messages that are heard are all of them, but for the last one of a torn stream.** -/
theorem messages_eq (stream : List UInt8) :
    (¬ Torn stream ∧ dropLastIf isUnheard (pieces stream) = messages stream) ∨
      ∃ last, isGarbled last = true ∧ Torn stream ∧
        messages stream = dropLastIf isUnheard (pieces stream) ++ [last] := by
  obtain ⟨lines, last, hpieces⟩ : ∃ lines last, pieces stream = lines ++ [last] :=
    ⟨_, _, (List.dropLast_concat_getLast (pieces_ne_nil stream)).symm⟩
  unfold Torn messages
  rw [hpieces, List.getLast?_concat, dropLastIf_concat, dropLastIf_concat]
  unfold isUnheard
  show (¬ isGarbled last = true ∧ _) ∨ ∃ x, isGarbled x = true ∧ isGarbled last = true ∧ _
  cases hgarbled : isGarbled last with
  | false => exact .inl ⟨Bool.false_ne_true, by rw [Bool.or_false]⟩
  | true =>
    have hne : last.isEmpty = false := by
      cases last with
      | nil => cases isGarbled_nil.symm.trans hgarbled
      | cons => rfl
    refine .inr ⟨last, hgarbled, rfl, ?_⟩
    rw [hne]
    rfl

/-- The text of a message, as the decoder gives it. -/
theorem textEvent_cases (message : List UInt8) :
    (∃ text line, Text.ofBytes? message = some text ∧ textEvent message = .line line ∧
      Text.trim line = Text.trim text) ∨
      Text.ofBytes? message = none ∧ textEvent message = .unreadable := by
  unfold textEvent
  by_cases hreturn : message.getLast? = some 13
  · obtain ⟨body, rfl⟩ := List.getLast?_eq_some_iff.mp hreturn
    have hdrop : dropReturn (body ++ [13]) = body := by
      unfold dropReturn
      rw [if_pos hreturn, List.dropLast_concat]
    rw [hdrop, Text.ofBytes?_concat_return]
    cases Text.ofBytes? body with
    | some text => exact .inl ⟨_, text, rfl, rfl, (Text.trim_push_return text).symm⟩
    | none => exact .inr ⟨rfl, rfl⟩
  · have hdrop : dropReturn message = message := if_neg hreturn
    rw [hdrop]
    cases Text.ofBytes? message with
    | some text => exact .inl ⟨text, text, rfl, rfl, rfl⟩
    | none => exact .inr ⟨rfl, rfl⟩

end LineStream

namespace Connection

open LineStream (settle endEvents lineEvent maxLine isGarbled isUnheard dropLastIf)

variable {c : Connection} {intake : Intake} {message : List UInt8} {asked : List Answered}

/-! ## Replies -/

/-- A reply that was sent. -/
def reply? : Answered → Option Reply
  | ⟨.reply _ reply, _⟩ => some reply
  | _ => none

/-- The replies that were sent. -/
def replies (es : List Answered) : List Reply := es.filterMap reply?

theorem replies_append (es fs : List Answered) : replies (es ++ fs) = replies es ++ replies fs :=
  List.filterMap_append

theorem replies_eq_nil {es : List Answered} (h : ∀ x ∈ es, x.op.converses = false) :
    replies es = [] := by
  refine List.filterMap_eq_nil_iff.mpr fun x hx => ?_
  obtain ⟨op, a⟩ := x
  cases op with
  | reply => cases h _ hx
  | _ => rfl

/-- To read is not to reply. -/
theorem replies_dealings (es : List Answered) : replies (dealings es) = replies es := by
  induction es with
  | nil => rfl
  | cons x es ih =>
    rw [dealings_cons]
    split
    · rename_i hreads
      obtain ⟨op, a⟩ := x
      rw [ih]
      cases op with
      | reply => cases hreads
      | _ => rfl
    · show replies ([x] ++ dealings es) = replies ([x] ++ es)
      rw [replies_append, replies_append, ih]

/-- What a message is answered, and the reply that it gets: none if it is blank, an error if it is
too long or not made of characters, and else the reply to its text. -/
inductive Replied (c : Connection) (intake : Intake) (message : List UInt8) :
    List Answered → Option Reply → Prop where
  | tooLarge : maxLine < message.length →
      Replied c intake message [⟨.reply c.index .tooLarge, ()⟩] (some .tooLarge)
  | unreadable : message.length ≤ maxLine → Text.ofBytes? message = none →
      Replied c intake message
        [⟨.countError unreadable.kind, ()⟩, ⟨.reply c.index (.ofResult (.error unreadable)), ()⟩]
        (some (.ofResult (.error unreadable)))
  | blank {text} : message.length ≤ maxLine → Text.ofBytes? message = some text →
      (Text.trim text).isEmpty = true → Replied c intake message [] none
  | answered {text handled result} : message.length ≤ maxLine →
      Text.ofBytes? message = some text → (Text.trim text).isEmpty = false →
      Stretch (Gateway.handling true intake (Text.trim text) c.client) handled
        (Program.done result) →
      Replied c intake message (handled ++ [⟨.reply c.index (.ofResult result), ()⟩])
        (some (.ofResult result))

/-- A message gets this reply and no other. -/
theorem Replied.replies_eq {reply : Option Reply} (h : c.Replied intake message asked reply) :
    replies asked = reply.toList := by
  cases h with
  | tooLarge | unreadable | blank => rfl
  | answered _ _ _ hhandled =>
    have hnone := (hhandled.along ((Gateway.along_handling true intake _ c.client).mono
      (fun _ hop => hop.1) fun _ h => h) fun _ => rfl).1
    rw [replies_append, replies_eq_nil hnone]
    rfl

/-- The text of a message is answered as a line. -/
theorem Serves.replied {text line : String} (hlength : message.length ≤ maxLine)
    (htext : Text.ofBytes? message = some text) (hline : Text.trim line = Text.trim text)
    (h : c.Serves intake (.line line) asked) : ∃ reply, c.Replied intake message asked reply := by
  unfold Serves at h
  cases hblank : (Text.trim line).isEmpty with
  | true =>
    rw [serve_blank hblank] at h
    obtain ⟨rfl, -⟩ := h.of_done
    exact ⟨none, .blank hlength htext (hline ▸ hblank)⟩
  | false =>
    rw [serve_line hblank] at h
    obtain ⟨result, handled, rest, rfl, hhandled, hreply⟩ := h.bind_done
    obtain ⟨_, _, rfl, hdone⟩ := Stretch.ask_done hreply rfl
    obtain ⟨rfl, -⟩ := Stretch.of_done hdone
    rw [hline] at hblank hhandled
    exact ⟨_, .answered hlength htext hblank hhandled⟩

/-- The event of a message with its line feed is answered as the message. -/
theorem Serves.replied_line (h : c.Serves intake (lineEvent message) asked) :
    ∃ reply, c.Replied intake message asked reply := by
  unfold lineEvent at h
  split at h
  · rename_i hover
    obtain ⟨_, _, rfl, hdone⟩ := Stretch.ask_done h rfl
    obtain ⟨rfl, -⟩ := Stretch.of_done hdone
    exact ⟨_, .tooLarge hover⟩
  · rename_i hwithin
    rcases LineStream.textEvent_cases message with ⟨text, line, htext, hevent, hline⟩ |
      ⟨htext, hevent⟩
    · rw [hevent] at h
      exact h.replied (Nat.not_lt.mp hwithin) htext hline
    · rw [hevent] at h
      obtain ⟨_, _, rfl, hcounted⟩ := Stretch.ask_done h rfl
      obtain ⟨_, _, rfl, hdone⟩ := Stretch.ask_done hcounted rfl
      obtain ⟨rfl, -⟩ := Stretch.of_done hdone
      exact ⟨_, .unreadable (Nat.not_lt.mp hwithin) htext⟩

/-- The end of a stream is answered as the last message, unless that is garbled. -/
theorem replied_end {sections : List (List Answered)}
    (h : List.Forall₂ (c.Serves intake) (endEvents message) sections) :
    (isGarbled message = false ∧ ∃ reply, c.Replied intake message sections.flatten reply) ∨
      isGarbled message = true ∧ sections = [] := by
  have hlone : ∀ {event}, List.Forall₂ (c.Serves intake) [event] sections →
      c.Serves intake event sections.flatten := by
    intro event hone
    obtain ⟨asked, rest, hserves, hrest, rfl⟩ := List.forall₂_cons_left_iff.mp hone
    obtain rfl := List.forall₂_nil_left_iff.mp hrest
    rwa [List.flatten_singleton]
  unfold endEvents at h
  unfold isGarbled
  split at h
  · rename_i hover
    refine .inl ⟨?_, Serves.replied_line ?_⟩
    · rw [decide_eq_false (Nat.not_le.mpr hover), Bool.false_and]
    · unfold lineEvent
      rw [if_pos hover]
      exact hlone h
  · rename_i hwithin
    have hlength := Nat.not_lt.mp hwithin
    rw [decide_eq_true hlength, Bool.true_and]
    unfold LineStream.last? at h
    split at h
    · -- There is nothing but a carriage return.
      rename_i hempty
      obtain rfl := List.forall₂_nil_left_iff.mp h
      simp only [Bool.false_or, Bool.or_eq_true, List.isEmpty_iff, decide_eq_true_eq] at hempty
      have hreturn := Text.ofBytes?_concat_return []
      rw [Text.ofBytes?_nil, List.nil_append] at hreturn
      rcases hempty with rfl | rfl
      · exact .inl ⟨by rw [Text.ofBytes?_nil]; rfl, none,
          .blank hlength Text.ofBytes?_nil (by decide)⟩
      · exact .inl ⟨by rw [hreturn]; rfl, none, .blank hlength hreturn (by decide)⟩
    · rcases LineStream.textEvent_cases message with ⟨text, line, htext, hevent, hline⟩ |
        ⟨htext, hevent⟩
      · rw [hevent] at h
        exact .inl ⟨by rw [htext]; rfl, Serves.replied hlength htext hline (hlone h)⟩
      · rw [hevent] at h
        exact .inr ⟨by rw [htext]; rfl, List.forall₂_nil_left_iff.mp h⟩

/-- Nothing is no message. -/
theorem Replied.of_nil {reply : Option Reply} (h : c.Replied intake [] asked reply) :
    asked = [] ∧ reply = none := by
  cases h with
  | tooLarge hover => cases hover
  | unreadable _ htext => cases Text.ofBytes?_nil.symm.trans htext
  | blank => exact ⟨rfl, rfl⟩
  | answered _ htext hblank =>
    cases Text.ofBytes?_nil.symm.trans htext
    cases hblank

/-- An answer to a message: all that was asked for it, and its reply. -/
def Answers (c : Connection) (intake : Intake) (message : List UInt8)
    (answer : List Answered × Option Reply) : Prop := c.Replied intake message answer.1 answer.2

/-- The pieces of a stream are answered one after the other, up to a last one that is not heard. -/
theorem answers_settle {pieces : List (List UInt8)} {sections : List (List Answered)}
    (hne : pieces ≠ []) (h : List.Forall₂ (c.Serves intake) (settle pieces) sections) :
    ∃ answers, List.Forall₂ (c.Answers intake) (dropLastIf isUnheard pieces) answers ∧
      sections.flatten = (answers.map Prod.fst).flatten := by
  induction pieces generalizing sections with
  | nil => exact absurd rfl hne
  | cons line pieces ih =>
    cases pieces with
    | nil =>
      have hlast := LineStream.dropLastIf_concat isUnheard [] line
      rw [List.nil_append] at hlast
      rw [hlast]
      unfold isUnheard
      rcases replied_end h with ⟨hreadable, reply, hreply⟩ | ⟨hgarbled, rfl⟩
      · rw [hreadable, Bool.or_false]
        split
        · rename_i hempty
          obtain rfl := List.isEmpty_iff.mp hempty
          exact ⟨[], .nil, hreply.of_nil.1⟩
        · exact ⟨[(sections.flatten, reply)], .cons hreply .nil, List.flatten_singleton.symm⟩
      · rw [hgarbled, Bool.or_true]
        exact ⟨[], .nil, rfl⟩
    | cons next pieces =>
      obtain ⟨asked, rest, hserves, hrest, rfl⟩ := List.forall₂_cons_left_iff.mp h
      obtain ⟨reply, hreply⟩ := hserves.replied_line
      obtain ⟨answers, hanswers, hflat⟩ := ih (List.cons_ne_nil _ _) hrest
      rw [LineStream.dropLastIf_cons_cons]
      refine ⟨(asked, reply) :: answers, .cons hreply hanswers, ?_⟩
      rw [List.flatten_cons, hflat]
      rfl

/-- Whether a message gets no reply. -/
def isBlank (message : List UInt8) : Bool :=
  decide (message.length ≤ maxLine) &&
    (Text.ofBytes? message).any fun text => (Text.trim text).isEmpty

theorem Replied.isSome_eq {reply : Option Reply} (h : c.Replied intake message asked reply) :
    reply.isSome = !isBlank message := by
  unfold isBlank
  cases h with
  | tooLarge hover =>
    rw [decide_eq_false (Nat.not_le.mpr hover)]
    rfl
  | unreadable hlength htext =>
    rw [decide_eq_true hlength, htext]
    rfl
  | blank hlength htext hblank =>
    rw [decide_eq_true hlength, htext, Option.any_some, hblank]
    rfl
  | answered hlength htext hblank =>
    rw [decide_eq_true hlength, htext, Option.any_some, hblank]
    rfl

/-- There are as many replies as messages that are not blank. -/
theorem length_of_answers {messages : List (List UInt8)}
    {answers : List (List Answered × Option Reply)}
    (h : List.Forall₂ (c.Answers intake) messages answers) :
    (answers.filterMap Prod.snd).length = messages.countP fun message => !isBlank message := by
  induction h with
  | nil => rfl
  | @cons message answer messages answers hanswer _ ih =>
    have hsome := Replied.isSome_eq hanswer
    rw [List.countP_cons, ← ih, ← hsome, List.filterMap_cons]
    cases answer.2 <;> rfl

/-- The replies are those to the messages. -/
theorem replies_of_answers {messages : List (List UInt8)}
    {answers : List (List Answered × Option Reply)}
    (h : List.Forall₂ (c.Answers intake) messages answers) :
    replies (answers.map Prod.fst).flatten = answers.filterMap Prod.snd := by
  induction h with
  | nil => rfl
  | @cons message answer messages answers hanswer _ ih =>
    rw [List.map_cons, List.flatten_cons, replies_append, ih, Replied.replies_eq hanswer,
      List.filterMap_cons]
    cases answer.2 <;> rfl

end Connection

namespace World

open LineStream (messages Torn)

/-- **Every message gets exactly one reply, in order, unless it is blank**: what a connection is
answered beside its readings belongs to the messages of the stream, one after the other.  This is so
exactly if the stream is not torn, for its last message gets no reply then.  In any case the
connection comes to its end, however the stream comes in. -/
theorem replied_in_order {intake : Intake} {index : Nat} {client : String}
    {reads : List (List UInt8)} {asked : List Answered}
    (h : Conversed intake index client reads asked) :
    ((∃ answers : List (List Answered × Option Reply),
      List.Forall₂ (({ index, client } : Connection).Answers intake)
        (messages reads.flatten) answers ∧
      Connection.dealings asked = (answers.map Prod.fst).flatten ∧
      Connection.replies asked = answers.filterMap Prod.snd) ↔ ¬ Torn reads.flatten) ∧
    Connection.Ends intake reads.flatten
      (Program.done (.again (.connection { index, client }))) := by
  obtain ⟨sections, hserves, hdealings⟩ := h.sections
  obtain ⟨answers, hanswers, hflat⟩ :=
    Connection.answers_settle (LineStream.pieces_ne_nil _) hserves
  have hreplies : Connection.replies asked = answers.filterMap Prod.snd := by
    rw [← Connection.replies_dealings, hdealings, hflat, Connection.replies_of_answers hanswers]
  refine ⟨?_, Connection.ends_again _ _ _⟩
  rcases LineStream.messages_eq reads.flatten with ⟨hwhole, hmessages⟩ |
    ⟨last, hgarbled, htorn, hmessages⟩
  · rw [← hmessages]
    exact iff_of_true ⟨answers, hanswers, hdealings.trans hflat, hreplies⟩ hwhole
  · refine iff_of_false ?_ (not_not_intro htorn)
    rintro ⟨all, hall, -, hsame⟩
    -- The last message would have to get a reply.
    have hcount := Connection.length_of_answers hall
    have hnot : Connection.isBlank last = false := by
      unfold LineStream.isGarbled at hgarbled
      rw [Bool.and_eq_true, Option.isNone_iff_eq_none] at hgarbled
      unfold Connection.isBlank
      rw [hgarbled.2, Option.any_none, Bool.and_false]
    rw [← hsame, hreplies, Connection.length_of_answers hanswers, hmessages, List.countP_append,
      List.countP_singleton, hnot] at hcount
    exact absurd hcount (Nat.lt_succ_self _).ne

/-! ### A client by itself -/

/-- A gateway with one client. -/
def visited : World :=
  (((start none {} none (.simulated { bath := {} })).openConnection? "a").map Prod.snd).getD {}

/-- A client sends pieces of a stream and then ends it, and the gateway takes turns in between. -/
def hear (turns : Nat) (index : Nat) : List (List UInt8) → World → List Event × World
  | [], w => played turns (w.endInput index)
  | piece :: pieces, w =>
    let (es, w) := played turns (w.deliver index piece)
    let (fs, w) := hear turns index pieces w
    (es ++ fs, w)

theorem hear_run (turns index : Nat) (pieces : List (List UInt8)) (w : World) :
    Run w (hear turns index pieces w).1 (hear turns index pieces w).2 := by
  induction pieces generalizing w with
  | nil => exact (Run.start.controlled (.endInput index)).trans (played_run turns _)
  | cons piece pieces ih =>
    have hpiece := (Run.start.controlled (.deliver index piece)).trans
      (played_run turns (w.deliver index piece))
    exact hpiece.trans (ih _)

theorem conversed_hear (turns : Nat) {reads : List (List UInt8)}
    (hgone : (hear turns 0 reads visited).2.tasks.isEmpty = true)
    (hreads : Connection.readings (own 1 (hear turns 0 reads visited).1) =
      reads.map .bytes ++ [.ended]) :
    Conversed {} 0 "a" reads (own 1 (hear turns 0 reads visited).1) := by
  have hfresh := fresh_start none {} none (.simulated { bath := {} }) fun _ => ""
  have hopened : (start none {} none (.simulated { bath := {} })).openConnection? "a" =
      some (0, visited) := rfl
  have hnumbered : Numbered visited :=
    (Run.start.controlled (.openConnection hopened)).numbered hfresh.numbered
  refine ⟨visited, _, _, ⟨1, .connection 0, _⟩, hnumbered, rfl, hear_run turns 0 reads visited,
    List.mem_singleton_self _, rfl, ?_, rfl, hreads⟩
  rw [List.isEmpty_iff.mp hgone]
  exact fun u hu => by cases hu

/-- A malformed line and one that is not made of characters get an error each, and a blank end gets
none. -/
theorem replied_in_order_three : ∃ asked, Conversed {} 0 "a" [[120], [10, 255], [10, 32]] asked ∧
    (∃ answers : List (List Answered × Option Reply),
      List.Forall₂ (({ index := 0, client := "a" } : Connection).Answers {})
        [[120], [255], [32]] answers ∧
      Connection.replies asked = answers.filterMap Prod.snd) ∧
    (Connection.replies asked).length = 2 := by
  have hconversed : Conversed {} 0 "a" [[120], [10, 255], [10, 32]] _ :=
    conversed_hear 20 (by decide +kernel) (by decide +kernel)
  obtain ⟨hexact, -⟩ := replied_in_order hconversed
  obtain ⟨answers, hanswers, -, hreplies⟩ := hexact.mpr (by unfold Torn; decide +kernel)
  exact ⟨_, hconversed, ⟨answers, hanswers, hreplies⟩, by decide +kernel⟩

/-- A byte that is no character, and then the end: the client gets no reply. -/
theorem torn_without_reply : ∃ asked, Conversed {} 0 "a" [[255]] asked ∧
    messages [255] = [[255]] ∧ Connection.isBlank [255] = false ∧ Connection.replies asked = [] ∧
    ¬ ∃ answers : List (List Answered × Option Reply),
      List.Forall₂ (({ index := 0, client := "a" } : Connection).Answers {})
        (messages [255]) answers ∧
      Connection.replies asked = answers.filterMap Prod.snd := by
  have hconversed : Conversed {} 0 "a" [[255]] _ :=
    conversed_hear 20 (by decide +kernel) (by decide +kernel)
  have hnone : Connection.replies (own 1 (hear 20 0 [[255]] visited).1) = [] := by decide +kernel
  refine ⟨_, hconversed, by decide +kernel, by decide +kernel, hnone, ?_⟩
  rintro ⟨answers, hanswers, hreplies⟩
  have hcount := Connection.length_of_answers hanswers
  rw [← hreplies, hnone] at hcount
  exact absurd hcount (by decide +kernel)

end World

end ChillerGateway
