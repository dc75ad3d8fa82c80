import ChillerGateway.Proofs.Gateway.ReadOnly

/-!
# Lines without the token

A gateway that needs a token looks at nothing else before it has seen it.  A line that does not carry
the token is counted and fails, in a way that is in the line alone: no device, no schedule and no
setting has a part in it, so whoever lacks the token learns nothing about any of them.

* `Gateway.Bears` — a line that carries a token.
* `Gateway.denial` — how a line fails that does not.
* `World.unauthorized_sealed` — such a line in a run, and in any two runs.
-/

namespace ChillerGateway

/-- Whether a question does no more than count a request or a failure. -/
def Action.counts : Action → Bool
  | .countRequest _ | .countError _ => true
  | _ => false

namespace Gateway

open Work (Stretch)

/-- A line carries a token when the request that it holds does. -/
def Bears (line token : String) : Prop := ∃ r, Request.ofLine? line = some r ∧ r.token = some token

/-- How a line fails that does not carry the token. -/
def denial (intake : Intake) (line : String) : Error :=
  match Request.parse line intake.remark with
  | .error e => e
  | .ok _ => .permission

variable {intake : Intake} {line token client : String} {es : List Answered}
  {q : Work (Except Error Json)}

/-- Nothing is asked on behalf of a line that does not carry the token. -/
theorem outcome_of_not_bears (hauth : intake.auth = some token) (h : ¬ Bears line token) :
    outcome intake line client = Program.done (.error (denial intake line)) := by
  unfold outcome denial
  cases hline : Request.parse line intake.remark with
  | error e => rfl
  | ok r =>
    have hrefused : isAuthorized (some token) r = false :=
      beq_eq_false_iff_ne.mpr fun htoken => h ⟨r, Request.parse_eq_ok_iff.mp hline, htoken⟩
    simp only [process, hauth, hrefused, Bool.not_false, if_true]
    rfl

/-- A failure is counted, and that is all. -/
theorem stretch_counted {e : Error} (h : Stretch (counted (.error e)) es q) :
    (es = [] ∧ q = counted (.error e)) ∨
      (es = [⟨.countError e.kind, ()⟩] ∧ q = Program.done (.error e)) := by
  rcases h.asked_other rfl with hstart | ⟨_, fs, rfl, hfs⟩
  · exact .inl hstart
  · obtain ⟨rfl, rfl⟩ := Stretch.of_done hfs
    exact .inr ⟨rfl, rfl⟩

/-- How a line fails that does not carry the token, by what the limit of its client says. -/
def verdict (intake : Intake) (allowed : Bool) (line : String) : Error :=
  if allowed then denial intake line else .rateLimited

/-- The handling of such a line: it is counted, and then its failure is. -/
theorem handling_of_not_bears (limited : Bool) (hauth : intake.auth = some token)
    (h : ¬ Bears line token) :
    handling limited intake line client =
      (if limited then Work.ask (.countRequest client) else Program.done true).bind fun allowed =>
        counted (.error (verdict intake allowed line)) := by
  have hcounted : (outcome intake line client).bind counted =
      counted (.error (denial intake line)) := by rw [outcome_of_not_bears hauth h]; rfl
  unfold handling
  cases limited with
  | false => exact hcounted
  | true =>
    refine congrArg (Program.ask (I := Action.interface) (.countRequest client))
      (funext fun allowed => ?_)
    cases allowed with
    | false => rfl
    | true => exact hcounted

/-- How far the handling of such a line is: what was answered and what is left. -/
structure Denied (intake : Intake) (line client : String) (es : List Answered)
    (q : Work (Except Error Json)) : Prop where
  /-- It is over after two questions at the latest. -/
  length : es.length ≤ 2
  asked : ∀ x ∈ es, x.op.counts = true
  next : ∀ op next, q = Program.ask op next → op.counts = true
  limited : ∀ result, q = Program.done result → ⟨.countRequest client, false⟩ ∈ es →
    result = .error .rateLimited
  denied : ∀ result, q = Program.done result → ⟨.countRequest client, false⟩ ∉ es →
    result = .error (denial intake line)

theorem Denied.pending {op : Action} {next : op.Answer → Work (Except Error Json)}
    (hlength : es.length ≤ 1) (hes : ∀ x ∈ es, x.op.counts = true) (hop : op.counts = true) :
    Denied intake line client es (Program.ask op next) where
  length := Nat.le_succ_of_le hlength
  asked := hes
  next := by
    rintro _ _ ⟨⟩
    exact hop
  limited := by rintro _ ⟨⟩
  denied := by rintro _ ⟨⟩

/-- The failure is all that is left to count. -/
theorem Denied.of_counted {before : List Answered} {allowed : Bool}
    (hbefore : before = [] ∧ allowed = true ∨ before = [⟨.countRequest client, allowed⟩])
    (h : Stretch (counted (.error (verdict intake allowed line))) es q) :
    Denied intake line client (before ++ es) q := by
  have hlength : before.length ≤ 1 := by
    rcases hbefore with ⟨rfl, -⟩ | rfl
    · exact Nat.zero_le 1
    · exact Nat.le_refl 1
  have hcounts : ∀ x ∈ before, x.op.counts = true := by
    rcases hbefore with ⟨rfl, -⟩ | rfl
    · exact fun x hx => by cases hx
    · exact List.forall_mem_singleton.mpr rfl
  have hrefused : ⟨.countRequest client, false⟩ ∈ before ↔ allowed = false := by
    rcases hbefore with ⟨rfl, rfl⟩ | rfl
    · simp
    · cases allowed <;> simp
  rcases stretch_counted h with ⟨rfl, rfl⟩ | ⟨rfl, rfl⟩
  · rw [List.append_nil]
    exact .pending hlength hcounts rfl
  · have hmem : ⟨.countRequest client, false⟩ ∈ before ++
        [⟨.countError (verdict intake allowed line).kind, ()⟩] ↔ allowed = false := by
      rw [List.mem_append, hrefused]
      simp
    refine ⟨?_, List.forall_mem_append.mpr ⟨hcounts, List.forall_mem_singleton.mpr rfl⟩, ?_, ?_, ?_⟩
    · rw [List.length_append]
      exact Nat.add_le_add hlength (Nat.le_refl 1)
    · rintro _ _ ⟨⟩
    · rintro _ ⟨⟩ hlimited
      rw [hmem.mp hlimited]
      rfl
    · rintro _ ⟨⟩ hallowed
      rw [Bool.eq_true_of_not_eq_false fun hnot => hallowed (hmem.mpr hnot)]
      rfl

/-- **A line that does not carry the token is counted and fails, with nothing else asked.** -/
theorem denied_handling {limited : Bool} (hauth : intake.auth = some token) (h : ¬ Bears line token)
    (hs : Stretch (handling limited intake line client) es q) : Denied intake line client es q := by
  rw [handling_of_not_bears limited hauth h] at hs
  cases limited with
  | false =>
    have hdenied : Denied intake line client ([] ++ es) q := .of_counted (.inl ⟨rfl, rfl⟩) hs
    exact hdenied
  | true =>
    rcases Stretch.asked_other hs rfl with ⟨rfl, rfl⟩ | ⟨allowed, fs, rfl, hfs⟩
    · exact .pending (Nat.zero_le 1) (fun x hx => by cases hx) rfl
    · exact .of_counted (.inr rfl) hfs

end Gateway

namespace World

variable {C : World → Prop} {v w : World} {es : List Event} {line token client : String}
  {asked : List Answered} {q : Work (Except Error Json)}

/-- Counting is done at once and changes the counts alone. -/
theorem act_counts {op : Action} (h : op.counts = true) (u : World) (me : Nat) :
    ∃ a limiter metrics, u.act me op = .answered a { u with limiter, metrics } := by
  cases op with
  | countRequest client =>
    simp only [act, World.countRequest]
    cases u.limiter with
    | none => exact ⟨true, u.limiter, u.metrics, rfl⟩
    | some limiter => exact ⟨_, some (limiter.allowAt client u.wallClock).2, u.metrics, rfl⟩
  | countError kind => exact ⟨(), u.limiter, u.metrics.map (·.recordError kind), rfl⟩
  | _ => cases h

/-- **Without the token nothing is reached and nothing is told.**  A line that does not carry the
token of its gateway is counted and fails after two questions at the latest; each of them is answered
at once, and neither its answer nor the turn of a worker that comes to it changes anything but counts.
How the line fails does not depend on the gateway, unless the limit of its client has a part in it:
any other that takes in lines in the same way answers alike. -/
theorem unauthorized_sealed (hv : v.intake.auth = some token) (hline : ¬ Gateway.Bears line token)
    (h : Handling C v es w line client asked q) :
    asked.length ≤ 2 ∧
    (∀ x ∈ asked, x.op.counts = true ∧ ∀ (u : World) me, ∃ a limiter metrics,
      u.act me x.op = .answered a { u with limiter, metrics }) ∧
    (∀ op next, q = Program.ask op next → ∀ (u : World) (t : Task) k, t.program = q.bind k →
      ∃ a limiter metrics,
        u.turn t = { u with limiter, metrics }.setProgram t.id ((next a).bind k)) ∧
    (⟨.countRequest client, false⟩ ∈ asked →
      ∀ result, q = Program.done result → result = .error .rateLimited) ∧
    (⟨.countRequest client, false⟩ ∉ asked →
      ∀ result, q = Program.done result → result = .error (Gateway.denial v.intake line) ∧
        ∀ C' v' es' w' client' asked' result', v'.intake = v.intake →
          Handling C' v' es' w' line client' asked' (Program.done result') →
          ⟨.countRequest client', false⟩ ∉ asked' →
          Reply.ofResult result' = Reply.ofResult result) := by
  have hdenied : ∀ {C v es w client asked q}, v.intake.auth = some token →
      Handling C v es w line client asked q → Gateway.Denied v.intake line client asked q := by
    rintro C v es w client asked q hv ⟨_, _, _, -, -, -, _, -, _, _, -, -, hstretch⟩
    exact Gateway.denied_handling hv hline hstretch
  have hmine := hdenied hv h
  refine ⟨hmine.length, fun x hx => ⟨hmine.asked x hx, act_counts (hmine.asked x hx)⟩, ?_,
    fun hmem result hq => hmine.limited result hq hmem, fun hmem result hq => ?_⟩
  · rintro op next rfl u t k hp
    obtain ⟨a, limiter, metrics, hact⟩ := act_counts (hmine.next op next rfl) u t.id
    refine ⟨a, limiter, metrics, ?_⟩
    unfold World.turn
    rw [hp]
    simp only [Program.bind, hact]
  · refine ⟨hmine.denied result hq hmem, ?_⟩
    intro C' v' es' w' client' asked' result' hv' h' hmem'
    rw [hmine.denied result hq hmem, (hdenied (hv' ▸ hv) h').denied result' rfl hmem', hv']

/-! ## An example -/

/-- A request with a token that somebody guessed. -/
def guess : String := "\x7b\"command\":\"stop\",\"token\":\"guess\"\x7d"

theorem not_bears_guess : ¬ Gateway.Bears guess "secret" := by
  have hparse : (Request.ofLine? guess).any (fun r => r.token = some "guess") = true := by
    decide +kernel
  obtain ⟨r, hline, htoken⟩ := (Option.any_eq_true _ _).mp hparse
  rintro ⟨r', hline', hbears⟩
  cases hline.symm.trans hline'
  exact absurd ((of_decide_eq_true htoken).symm.trans hbears) (by decide)

/-- A gateway with a token, which a client with that request asks to stop its bath. -/
def guessed (settings : Settings) (device : SimulatedDevice) : World :=
  (start (some "secret") settings none (.simulated device)).requested guess "a"

/-- A request that has ended, with nothing asked but that its failure be counted. -/
theorem handling_guessed (settings : Settings) (device : SimulatedDevice)
    (hend : ∀ t ∈ (played 9 (guessed settings device)).2.tasks, t.id ≠ 1)
    (hasked : ∀ x ∈ own 1 (played 9 (guessed settings device)).1, x.failure?.isSome = true) :
    ∃ v es w asked result, v.intake = { auth := some "secret" } ∧
      Handling (fun _ => True) v es w guess "a" asked (Program.done result) ∧
      ⟨.countRequest "a", false⟩ ∉ asked := by
  have hrun : RunBy (fun _ _ _ => True) (guessed settings device)
      (played 9 (guessed settings device)).1 (played 9 (guessed settings device)).2 :=
    (played_run 9 _).runBy
  obtain ⟨result, h⟩ := handling_of_request (numbered_start _ _ _ _ _) (run_requested _ _ _) hrun
    (mem_requested _ _ _) rfl hend
  refine ⟨_, _, _, _, result, rfl, h, fun hmem => ?_⟩
  cases hasked _ hmem

/-- A running bath and one that is read-only and not even connected answer alike. -/
theorem unauthorized_sealed_guess : ∃ v es w asked v' es' w' asked' result result',
    v.intake = { auth := some "secret" } ∧ v'.intake = { auth := some "secret" } ∧
      Handling (fun _ => True) v es w guess "a" asked (Program.done result) ∧
      Handling (fun _ => True) v' es' w' guess "a" asked' (Program.done result') ∧
      result = .error .permission ∧ Reply.ofResult result' = Reply.ofResult result := by
  obtain ⟨v, es, w, asked, result, hv, h, hmem⟩ :=
    handling_guessed {} { bath := { running := true }, connected := true } (by decide +kernel)
      (by decide +kernel)
  obtain ⟨v', es', w', asked', result', hv', h', hmem'⟩ :=
    handling_guessed { readOnly := true } { bath := {}, offline := true } (by decide +kernel)
      (by decide +kernel)
  have hauth : v.intake.auth = some "secret" := by rw [hv]
  have hdenial : Gateway.denial { auth := some "secret" } guess = .permission := by decide +kernel
  obtain ⟨-, -, -, -, hdone⟩ := unauthorized_sealed hauth not_bears_guess h
  obtain ⟨hresult, hother⟩ := hdone hmem result rfl
  rw [hv, hdenial] at hresult
  exact ⟨v, es, w, asked, v', es', w', asked', result, result', hv, hv', h, h', hresult,
    hother _ v' es' w' "a" asked' result' (hv'.trans hv.symm) h' hmem'⟩

end World

end ChillerGateway
