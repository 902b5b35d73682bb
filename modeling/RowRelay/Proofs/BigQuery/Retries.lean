import RowRelay.Proofs.BigQuery.Attempts

/-!
# How often an insert is tried

`Serves net traffic offers`: the network brings what a prospect holds, one delivery for each request
and one jitter for each wait, and `traffic` is the record of what went over it. `Tries` knows of no
network, and says for a prospect what an insert sends, what it waits for and what comes of it
(`attempts_tries`).

`insert_tried_exactly`: an insert sends its request until a delivery does not pass, which decides
its result (`Final`), or until the retries are used up; between two requests it waits once, as long
as its policy says for the retry (`retried`).
-/

set_option autoImplicit false

namespace RowRelay.BigQuery

open Http (Delivery Network Request Response)

variable {σ : Type}

/-! ## Deliveries -/

/-- The row errors that the body of a response lists, if it can be read. -/
def listed? (r : Response) : Option (List RowErrors) :=
  r.content?.bind fun bs => (Json.readAll responseShape.read bs).toOption

/-- The status of a fault that may pass. -/
def IsPassing (status : Nat) : Prop :=
  status = 408 ∨ status = 429 ∨ 500 ≤ status ∧ status < 600

/-- The delivery failed in a way that may pass; the text tells of it. -/
inductive Transient (request : Request) : Delivery → String → Prop
  | undelivered :
      Transient request .failed s!"error sending request for url ({request.url.render})"
  | passing {r : Response} : IsPassing r.status →
      Transient request (.answered r) s!"HTTP {r.status}: {r.text}"

/-- The delivery decides the result. -/
inductive Final : Delivery → Except InsertError Unit → Prop
  | refused {r : Response} : ¬ IsPassing r.status → ¬ (200 ≤ r.status ∧ r.status < 300) →
      Final (.answered r) (.error (.status r.status r.text))
  | unreadable {r : Response} : 200 ≤ r.status → r.status < 300 → listed? r = none →
      Final (.answered r) (.error (.other "error decoding response body"))
  | rejected {r : Response} {rows : List RowErrors} : 200 ≤ r.status → r.status < 300 →
      listed? r = some rows → rows ≠ [] →
      Final (.answered r) (.error (.rejected ("; ".intercalate (rows.flatMap RowErrors.describe))))
  | inserted {r : Response} : 200 ≤ r.status → r.status < 300 → listed? r = some [] →
      Final (.answered r) (.ok ())

theorem isTransient_iff (r : Response) : r.isTransient = true ↔ IsPassing r.status := by
  simp [Response.isTransient, IsPassing, or_assoc]

theorem isSuccess_iff (r : Response) :
    r.isSuccess = true ↔ 200 ≤ r.status ∧ r.status < 300 := by
  simp [Response.isSuccess]

/-- Reading a body brings the errors that it lists, or says that it cannot be read. -/
theorem read_eq (r : Response) : r.read (Json.readAll responseShape.read) =
    match listed? r with
    | some rows => .ok rows
    | none => .error .undecodable := by
  unfold Response.read listed?
  cases r.content? with
  | none => rfl
  | some bs =>
    dsimp only [Option.bind_some]
    generalize Json.readAll responseShape.read bs = x
    cases x <;> rfl

/-- A list that is left out is empty; a row without errors of its own is listed all the same. -/
example : listed? ⟨200, Bytes.ofAscii "\x7b\x7d", true⟩ = some [] ∧
    listed? ⟨200, Bytes.ofAscii "\x7b\"insertErrors\":[\x7b\x7d]\x7d", true⟩ = some [⟨0, []⟩] :=
  ⟨rfl, rfl⟩

theorem ofResponse_success {r : Response} (hlow : 200 ≤ r.status) (hhigh : r.status < 300) :
    Attempt.ofResponse r = match listed? r with
      | none => .done (.error (.other "error decoding response body"))
      | some rows =>
        match rejection? rows with
        | some reason => .done (.error (.rejected reason))
        | none => .done (.ok ()) := by
  have htransient : ¬ r.isTransient = true := by
    rw [isTransient_iff, IsPassing]
    omega
  have hsuccess : r.isSuccess = true := (isSuccess_iff r).2 ⟨hlow, hhigh⟩
  rw [Attempt.ofResponse, if_neg htransient, if_neg (by simp [hsuccess]), read_eq]
  cases listed? r <;> rfl

/-- What an attempt makes of a delivery. -/
def attempted (request : Request) : Delivery → Attempt
  | .failed => .ofDelivery (.error (.undelivered request.url.render))
  | .answered r => .ofDelivery (.ok r)

section
variable {request : Request} {d : Delivery} {text text' : String}
  {result result' : Except InsertError Unit}

theorem attempted_transient (h : Transient request d text) :
    attempted request d = .transient text := by
  cases h with
  | undelivered => rfl
  | passing h => exact if_pos ((isTransient_iff _).2 h)

theorem attempted_final (h : Final d result) : attempted request d = .done result := by
  cases h with
  | refused hpassing hsuccess =>
    rw [← isTransient_iff] at hpassing
    rw [← isSuccess_iff] at hsuccess
    rw [attempted, Attempt.ofDelivery, Attempt.ofResponse, if_neg hpassing,
      if_pos (by simpa using hsuccess)]
  | unreadable hlow hhigh hlisted =>
    refine (ofResponse_success hlow hhigh).trans ?_
    rw [hlisted]
  | rejected hlow hhigh hlisted hrows =>
    refine (ofResponse_success hlow hhigh).trans ?_
    rw [hlisted]
    simp [rejection?, hrows]
  | inserted hlow hhigh hlisted =>
    refine (ofResponse_success hlow hhigh).trans ?_
    rw [hlisted]
    rfl

theorem transient_or_final (request : Request) (d : Delivery) :
    (∃ text, Transient request d text) ∨ ∃ result, Final d result := by
  cases d with
  | failed => exact .inl ⟨_, .undelivered⟩
  | answered r =>
    by_cases hpassing : IsPassing r.status
    · exact .inl ⟨_, .passing hpassing⟩
    · by_cases hsuccess : 200 ≤ r.status ∧ r.status < 300
      · obtain ⟨hlow, hhigh⟩ := hsuccess
        cases hlisted : listed? r with
        | none => exact .inr ⟨_, .unreadable hlow hhigh hlisted⟩
        | some rows =>
          by_cases hrows : rows = []
          · exact .inr ⟨_, .inserted hlow hhigh (hrows ▸ hlisted)⟩
          · exact .inr ⟨_, .rejected hlow hhigh hlisted hrows⟩
      · exact .inr ⟨_, .refused hpassing hsuccess⟩

theorem Transient.not_final (h : Transient request d text) : ¬ Final d result := by
  intro hfinal
  have heq := (attempted_transient h).symm.trans (attempted_final hfinal)
  cases heq

theorem Transient.unique (h : Transient request d text) (h' : Transient request d text') :
    text = text' :=
  Attempt.transient.inj ((attempted_transient h).symm.trans (attempted_transient h'))

theorem Final.unique (h : Final d result) (h' : Final d result') : result = result' := by
  cases h <;> cases h' <;> simp_all

/-- No single delivery uses the retries up. -/
theorem Final.not_exhausted {attempts : Nat} :
    ¬ Final d (.error (.exhausted attempts text)) := by
  intro h
  cases h

end

/-! ## Prospects -/

/-- What goes over a network while a row is inserted. -/
inductive Traffic where
  | sent (request : Request)
  | waited (delay : Duration)
  deriving DecidableEq

/-- What a network will bring: a delivery for each request and a jitter for each wait. -/
structure Prospect where
  deliveries : Nat → Delivery
  jitters : Nat → Jitter

namespace Prospect

def afterSend (p : Prospect) : Prospect :=
  { p with deliveries := fun k => p.deliveries (k + 1) }

def afterDraw (p : Prospect) : Prospect :=
  { p with jitters := fun k => p.jitters (k + 1) }

end Prospect

/-- From a world that offers a prospect, the network brings what the prospect holds; `traffic` is
the record of what went over it. -/
structure Serves (net : Network σ) (traffic : σ → List Traffic) (offers : σ → Prospect → Prop) :
    Prop where
  send : ∀ {w p}, offers w p → ∀ request, ∃ lines w',
    net.send request w = ⟨.answered (p.deliveries 0), lines, w'⟩ ∧ offers w' p.afterSend ∧
      traffic w' = traffic w ++ [.sent request]
  pause : ∀ {w p}, offers w p → ∀ delay, ∃ lines w',
    net.pause delay w = ⟨.answered (), lines, w'⟩ ∧ offers w' p ∧
      traffic w' = traffic w ++ [.waited delay]
  draw : ∀ {w p}, offers w p → ∃ w',
    net.draw w = (p.jitters 0, w') ∧ offers w' p.afterDraw ∧ traffic w' = traffic w

/-! ## What a prospect makes of an insert -/

/-- An insert with so many retries left: what goes over the network, and what comes of it. -/
inductive Tries (request : Request) (policy : RetryPolicy) (retries : Nat) :
    (left : Nat) → Prospect → List Traffic → Except InsertError Unit → Prop
  | decided {left : Nat} {p : Prospect} {result : Except InsertError Unit} :
      Final (p.deliveries 0) result → Tries request policy retries left p [.sent request] result
  | exhausted {p : Prospect} {text : String} :
      Transient request (p.deliveries 0) text →
      Tries request policy retries 0 p [.sent request] (.error (.exhausted (retries + 1) text))
  | again {left : Nat} {p : Prospect} {text : String} {tale : List Traffic}
      {result : Except InsertError Unit} :
      Transient request (p.deliveries 0) text →
      Tries request policy retries left p.afterSend.afterDraw tale result →
      Tries request policy retries (left + 1) p
        (.sent request :: .waited (policy.delay (retries - left) (p.jitters 0)) :: tale) result

section
variable {net : Network σ} {traffic : σ → List Traffic} {offers : σ → Prospect → Prop}
  {c : Client} {i : Insertion} {request : Request} {w : σ} {p : Prospect}

/-- An attempt sends the request once, and makes of the delivery what is to be made of it. -/
theorem attempt_serves (hserves : Serves net traffic offers) (hoffers : offers w p)
    (hrequest : c.request i = .ok request)
    (next : String → σ → Reply σ (Awaited (Except InsertError Unit))) :
    ∃ lines w', offers w' p.afterSend ∧ traffic w' = traffic w ++ [.sent request] ∧
      c.attempt net i next w = match attempted request (p.deliveries 0) with
        | .done result => ⟨.answered result, lines, w'⟩
        | .transient reason =>
          ⟨(next reason w').answer, lines ++ (next reason w').lines, (next reason w').world⟩ := by
  obtain ⟨lines, w', hsend, hoffers', htraffic⟩ := hserves.send hoffers request
  refine ⟨lines, w', hoffers', htraffic, ?_⟩
  rw [Client.request] at hrequest
  rw [Client.attempt, Http.Endpoint.post, hrequest]
  dsimp only
  rw [hsend]
  dsimp only [Awaited.map]
  cases p.deliveries 0 <;> rfl

theorem waitFor_serves (hserves : Serves net traffic offers) (hoffers : offers w p) (retry : Nat)
    (reason : String) (next : σ → Reply σ (Awaited (Except InsertError Unit))) :
    ∃ lines w', offers w' p.afterDraw ∧
      traffic w' = traffic w ++ [.waited (c.policy.delay retry (p.jitters 0))] ∧
      c.waitFor net i retry reason next w =
        ⟨(next w').answer, lines ++ (next w').lines, (next w').world⟩ := by
  obtain ⟨drawn, hdraw, hdrawn, hquiet⟩ := hserves.draw hoffers
  obtain ⟨lines, w', hpause, hoffers', htraffic⟩ :=
    hserves.pause hdrawn (c.policy.delay retry (p.jitters 0))
  refine ⟨i.retryLine reason retry (c.policy.delay retry (p.jitters 0)) :: lines, w', hoffers',
    by rw [htraffic, hquiet], ?_⟩
  rw [Client.waitFor, hdraw]
  dsimp only
  rw [hpause]

/-- A request that cannot be built was not on its way yet. -/
theorem request_error {failure : Http.Failure} (h : c.request i = .error failure) :
    isTransient failure = false := by
  unfold Client.request Request.build at h
  split at h
  · cases h
    rfl
  · dsimp only at h
    split at h
    · cases h
      rfl
    · split at h
      · cases h
        rfl
      · split at h <;> cases h
        rfl

theorem attempts_unbuilt {failure : Http.Failure} (h : c.request i = .error failure) (left : Nat) :
    c.attempts net i left w = ⟨.answered (.error (.other failure.message)), [], w⟩ := by
  have hdone : Attempt.ofDelivery (.error failure) = .done (.error (.other failure.message)) := by
    rw [Attempt.ofDelivery, request_error h]
    rfl
  rw [Client.request] at h
  cases left <;>
  · rw [Client.attempts, Client.attempt, Http.Endpoint.post, h]
    dsimp only
    rw [hdone]

/-- **The attempts are those of the prospect** that the world offers. -/
theorem attempts_tries (hserves : Serves net traffic offers)
    (hrequest : c.request i = .ok request) (left : Nat) :
    ∀ {w : σ} {p : Prospect}, offers w p →
      ∃ tale result, Tries request c.policy i.retries left p tale result ∧
        (c.attempts net i left w).answer = .answered result ∧
        traffic (c.attempts net i left w).world = traffic w ++ tale := by
  induction left with
  | zero =>
    intro w p hoffers
    obtain ⟨lines, w', hoffers', htraffic, hattempt⟩ := attempt_serves hserves hoffers hrequest
      fun reason world => ⟨.answered (.error (.exhausted (i.retries + 1) reason)), [], world⟩
    rw [Client.attempts, hattempt]
    rcases transient_or_final request (p.deliveries 0) with ⟨text, h⟩ | ⟨result, h⟩
    · rw [attempted_transient h]
      exact ⟨_, _, .exhausted h, rfl, htraffic⟩
    · rw [attempted_final h]
      exact ⟨_, _, .decided h, rfl, htraffic⟩
  | succ left ih =>
    intro w p hoffers
    obtain ⟨lines, sent, hoffers', htraffic, hattempt⟩ := attempt_serves hserves hoffers hrequest
      fun reason => c.waitFor net i (i.retries - left) reason (c.attempts net i left)
    rw [Client.attempts, hattempt]
    rcases transient_or_final request (p.deliveries 0) with ⟨text, h⟩ | ⟨result, h⟩
    · rw [attempted_transient h]
      dsimp only
      obtain ⟨more, waited, hwaiting, hwaited, hwait⟩ := waitFor_serves (c := c) (i := i) hserves
        hoffers' (i.retries - left) text (c.attempts net i left)
      obtain ⟨tale, result, htries, hanswer, htale⟩ := ih hwaiting
      rw [hwait]
      refine ⟨_, _, .again h htries, hanswer, ?_⟩
      dsimp only
      rw [htale, hwaited, htraffic]
      simp [Prospect.afterSend]
    · rw [attempted_final h]
      exact ⟨_, _, .decided h, rfl, htraffic⟩

end

/-! ## How often an insert is tried -/

/-- A request and so many retries of it, each after its own delay. -/
def retried (request : Request) (delay : Nat → Duration) : Nat → List Traffic
  | 0 => [.sent request]
  | n + 1 => .sent request :: .waited (delay 0) :: retried request (fun k => delay (k + 1)) n

/-- The delivery failed in a way that may pass. -/
def Passes (request : Request) (d : Delivery) : Prop :=
  ∃ text, Transient request d text

section
variable {request : Request} {policy : RetryPolicy} {retries : Nat}

/-- The request is sent again while the deliveries pass, up to the last retry. -/
theorem Tries.ends {left : Nat} {p : Prospect} {tale : List Traffic}
    {result : Except InsertError Unit} (h : Tries request policy retries left p tale result)
    (hleft : left ≤ retries) :
    ∃ n ≤ left, tale = retried request
        (fun k => policy.delay (retries - left + k + 1) (p.jitters k)) n ∧
      (∀ k < n, Passes request (p.deliveries k)) ∧
      (Final (p.deliveries n) result ∨ n = left ∧ ∃ text,
        Transient request (p.deliveries n) text ∧
          result = .error (.exhausted (retries + 1) text)) := by
  induction h with
  | decided h => exact ⟨0, Nat.zero_le _, rfl, by simp, .inl h⟩
  | exhausted h => exact ⟨0, Nat.le_refl _, rfl, by simp, .inr ⟨rfl, _, h, rfl⟩⟩
  | @again left p text tale result h htries ih =>
    obtain ⟨n, hn, htale, hpasses, hend⟩ := ih (Nat.le_of_succ_le hleft)
    refine ⟨n + 1, Nat.succ_le_succ hn, ?_, fun k hk => ?_, ?_⟩
    · have hfirst : retries - (left + 1) + 0 + 1 = retries - left := by omega
      have hrest : ∀ k, retries - (left + 1) + (k + 1) + 1 = retries - left + k + 1 := by
        intro k
        omega
      simp only [retried, hfirst, hrest]
      rw [htale]
      rfl
    · cases k with
      | zero => exact ⟨text, h⟩
      | succ k => exact hpasses k (Nat.lt_of_succ_lt_succ hk)
    · exact hend.imp_right fun ⟨hleft, hend⟩ => ⟨congrArg (· + 1) hleft, hend⟩

/-- What went over a network and what was answered, for a request with so many retries. -/
structure TriedExactly (request : Request) (policy : RetryPolicy) (retries : Nat) (p : Prospect)
    (tale : List Traffic) (answer : Awaited (Except InsertError Unit)) : Prop where
  answered : ∃ result, answer = .answered result
  /-- The first delivery that does not pass is the last one, and decides the result. -/
  decided : ∀ j ≤ retries, (∀ k < j, Passes request (p.deliveries k)) →
    ¬ Passes request (p.deliveries j) →
      tale = retried request (fun k => policy.delay (k + 1) (p.jitters k)) j ∧
        ∀ result, answer = .answered result ↔ Final (p.deliveries j) result
  /-- If all pass, every retry is used. -/
  spent : (∀ k ≤ retries, Passes request (p.deliveries k)) →
    tale = retried request (fun k => policy.delay (k + 1) (p.jitters k)) retries
  exhausted : ∀ attempts text, answer = .answered (.error (.exhausted attempts text)) ↔
    attempts = retries + 1 ∧ (∀ k ≤ retries, Passes request (p.deliveries k)) ∧
      Transient request (p.deliveries retries) text

theorem Tries.triedExactly {p : Prospect} {tale : List Traffic}
    {result : Except InsertError Unit} (h : Tries request policy retries retries p tale result) :
    TriedExactly request policy retries p tale (.answered result) := by
  obtain ⟨n, hn, htale, hpasses, hend⟩ := h.ends (Nat.le_refl _)
  simp only [Nat.sub_self, Nat.zero_add] at htale
  -- a delivery that does not pass is met before the retries are used up, and no later
  have hfinal : ∀ j ≤ retries, (∀ k < j, Passes request (p.deliveries k)) →
      ¬ Passes request (p.deliveries j) → n = j ∧ Final (p.deliveries n) result := by
    intro j hj hbefore hstop
    have hle : n ≤ j := Nat.le_of_not_lt fun hlt => hstop (hpasses j hlt)
    rcases hend with hend | ⟨rfl, text, htext, -⟩
    · refine ⟨hle.antisymm (Nat.le_of_not_lt fun hlt => ?_), hend⟩
      obtain ⟨text, htext⟩ := hbefore n hlt
      exact htext.not_final hend
    · exact absurd ⟨text, htext⟩ (hle.antisymm hj ▸ hstop)
  have hspent : (∀ k ≤ retries, Passes request (p.deliveries k)) → n = retries ∧
      ∃ text, Transient request (p.deliveries n) text ∧
        result = .error (.exhausted (retries + 1) text) := by
    intro hall
    obtain ⟨text, htext⟩ := hall n hn
    exact hend.resolve_left htext.not_final
  refine ⟨⟨result, rfl⟩, fun j hj hbefore hstop => ?_, fun hall => ?_, fun attempts text => ?_⟩
  · obtain ⟨rfl, hresult⟩ := hfinal j hj hbefore hstop
    refine ⟨htale, fun result' => ⟨fun heq => ?_, fun h' => ?_⟩⟩
    · cases heq
      exact hresult
    · rw [hresult.unique h']
  · rw [← (hspent hall).1, htale]
  · constructor
    · intro heq
      cases heq
      rcases hend with hend | ⟨rfl, text', htext, heq⟩
      · exact absurd hend Final.not_exhausted
      · cases heq
        refine ⟨rfl, fun k hk => ?_, htext⟩
        rcases Nat.lt_or_eq_of_le hk with hk | rfl
        · exact hpasses k hk
        · exact ⟨text, htext⟩
    · rintro ⟨rfl, hall, htext⟩
      obtain ⟨rfl, text', htext', rfl⟩ := hspent hall
      rw [htext.unique htext']

end

/-- **An insert is tried exactly** until a delivery does not pass or the retries are used up. What
cannot be put into a request is not sent. -/
theorem insert_tried_exactly {net : Network σ} {traffic : σ → List Traffic}
    {offers : σ → Prospect → Prop} (hserves : Serves net traffic offers) {w : σ} {p : Prospect}
    (hoffers : offers w p) (c : Client) (table : TableRef) (row : Row) (key : IdempotencyKey)
    (retries : UInt32) {reply : Reply σ (Awaited (Except InsertError Unit))}
    (hreply : c.insert net table row key retries w = reply) :
    (∀ request, c.request ⟨table, insertRequest key row, retries.toNat⟩ = .ok request →
      ∃ tale, traffic reply.world = traffic w ++ tale ∧
        TriedExactly request c.policy retries.toNat p tale reply.answer) ∧
    ∀ failure, c.request ⟨table, insertRequest key row, retries.toNat⟩ = .error failure →
      reply.answer = .answered (.error (.other failure.message)) ∧
        traffic reply.world = traffic w := by
  subst hreply
  refine ⟨fun request hrequest => ?_, fun failure hfailure => ?_⟩
  · obtain ⟨tale, result, htries, hanswer, htale⟩ :=
      attempts_tries hserves hrequest retries.toNat hoffers
    refine ⟨tale, htale, ?_⟩
    rw [Client.insert, hanswer]
    exact htries.triedExactly
  · rw [Client.insert, attempts_unbuilt hfailure]
    exact ⟨rfl, rfl⟩

/-- A network that brings what lies ahead of it, and keeps the record of what went over it. -/
structure Rehearsal where
  ahead : Prospect
  traffic : List Traffic

namespace Rehearsal

def network : Network Rehearsal where
  send request w :=
    ⟨.answered (w.ahead.deliveries 0), [], ⟨w.ahead.afterSend, w.traffic ++ [.sent request]⟩⟩
  pause delay w := ⟨.answered (), [], { w with traffic := w.traffic ++ [.waited delay] }⟩
  draw w := (w.ahead.jitters 0, { w with ahead := w.ahead.afterDraw })

theorem serves : Serves network Rehearsal.traffic fun w p => w.ahead = p where
  send := by
    rintro w p rfl request
    exact ⟨_, _, rfl, rfl, rfl⟩
  pause := by
    rintro w p rfl delay
    exact ⟨_, _, rfl, rfl, rfl⟩
  draw := by
    rintro w p rfl
    exact ⟨_, rfl, rfl, rfl⟩

end Rehearsal

def sampleClient : Client :=
  ⟨⟨"http://localhost", none⟩, Client.retryPolicy (.ofSecs 1)⟩

def sampleTable : TableRef :=
  ⟨"p", "d", "t"⟩

/-- A service that is out of order once, and lists no errors after that. -/
def sampleProspect : Prospect where
  deliveries
    | 0 => .answered ⟨503, [], true⟩
    | _ => .answered ⟨200, Bytes.ofAscii "\x7b\x7d", true⟩
  jitters _ := .middle

/-- One request fails and is sent again after three quarters of a second. -/
theorem insert_tried_exactly_once_more :
    let reply := sampleClient.insert Rehearsal.network sampleTable [] (.ofNumber 0) 3
      ⟨sampleProspect, []⟩
    ∃ request,
      sampleClient.request ⟨sampleTable, insertRequest (.ofNumber 0) [], 3⟩ = .ok request ∧
      reply.answer = .answered (.ok ()) ∧
      reply.world.traffic = [.sent request, .waited (.ofMillis 750), .sent request] := by
  intro reply
  have hbuilt : (sampleClient.request ⟨sampleTable, insertRequest (.ofNumber 0) [], 3⟩).isOk := by
    decide +kernel
  cases hrequest : sampleClient.request ⟨sampleTable, insertRequest (.ofNumber 0) [], 3⟩ with
  | error failure =>
    rw [hrequest] at hbuilt
    cases hbuilt
  | ok request =>
    obtain ⟨tale, htraffic, htried⟩ := (insert_tried_exactly Rehearsal.serves rfl sampleClient
      sampleTable [] (.ofNumber 0) 3 (rfl : _ = reply)).1 request hrequest
    have hfault : Passes request (sampleProspect.deliveries 0) :=
      ⟨_, .passing (.inr (.inr (by decide)))⟩
    have hinserted : Final (sampleProspect.deliveries 1) (.ok ()) :=
      .inserted (by decide) (by decide) rfl
    obtain ⟨htale, hanswer⟩ := htried.decided 1 (by decide)
      (fun k hk => by rwa [Nat.lt_one_iff.1 hk]) fun ⟨_, h⟩ => h.not_final hinserted
    have hdelay : sampleClient.policy.delay 1 (sampleProspect.jitters 0) = .ofMillis 750 := by
      decide +kernel
    refine ⟨request, rfl, (hanswer _).2 hinserted, htraffic.trans ?_⟩
    rw [htale, retried, retried, hdelay]
    rfl

end RowRelay.BigQuery
