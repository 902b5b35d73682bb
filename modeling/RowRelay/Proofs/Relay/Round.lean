import RowRelay.Proofs.Relay.Delivery

/-!
# What a step can do

`Round relay kept stats r events stats'` lists the ways a step can go: how it ended, all that it
wrote into the journal, and what it counted. The batch of a step that pulled one is split into the
messages handled, in their order, and the rest (`Handled`); the ids acknowledged are those of the
handled messages that the policy admits (`admittedIds`), sent with one call or, when there are none,
with no call (`Acked`).

`step_round`: every step is such a round, from every state and with all services. What holds of the
calls of a step is read off its round, without another look at the loop.
-/

set_option autoImplicit false

namespace RowRelay.Relay

open BigQuery (Row IdempotencyKey InsertError)
open PubSub (Message QueueError)

variable {σ : Type}

/-! ## Messages handled one after the other -/

/-- The relay goes on after the handling. -/
def Handling.Survived (relay : Relay) (kept : Bool) (h : Handling) : Prop :=
  ∃ d, h.verdict relay kept = .ok d

/-- The ids of the messages handled that are acknowledged, in their order. -/
def admittedIds (policy : AckPolicy) (done : List Handling) : List String :=
  (done.filter (·.attempt.isAdmitted policy)).map (·.message.ackId)

section
variable (relay : Relay) (kept : Bool)

inductive DeliveredAll : List Handling → List Event → Prop
  | nil : DeliveredAll [] []
  | cons {h : Handling} {hs : List Handling} {es fs : List Event} :
      Delivered relay kept h es → DeliveredAll hs fs → DeliveredAll (h :: hs) (es ++ fs)

/-- What the journal tells about messages handled one after the other. -/
def accountAll (done : List Handling) : Account where
  decodings := done.filterMap fun h => h.attempt.row?.map (h.message.messageId, ·)
  insertCalls := done.filterMap fun h =>
    h.attempt.row?.map (⟨relay.table, ·, relay.settings.insertRetries⟩)
  insertAnswers := done.filterMap fun h => h.attempt.answer?.map .answered
  writes := done.filterMap (·.write? relay kept)

theorem accountAll_cons (h : Handling) (done : List Handling) :
    accountAll relay kept (h :: done) = h.account relay kept ++ accountAll relay kept done := by
  have hcons : ∀ {α : Type} (f : Handling → Option α),
      (h :: done).filterMap f = (f h).toList ++ done.filterMap f := by
    intro α f
    rw [List.filterMap_cons]
    cases f h <;> rfl
  simp only [accountAll, hcons]
  rfl

variable {relay kept}

theorem DeliveredAll.account {done : List Handling} {events : List Event}
    (h : DeliveredAll relay kept done events) : accountOf events = accountAll relay kept done := by
  induction h with
  | nil => rfl
  | cons hd _ ih => rw [accountOf_append, hd.account, ih, accountAll_cons]

theorem DeliveredAll.concat {done : List Handling} {h : Handling} {es fs : List Event}
    (hall : DeliveredAll relay kept done es) (hd : Delivered relay kept h fs) :
    DeliveredAll relay kept (done ++ [h]) (es ++ fs) := by
  induction hall with
  | nil => simpa using DeliveredAll.cons hd .nil
  | cons hd' _ ih =>
    rw [List.append_assoc]
    exact .cons hd' ih

end

/-! ## Progress -/

/-- The progress once more messages were handled. -/
def Progress.after (policy : AckPolicy) (p : Progress) (done : List Handling) : Progress where
  inserted := p.inserted + done.countP (·.attempt.isInserted)
  failed := p.failed + done.countP (!·.attempt.isInserted)
  ackIds := p.ackIds ++ admittedIds policy done

@[simp] theorem Progress.after_nil (policy : AckPolicy) (p : Progress) :
    p.after policy [] = p := by
  simp [after, admittedIds]

theorem Progress.after_ackIds (policy : AckPolicy) (done : List Handling) :
    (({} : Progress).after policy done).ackIds = admittedIds policy done := by
  simp [after]

theorem Progress.count_after {relay : Relay} {kept : Bool} {h : Handling} {d : Delivery}
    (hv : h.verdict relay kept = .ok d) (policy : AckPolicy) (p : Progress)
    (done : List Handling) :
    (p.count policy h.message d).after policy done = p.after policy (h :: done) := by
  replace hv := (Handling.verdict_eq_ok.1 hv).2
  cases d with
  | inserted =>
    have hi := Attempt.verdict_inserted hv
    simp [after, count, admittedIds, Attempt.isAdmitted, hi]
    omega
  | failed reason =>
    have hi : h.attempt.isInserted = false := by
      rw [Bool.eq_false_iff, ne_eq, Attempt.isInserted_iff, Attempt.verdict_failed hv]
      simp
    cases policy <;> simp [after, count, admittedIds, Attempt.isAdmitted, hi] <;> omega

/-! ## The loop over a batch -/

/-- How the loop ended behind `index` of `total` messages, with the rest of the batch before it, and
what it wrote at the end. -/
inductive LoopEnd (relay : Relay) (kept : Bool) (total index : Nat) (p : Progress) :
    List Message → List Event → BatchEnd → Prop
  | delivered : LoopEnd relay kept total index p [] [] (.delivered p)
  | broken {h : Handling} {events : List Event} {e : RelayError} (rest : List Message) :
      Delivered relay kept h events →
      h.verdict relay kept = .error e →
      LoopEnd relay kept total index p (h.message :: rest) events (.broken e p)
  | stoppedBefore (m : Message) (rest : List Message) :
      LoopEnd relay kept total index p (m :: rest) [.stoppedBefore index total] .cancelled
  | stoppedDuring {m : Message} {row : Row} (rest : List Message) (key : IdempotencyKey)
      (lines : List Log.Line) :
      BigQuery.decodeRow m = .ok row →
      LoopEnd relay kept total index p (m :: rest)
        (askEvents relay m row key .abandoned lines ++ [.stoppedDuring (index + 1) total])
        .cancelled

/-- The messages handled are the first ones of the batch; the rest was not looked at. -/
structure Handled (relay : Relay) (kept : Bool) (batch : List Message) (done : List Handling)
    (rest : List Message) (events : List Event) : Prop where
  batch_eq : batch = done.map (·.message) ++ rest
  survived : ∀ h ∈ done, h.Survived relay kept
  delivered : DeliveredAll relay kept done events

theorem deliverAll_wrote (svc : Services σ) (relay : Relay) (total : Nat) (ms : List Message) :
    ∀ (index : Nat) (p : Progress) (s : State σ), ∃ done rest events last,
      Handled relay s.store.isSome ms done rest events ∧
      s.Wrote (events ++ last) (deliverAll svc relay total index ms p s).2 ∧
      LoopEnd relay s.store.isSome total (index + done.length)
        (p.after relay.settings.ackPolicy done) rest last
        (deliverAll svc relay total index ms p s).1 := by
  induction ms with
  | nil =>
    intro index p s
    refine ⟨[], [], [], [], ⟨rfl, by simp, .nil⟩, .refl s, ?_⟩
    rw [Progress.after_nil]
    exact .delivered
  | cons m ms ih =>
    intro index p s
    unfold deliverAll
    by_cases hc : svc.cancelled s.world = true
    · refine ⟨[], m :: ms, [], [.stoppedBefore index total], ⟨rfl, by simp, .nil⟩, ?_, ?_⟩
      · simpa [hc] using s.note_wrote rfl
      · simpa [hc] using .stoppedBefore m ms
    · rw [if_neg hc]
      rcases deliver_wrote svc relay m s with ⟨a, time, fault?, events, hd, hr, hw⟩ |
        ⟨row, key, lines, hrow, hr, hw⟩
      · generalize deliver svc relay m s = out at hr hw ⊢
        obtain ⟨answer, s₁⟩ := out
        simp only at hr hw
        subst hr
        cases hv : Handling.verdict relay s.store.isSome ⟨m, a, time, fault?⟩ with
        | error e =>
          refine ⟨[], m :: ms, [], events, ⟨rfl, by simp, .nil⟩, hw, ?_⟩
          rw [Progress.after_nil]
          exact .broken (h := ⟨m, a, time, fault?⟩) ms hd hv
        | ok d =>
          obtain ⟨done, rest, es, last, hh, hw', hend⟩ :=
            ih (index + 1) (p.count relay.settings.ackPolicy m d) s₁
          rw [hw.kept] at hh hend
          rw [Progress.count_after (h := ⟨m, a, time, fault?⟩) hv] at hend
          refine ⟨⟨m, a, time, fault?⟩ :: done, rest, events ++ es, last,
            ⟨by rw [hh.batch_eq]; rfl, ?_, .cons hd hh.delivered⟩, ?_, ?_⟩
          · intro h hmem
            rcases List.mem_cons.1 hmem with rfl | hmem
            · exact ⟨d, hv⟩
            · exact hh.survived h hmem
          · rw [List.append_assoc]
            exact hw.trans hw'
          · rw [List.length_cons, Nat.add_comm done.length, ← Nat.add_assoc]
            exact hend
      · generalize deliver svc relay m s = out at hr hw ⊢
        obtain ⟨answer, s₁⟩ := out
        simp only at hr hw
        subst hr
        refine ⟨[], m :: ms, [], _, ⟨rfl, by simp, .nil⟩, hw.trans (s₁.note_wrote rfl), ?_⟩
        exact .stoppedDuring ms key lines hrow

/-! ## Acknowledging -/

/-- The ids were acknowledged with one call, or there were none. -/
inductive Acked (relay : Relay) :
    List String → Option (Except QueueError Unit) → List Event → Prop
  | nothing : Acked relay [] (some (.ok ())) []
  | sent {ids : List String} (answer : Option (Except QueueError Unit)) (lines : List Log.Line) :
      ids ≠ [] →
      Acked relay ids answer (.acknowledged relay.subscription ids answer :: notes lines)

theorem acknowledge_wrote (svc : Services σ) (relay : Relay) (ids : List String) (s : State σ) :
    ∃ events, Acked relay ids (acknowledge svc relay ids s).1 events ∧
      s.Wrote events (acknowledge svc relay ids s).2 := by
  unfold acknowledge
  split
  · next hids =>
    rw [List.isEmpty_iff] at hids
    subst hids
    exact ⟨[], .nothing, .refl s⟩
  · next hids =>
    exact ⟨_, .sent _ _ (by simpa using hids), State.settle_wrote s _ rfl⟩

theorem Acked.sent_of_ne {relay : Relay} {ids : List String}
    {answer : Option (Except QueueError Unit)} {events : List Event}
    (h : Acked relay ids answer events) (hne : ids ≠ []) :
    ∃ lines, events = .acknowledged relay.subscription ids answer :: notes lines := by
  cases h with
  | nothing => exact absurd rfl hne
  | sent answer lines _ => exact ⟨lines, rfl⟩

/-- Only a call that was made can remain without an answer. -/
theorem Acked.sent_of_none {relay : Relay} {ids : List String} {events : List Event}
    (h : Acked relay ids none events) :
    ∃ lines, events = .acknowledged relay.subscription ids none :: notes lines := by
  cases h with
  | sent answer lines _ => exact ⟨lines, rfl⟩

theorem Acked.account {relay : Relay} {ids : List String}
    {answer : Option (Except QueueError Unit)} {events : List Event}
    (h : Acked relay ids answer events) :
    accountOf events = { ackCalls := if ids = [] then [] else [ids] } := by
  cases h with
  | nothing => rfl
  | sent answer lines hne =>
    rw [accountOf_cons, accountOf_notes, if_neg hne]
    rfl

/-! ## Rounds -/

section
variable (relay : Relay)

def pullEvents (answer : Awaited (Except QueueError (List Message))) (lines : List Log.Line) :
    List Event :=
  .pulled relay.subscription relay.settings.batchSize relay.settings.returnImmediately answer ::
    notes lines

/-- What is written about the outcome of acknowledging before a fatal error. -/
def flushEvents (ids : List String) (outcome : Except QueueError Unit) : List Event :=
  if ids.isEmpty then [] else [.flushed ids.length outcome]

/-- The report on a batch that was handled to its end. -/
def reportOf (done : List Handling) : BatchReport where
  received := done.length
  inserted := done.countP (·.attempt.isInserted)
  failed := done.countP (!·.attempt.isInserted)
  acknowledged := (admittedIds relay.settings.ackPolicy done).length

theorem reportOf_progress {received : Nat} {done : List Handling} (hlen : received = done.length) :
    (⟨received, (({} : Progress).after relay.settings.ackPolicy done).inserted,
      (({} : Progress).after relay.settings.ackPolicy done).failed,
      (admittedIds relay.settings.ackPolicy done).length⟩ : BatchReport) =
      reportOf relay done := by
  simp [Progress.after, reportOf, hlen]

/-- The ways a step can go. -/
inductive Round (kept : Bool) (stats : Stats) : StepEnd → List Event → Stats → Prop
  | stopped : Round kept stats (.done .cancelled) [] stats
  | pullGivenUp (lines : List Log.Line) :
      Round kept stats (.done .cancelled) (pullEvents relay .abandoned lines) stats
  | pullFailed (e : QueueError) (lines : List Log.Line) :
      Round kept stats (.failed (.queue e)) (pullEvents relay (.answered (.error e)) lines) stats
  | idle {outcome : Outcome} (count : Nat) (delay : Duration) (lines lines' : List Log.Line) :
      outcome = .idle ∨ outcome = .cancelled →
      Round kept stats (.done outcome)
        (pullEvents relay (.answered (.ok [])) lines ++ .idled count delay :: notes lines')
        { stats with emptyPulls := stats.emptyPulls + 1 }
  | cut {batch : List Message} {done : List Handling} {rest : List Message}
      {events last : List Event} {p : Progress} (lines : List Log.Line) :
      Handled relay kept batch done rest events →
      LoopEnd relay kept batch.length done.length p rest last .cancelled →
      Round kept stats (.done .cancelled)
        (pullEvents relay (.answered (.ok batch)) lines ++ events ++ last) stats
  | broken {batch : List Message} {done : List Handling} {h : Handling} {rest : List Message}
      {events last acked : List Event} {e : RelayError} {outcome : Except QueueError Unit}
      (lines : List Log.Line) :
      Handled relay kept batch done (h.message :: rest) events →
      Delivered relay kept h last →
      h.verdict relay kept = .error e →
      Acked relay (admittedIds relay.settings.ackPolicy done) (some outcome) acked →
      Round kept stats (.failed e)
        (pullEvents relay (.answered (.ok batch)) lines ++ events ++ last ++ acked ++
          flushEvents (admittedIds relay.settings.ackPolicy done) outcome) stats
  | brokenUnanswered {batch : List Message} {done : List Handling} {h : Handling}
      {rest : List Message} {events last acked : List Event} {e : RelayError}
      (lines : List Log.Line) :
      Handled relay kept batch done (h.message :: rest) events →
      Delivered relay kept h last →
      h.verdict relay kept = .error e →
      Acked relay (admittedIds relay.settings.ackPolicy done) none acked →
      Round kept stats .unanswered
        (pullEvents relay (.answered (.ok batch)) lines ++ events ++ last ++ acked) stats
  | processed {batch : List Message} {done : List Handling} {events acked : List Event}
      (lines : List Log.Line) :
      batch ≠ [] →
      Handled relay kept batch done [] events →
      Acked relay (admittedIds relay.settings.ackPolicy done) (some (.ok ())) acked →
      Round kept stats (.done (.processed (reportOf relay done)))
        (pullEvents relay (.answered (.ok batch)) lines ++ events ++ acked ++
          [.finished (reportOf relay done)])
        (stats.absorb (reportOf relay done))
  | refused {batch : List Message} {done : List Handling} {events acked : List Event}
      {e : QueueError} (lines : List Log.Line) :
      Handled relay kept batch done [] events →
      Acked relay (admittedIds relay.settings.ackPolicy done) (some (.error e)) acked →
      Round kept stats (.failed (.queue e))
        (pullEvents relay (.answered (.ok batch)) lines ++ events ++ acked) stats
  | unanswered {batch : List Message} {done : List Handling} {events acked : List Event}
      (lines : List Log.Line) :
      Handled relay kept batch done [] events →
      Acked relay (admittedIds relay.settings.ackPolicy done) none acked →
      Round kept stats .unanswered
        (pullEvents relay (.answered (.ok batch)) lines ++ events ++ acked) stats

end

theorem pullEvents_account (relay : Relay) (answer : Awaited (Except QueueError (List Message)))
    (lines : List Log.Line) :
    accountOf (pullEvents relay answer lines) =
      { batches := match answer with
          | .answered (.ok batch) => [batch]
          | _ => [] } := by
  rw [pullEvents, accountOf_cons, accountOf_notes]
  rcases answer with (_ | _) | _ <;> rfl

theorem flushEvents_account (ids : List String) (outcome : Except QueueError Unit) :
    accountOf (flushEvents ids outcome) = {} := by
  unfold flushEvents
  split <;> rfl

/-! ## The step -/

/-- What a step writes into the journal. -/
def stepEvents (svc : Services σ) (relay : Relay) (s : State σ) : List Event :=
  (step svc relay s).2.journal.drop s.journal.length

theorem stepEvents_of_journal {svc : Services σ} {relay : Relay} {s : State σ}
    {events : List Event} (h : (step svc relay s).2.journal = s.journal ++ events) :
    stepEvents svc relay s = events := by
  rw [stepEvents, h, List.drop_left]

/-- The backoff after a pull: one more miss, or none, or what it was when no batch was
pulled. -/
def backoffAfter (b : Backoff) : List (List Message) → Backoff
  | [] => b
  | batch :: _ => if batch.isEmpty then b.miss else b.reset

/-- The step went a certain way: what the round wrote is written, in the journal and on
the disk. -/
structure Rounded (relay : Relay) (s : State σ) (out : StepEnd × State σ) (events : List Event) :
    Prop where
  round : Round relay s.store.isSome s.stats out.1 events out.2.stats
  journal : out.2.journal = s.journal ++ events
  store : out.2.store = s.store.map (·.writeAll (accountOf events).writes)
  backoff : out.2.backoff = backoffAfter s.backoff (accountOf events).batches

/-- Writing from a state that differs in its counts alone is part of a round. -/
theorem Rounded.of_wrote {relay : Relay} {s s' : State σ} {r : StepEnd} {events : List Event}
    {backoff : Backoff} {stats : Stats} (hw : ({ s with backoff, stats } : State σ).Wrote events s')
    (hr : Round relay s.store.isSome s.stats r events stats)
    (hb : backoff = backoffAfter s.backoff (accountOf events).batches) :
    Rounded relay s (r, s') events :=
  ⟨hw.stats ▸ hr, hw.journal, hw.store, hw.backoff.trans hb⟩

theorem idle_wrote (svc : Services σ) (s : State σ) :
    ∃ outcome count delay lines, (outcome = .idle ∨ outcome = .cancelled) ∧
      (idle svc s).1 = .done outcome ∧
      ({ s with
        backoff := s.backoff.miss
        stats := { s.stats with emptyPulls := s.stats.emptyPulls + 1 } } : State σ).Wrote
        (.idled count delay :: notes lines) (idle svc s).2 := by
  unfold idle
  dsimp only
  generalize svc.pause _ _ = reply
  generalize s.backoff.miss.delay _ = delay
  have hw : ∀ world, ({ s with
        backoff := s.backoff.miss
        stats := { s.stats with emptyPulls := s.stats.emptyPulls + 1 } } : State σ).Wrote
      (.idled s.backoff.miss.consecutive delay :: notes reply.lines)
      { s with
        backoff := s.backoff.miss
        stats := { s.stats with emptyPulls := s.stats.emptyPulls + 1 }
        world
        journal := s.journal ++ [.idled s.backoff.miss.consecutive delay] ++
          reply.lines.map .noted } := by
    intro world
    refine ⟨by simp [notes], ?_, rfl, rfl⟩
    have hidled : accountOf [.idled s.backoff.miss.consecutive delay] = {} := rfl
    rw [accountOf_cons, accountOf_notes, hidled]
    cases s.store <;> rfl
  cases reply.answer with
  | answered u => exact ⟨.idle, _, delay, reply.lines, .inl rfl, rfl, hw _⟩
  | abandoned => exact ⟨.cancelled, _, delay, reply.lines, .inr rfl, rfl, hw _⟩

theorem backoffAfter_pulled {batch : List Message} (hb : batch ≠ []) (b : Backoff) (relay : Relay)
    (lines : List Log.Line) (events : List Event) :
    backoffAfter b (accountOf
      (pullEvents relay (.answered (.ok batch)) lines ++ events)).batches = b.reset := by
  cases batch with
  | nil => exact absurd rfl hb
  | cons m ms =>
    rw [accountOf_append, pullEvents_account]
    rfl

theorem idle_rounded (svc : Services σ) {relay : Relay} {s s₀ : State σ} {lines : List Log.Line}
    (hw : s.Wrote (pullEvents relay (.answered (.ok [])) lines) s₀) :
    ∃ events, Rounded relay s (idle svc s₀) events := by
  obtain ⟨outcome, count, delay, lines', ho, hr, hw'⟩ := idle_wrote svc s₀
  have hw₀ : ({ s with
        backoff := s.backoff.miss
        stats := { s.stats with emptyPulls := s.stats.emptyPulls + 1 } } : State σ).Wrote
      (pullEvents relay (.answered (.ok [])) lines)
      { s₀ with
        backoff := s₀.backoff.miss
        stats := { s₀.stats with emptyPulls := s₀.stats.emptyPulls + 1 } } :=
    ⟨hw.journal, hw.store, by rw [hw.stats], by rw [hw.backoff]⟩
  have hround : Round relay s.store.isSome s.stats (.done outcome)
      (pullEvents relay (.answered (.ok [])) lines ++ .idled count delay :: notes lines')
      { s.stats with emptyPulls := s.stats.emptyPulls + 1 } := .idle count delay lines lines' ho
  rw [← hr] at hround
  refine ⟨_, .of_wrote (hw₀.trans hw') hround ?_⟩
  rw [accountOf_append, pullEvents_account]
  rfl

theorem finish_rounded (svc : Services σ) {relay : Relay} {s s₁ : State σ} {batch : List Message}
    {done : List Handling} {events : List Event} {lines : List Log.Line} (hb : batch ≠ [])
    (hh : Handled relay s.store.isSome batch done [] events)
    (hw : ({ s with backoff := s.backoff.reset } : State σ).Wrote
      (pullEvents relay (.answered (.ok batch)) lines ++ events) s₁) :
    ∃ events', Rounded relay s (finish svc relay batch.length
      (({} : Progress).after relay.settings.ackPolicy done) s₁) events' := by
  obtain ⟨acked, hacked, hw'⟩ := acknowledge_wrote svc relay
    (admittedIds relay.settings.ackPolicy done) s₁
  unfold finish
  rw [Progress.after_ackIds, reportOf_progress relay (by simp [hh.batch_eq])]
  generalize acknowledge svc relay _ s₁ = out at hacked hw' ⊢
  obtain ⟨answer, s₂⟩ := out
  have hall := hw.trans hw'
  have hback := backoffAfter_pulled hb s.backoff relay lines
  rcases answer with _ | (e | ⟨⟨⟩⟩)
  · refine ⟨_, .of_wrote hall (.unanswered lines hh hacked) ?_⟩
    rw [List.append_assoc, hback]
  · refine ⟨_, .of_wrote hall (.refused lines hh hacked) ?_⟩
    rw [List.append_assoc, hback]
  · have hfinal := (hall.counted (·.absorb (reportOf relay done))).trans
      (State.note_wrote _ (e := .finished (reportOf relay done)) rfl)
    refine ⟨_, .of_wrote hfinal (.processed lines hb hh hacked) ?_⟩
    rw [List.append_assoc, List.append_assoc, hback]

theorem flush_wrote (ids : List String) (outcome : Except QueueError Unit) (s : State σ) :
    s.Wrote (flushEvents ids outcome)
      (if ids.isEmpty then s else s.note (.flushed ids.length outcome)) := by
  unfold flushEvents
  split
  · exact .refl s
  · exact s.note_wrote rfl

theorem breakOff_rounded (svc : Services σ) {relay : Relay} {s s₁ : State σ}
    {batch rest : List Message} {done : List Handling} {h : Handling} {events last : List Event}
    {e : RelayError} {lines : List Log.Line}
    (hh : Handled relay s.store.isSome batch done (h.message :: rest) events)
    (hd : Delivered relay s.store.isSome h last)
    (hv : h.verdict relay s.store.isSome = .error e)
    (hw : ({ s with backoff := s.backoff.reset } : State σ).Wrote
      (pullEvents relay (.answered (.ok batch)) lines ++ events ++ last) s₁) :
    ∃ events', Rounded relay s (breakOff svc relay e
      (({} : Progress).after relay.settings.ackPolicy done) s₁) events' := by
  have hb : batch ≠ [] := by simp [hh.batch_eq]
  unfold breakOff
  rw [Progress.after_ackIds]
  obtain ⟨acked, hacked, hw'⟩ := acknowledge_wrote svc relay
    (admittedIds relay.settings.ackPolicy done) s₁
  generalize acknowledge svc relay _ s₁ = out at hacked hw' ⊢
  obtain ⟨answer, s₂⟩ := out
  have hall := hw.trans hw'
  have hback := backoffAfter_pulled hb s.backoff relay lines
  rcases answer with _ | outcome
  · refine ⟨_, .of_wrote hall (.brokenUnanswered lines hh hd hv hacked) ?_⟩
    rw [List.append_assoc, List.append_assoc, hback]
  · refine ⟨_, .of_wrote (hall.trans (flush_wrote _ outcome s₂))
      (.broken lines hh hd hv hacked) ?_⟩
    rw [List.append_assoc, List.append_assoc, List.append_assoc, hback]

theorem process_rounded (svc : Services σ) {relay : Relay} {s s₀ : State σ} {batch : List Message}
    {lines : List Log.Line} (hb : batch ≠ [])
    (hw : s.Wrote (pullEvents relay (.answered (.ok batch)) lines) s₀) :
    ∃ events, Rounded relay s (process svc relay batch s₀) events := by
  have hw₀ : ({ s with backoff := s.backoff.reset } : State σ).Wrote
      (pullEvents relay (.answered (.ok batch)) lines)
      { s₀ with backoff := s₀.backoff.reset } :=
    ⟨hw.journal, hw.store, hw.stats, congrArg Backoff.reset hw.backoff⟩
  obtain ⟨done, rest, events, last, hh, hw', hend⟩ := deliverAll_wrote svc relay batch.length
    batch 0 {} { s₀ with backoff := s₀.backoff.reset }
  rw [hw₀.kept] at hh hend
  rw [Nat.zero_add] at hend
  unfold process
  generalize deliverAll svc relay batch.length 0 batch {} _ = out at hw' hend ⊢
  obtain ⟨end', s₁⟩ := out
  have hall := hw₀.trans hw'
  rw [← List.append_assoc] at hall
  cases end' with
  | cancelled =>
    refine ⟨_, .of_wrote hall (.cut lines hh hend) ?_⟩
    rw [List.append_assoc, backoffAfter_pulled hb]
  | broken e p =>
    cases hend with
    | broken rest hd hv => exact breakOff_rounded svc hh hd hv hall
  | delivered p =>
    cases hend with
    | delivered =>
      rw [List.append_nil] at hall
      exact finish_rounded svc hb hh hall

/-- **Every step is a round**, from every state and with all services. -/
theorem step_rounded (svc : Services σ) (relay : Relay) (s : State σ) :
    ∃ events, Rounded relay s (step svc relay s) events := by
  unfold step
  split
  · exact ⟨[], .of_wrote (.refl s) .stopped rfl⟩
  · dsimp only
    generalize svc.pull relay.subscription relay.settings.batchSize
      relay.settings.returnImmediately s.world = reply
    have hw := s.settle_wrote reply (e := .pulled relay.subscription relay.settings.batchSize
      relay.settings.returnImmediately reply.answer) rfl
    cases hanswer : reply.answer with
    | abandoned =>
      rw [hanswer] at hw
      exact ⟨_, .of_wrote hw (.pullGivenUp reply.lines)
        (by rw [accountOf_cons, accountOf_notes]; rfl)⟩
    | answered answer =>
      rw [hanswer] at hw
      rcases answer with e | (_ | ⟨m, ms⟩)
      · exact ⟨_, .of_wrote hw (.pullFailed e reply.lines)
          (by rw [accountOf_cons, accountOf_notes]; rfl)⟩
      · exact idle_rounded svc hw
      · exact process_rounded svc (by simp) hw

theorem step_round (svc : Services σ) (relay : Relay) (s : State σ) :
    Rounded relay s (step svc relay s) (stepEvents svc relay s) := by
  obtain ⟨events, h⟩ := step_rounded svc relay s
  rwa [stepEvents_of_journal h.journal]

end RowRelay.Relay
