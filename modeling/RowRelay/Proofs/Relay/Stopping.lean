import RowRelay.Proofs.Relay.Acknowledge
import RowRelay.Proofs.Relay.Position

/-!
# A request to stop never leaves a batch half done

The request may come before a step, while it waits, or during a delivery, and a call that it races
with may be answered or given up. `StopsCleanly svc relay s` says what a step from `s` does then,
and `stop_never_halves_batch` that every step does so:

* a step that stops on request acknowledged nothing, counted no batch, and inserted the first
  messages of its batch that carry rows;
* once the request is seen before a message, nothing is done with it or any message behind it;
* what is acknowledged is acknowledged in the world that a delivery left which was begun before the
  request was seen and was answered (`Won`): that of the last message, whose batch is done, or of a
  fatal one, and then the messages before it are flushed (`Closed`).
-/

set_option autoImplicit false

namespace RowRelay.Relay

open PubSub (Message QueueError)

variable {σ : Type}

section
variable (svc : Services σ) (relay : Relay) (s : State σ)

/-- The delivery of the message at a position began before a request to stop was seen, and was
answered. -/
structure Won (batch : List Message) (index : Nat) (p : Progress) (s₁ : State σ) (m : Message)
    (r : Except RelayError Delivery) (s₂ : State σ) : Prop where
  reached : Reaches svc relay s batch index p s₁
  message : batch[index]? = some m
  going : svc.cancelled s₁.world = false
  answered : deliver svc relay m s₁ = (.answered r, s₂)

/-- The step acknowledged what the policy admits of the messages handled, and did so in the state
`s₂`; `answer` is what it got. -/
structure Closed (s₂ : State σ) (done : List Handling)
    (answer : Option (Except QueueError Unit)) : Prop where
  attempted : ∀ x ∈ done, x.attempt.At x.message
  events : ∃ during acked tail, stepEvents svc relay s = during ++ acked ++ tail ∧
    s₂.journal = s.journal ++ during ∧ (accountOf during).ackCalls = [] ∧
    (done.filterMap (·.attempt.answer?)).map .answered <+: (accountOf during).insertAnswers ∧
    Acked relay (admittedIds relay.settings.ackPolicy done) answer acked ∧ accountOf tail = {}
  answered : admittedIds relay.settings.ackPolicy done ≠ [] →
    answer = (svc.acknowledge relay.subscription
      (admittedIds relay.settings.ackPolicy done) s₂.world).answer

/-- How a step ends that acknowledged the messages of its whole batch. -/
def endOfBatch (done : List Handling) : Option (Except QueueError Unit) → StepEnd
  | none => .unanswered
  | some (.error cause) => .failed (.queue cause)
  | some (.ok ()) => .done (.processed (reportOf relay done))

/-- How a step ends that acknowledged the messages before a fatal one. -/
def endOfFlush (e : RelayError) : Option (Except QueueError Unit) → StepEnd
  | none => .unanswered
  | some _ => .failed e

/-- What a step does about a request to stop, whenever it comes and whatever it races with. -/
structure StopsCleanly : Prop where
  /-- A step that begins behind the request does nothing. -/
  before : svc.cancelled s.world = true → step svc relay s = (.done .cancelled, s)
  cancelled : (step svc relay s).1 = .done .cancelled →
    (accountOf (stepEvents svc relay s)).ackCalls = [] ∧
    (step svc relay s).2.stats =
      { s.stats with emptyPulls := (step svc relay s).2.stats.emptyPulls } ∧
    (accountOf (stepEvents svc relay s)).insertCalls <+:
      ((accountOf (stepEvents svc relay s)).batches.flatten.filterMap rowOf?).map
        (⟨relay.table, ·, relay.settings.insertRetries⟩)
  /-- Nothing is done with the messages from the one on before which the request was seen. -/
  seen {batch : List Message} {index : Nat} {p : Progress} {s' : State σ} :
    Reaches svc relay s batch index p s' → index < batch.length →
    svc.cancelled s'.world = true →
    step svc relay s = (.done .cancelled, s'.note (.stoppedBefore index batch.length)) ∧
    ∃ done, done.map (·.message) = batch.take index ∧
      (∀ x ∈ done, x.attempt.At x.message) ∧
      accountOf (stepEvents svc relay s) =
        { batches := [batch] } ++ accountAll relay s.store.isSome done
  /-- A delivery that was given up ends the step. -/
  lost {batch : List Message} {index : Nat} {p : Progress} {s₁ s₂ : State σ} {m : Message} :
    Reaches svc relay s batch index p s₁ → batch[index]? = some m →
    svc.cancelled s₁.world = false → deliver svc relay m s₁ = (.abandoned, s₂) →
    step svc relay s = (.done .cancelled, s₂.note (.stoppedDuring (index + 1) batch.length))
  /-- Behind the delivery of the last message the whole batch is acknowledged. -/
  last {batch : List Message} {index : Nat} {p : Progress} {s₁ s₂ : State σ} {m : Message}
    {d : Delivery} :
    Won svc relay s batch index p s₁ m (.ok d) s₂ → index + 1 = batch.length →
    ∃ done answer, done.map (·.message) = batch ∧ Closed svc relay s s₂ done answer ∧
      (step svc relay s).1 = endOfBatch relay done answer
  /-- Behind the delivery of a fatal message those before it are acknowledged. It is fatal for its
  own sake, or because the disk failed to keep it. -/
  fatal {batch : List Message} {index : Nat} {p : Progress} {s₁ s₂ : State σ} {m : Message}
    {e : RelayError} :
    Won svc relay s batch index p s₁ m (.error e) s₂ →
    (∃ h : Handling, h.message = m ∧ h.attempt.At m ∧
      h.verdict relay s.store.isSome = .error e) ∧
    ∃ done answer, done.map (·.message) = batch.take index ∧ Closed svc relay s s₂ done answer ∧
      (step svc relay s).1 = endOfFlush e answer
  /-- Nothing else is acknowledged. -/
  acknowledged {during after : List Event} {sub : String} {ids : List String}
    {answer : Option (Except QueueError Unit)} :
    stepEvents svc relay s = during ++ .acknowledged sub ids answer :: after →
    ∃ batch index p s₁ m r s₂, Won svc relay s batch index p s₁ m r s₂ ∧
      s₂.journal = s.journal ++ during ∧
      ((∃ d, r = .ok d ∧ index + 1 = batch.length) ∨ ∃ e, r = .error e)

end

section
variable {svc : Services σ} {relay : Relay} {s : State σ}

/-! ## Steps that stop on request -/

theorem take_message {batch : List Message} {done : List Handling} {index : Nat}
    (h : batch = done.map (·.message) ++ batch.drop index) (hlen : done.length = index) :
    done.map (·.message) = batch.take index := by
  rw [h, List.take_append, List.length_map, hlen]
  simp [List.take_of_length_le, hlen]

/-- The inserts of the messages handled are the first of those of their batch. -/
theorem Handled.insertCalls_prefix {kept : Bool} {batch rest : List Message}
    {done : List Handling} {es : List Event} (hh : Handled relay kept batch done rest es)
    {more : List InsertCall} (hmore : more <+: (rest.filterMap rowOf?).map
      (⟨relay.table, ·, relay.settings.insertRetries⟩)) :
    (accountAll relay kept done).insertCalls ++ more <+: (batch.filterMap rowOf?).map
      (⟨relay.table, ·, relay.settings.insertRetries⟩) := by
  rw [hh.batch_eq, List.filterMap_append, List.map_append,
    ← accountAll_insertCalls relay kept hh.delivered.at]
  exact (List.prefix_append_right_inj _).2 hmore

theorem Round.cancelled {kept : Bool} {stats stats' : Stats} {events : List Event}
    (h : Round relay kept stats (.done .cancelled) events stats') :
    (accountOf events).ackCalls = [] ∧ stats' = { stats with emptyPulls := stats'.emptyPulls } ∧
    (accountOf events).insertCalls <+: ((accountOf events).batches.flatten.filterMap rowOf?).map
      (⟨relay.table, ·, relay.settings.insertRetries⟩) := by
  cases h with
  | stopped => exact ⟨rfl, rfl, List.prefix_rfl⟩
  | pullGivenUp lines =>
    rw [pullEvents_account]
    exact ⟨rfl, rfl, List.prefix_rfl⟩
  | idle count delay lines lines' ho =>
    rw [accountOf_append, pullEvents_account, accountOf_cons, accountOf_notes]
    exact ⟨rfl, rfl, List.prefix_rfl⟩
  | @cut batch done rest es last p lines hh hend =>
    have haccount : accountOf (pullEvents relay (.answered (.ok batch)) lines ++ es ++ last) =
        { batches := [batch] } ++ accountAll relay kept done ++ accountOf last := by
      rw [accountOf_append, accountOf_append, pullEvents_account, hh.delivered.account]
    rw [haccount]
    cases hend with
    | stoppedBefore m rest =>
      have hlast : accountOf [.stoppedBefore done.length batch.length] = {} := rfl
      have hcalls := hh.insertCalls_prefix List.nil_prefix
      rw [hlast]
      exact ⟨rfl, rfl, by simpa [accountAll] using hcalls⟩
    | @stoppedDuring m row rest key lines' hrow =>
      have hlast : accountOf (askEvents relay m row key .abandoned lines' ++
          [.stoppedDuring (done.length + 1) batch.length]) =
          { decodings := [(m.messageId, row)]
            insertCalls := [⟨relay.table, row, relay.settings.insertRetries⟩]
            insertAnswers := [.abandoned] } := by
        rw [accountOf_append, askEvents_account]
        rfl
      -- the insert that was given up is that of the next row
      have hmore : [InsertCall.mk relay.table row relay.settings.insertRetries] <+:
          ((m :: rest).filterMap rowOf?).map
            (⟨relay.table, ·, relay.settings.insertRetries⟩) := by
        have hrow' : rowOf? m = some row := by
          rw [rowOf?, hrow]
          rfl
        rw [List.filterMap_cons_some hrow', List.map_cons]
        exact List.prefix_append [_] _
      have hcalls := hh.insertCalls_prefix hmore
      rw [hlast]
      exact ⟨rfl, rfl, by simpa [accountAll] using hcalls⟩

/-- Nothing is done behind a position at which the request is seen. -/
theorem Reaches.seen {batch : List Message} {index : Nat} {p : Progress} {s' : State σ}
    (h : Reaches svc relay s batch index p s') (hlt : index < batch.length)
    (hseen : svc.cancelled s'.world = true) :
    step svc relay s = (.done .cancelled, s'.note (.stoppedBefore index batch.length)) := by
  rw [h.step_eq, List.drop_eq_getElem_cons hlt, deliverAll, if_pos hseen]
  rfl

theorem Reaches.lost {batch : List Message} {index : Nat} {p : Progress} {s₁ s₂ : State σ}
    {m : Message} (h : Reaches svc relay s batch index p s₁) (hm : batch[index]? = some m)
    (hgoing : svc.cancelled s₁.world = false) (hd : deliver svc relay m s₁ = (.abandoned, s₂)) :
    step svc relay s =
      (.done .cancelled, s₂.note (.stoppedDuring (index + 1) batch.length)) := by
  rw [h.step_eq, drop_of_getElem? hm, deliverAll, if_neg (by simp [hgoing]), hd]
  rfl

/-! ## Steps that acknowledge -/

theorem acknowledge_answer {ids : List String} (hne : ids ≠ []) (s : State σ) :
    (acknowledge svc relay ids s).1 =
      (svc.acknowledge relay.subscription ids s.world).answer := by
  rw [acknowledge, if_neg (by simpa using hne)]

/-- Acknowledging what was handled closes the batch. -/
theorem closed_of_wrote {s₂ : State σ} {batch rest : List Message} {done : List Handling}
    {es last tail : List Event} {lines : List Log.Line} {backoff : Backoff}
    (hh : Handled relay s.store.isSome batch done rest es)
    (hw : ({ s with backoff } : State σ).Wrote
      (pullEvents relay (.answered (.ok batch)) lines ++ es ++ last) s₂)
    (hlast : (accountOf last).ackCalls = []) (htail : accountOf tail = {})
    (hend : (step svc relay s).2.journal = (acknowledge svc relay
      (admittedIds relay.settings.ackPolicy done) s₂).2.journal ++ tail) :
    Closed svc relay s s₂ done
      (acknowledge svc relay (admittedIds relay.settings.ackPolicy done) s₂).1 := by
  obtain ⟨acked, hacked, hw'⟩ := acknowledge_wrote svc relay
    (admittedIds relay.settings.ackPolicy done) s₂
  refine ⟨hh.delivered.at, ⟨_, acked, tail, ?_, hw.journal, ?_, ?_, hacked, htail⟩,
    fun hne => acknowledge_answer hne s₂⟩
  · exact stepEvents_of_journal (by rw [hend, (hw.trans hw').journal, List.append_assoc])
  · rw [accountOf_append]
    simp [hh.ackCalls lines, hlast]
  · rw [accountOf_append, accountOf_append, pullEvents_account, hh.delivered.account,
      ← accountAll_insertAnswers relay s.store.isSome]
    exact List.prefix_append _ _

theorem finish_end (svc : Services σ) (relay : Relay) {batch : List Message}
    {done : List Handling} (hlen : done.length = batch.length) (s₂ : State σ) :
    (finish svc relay batch.length (({} : Progress).after relay.settings.ackPolicy done) s₂).1 =
      endOfBatch relay done
        (acknowledge svc relay (admittedIds relay.settings.ackPolicy done) s₂).1 ∧
    ∃ tail, accountOf tail = {} ∧
      (finish svc relay batch.length (({} : Progress).after relay.settings.ackPolicy done)
        s₂).2.journal =
      (acknowledge svc relay (admittedIds relay.settings.ackPolicy done) s₂).2.journal ++ tail := by
  unfold finish
  rw [Progress.after_ackIds, reportOf_progress relay hlen.symm]
  obtain ⟨_ | (cause | ⟨⟨⟩⟩), s₃⟩ :=
    acknowledge svc relay (admittedIds relay.settings.ackPolicy done) s₂
  · exact ⟨rfl, [], rfl, (List.append_nil _).symm⟩
  · exact ⟨rfl, [], rfl, (List.append_nil _).symm⟩
  · exact ⟨rfl, [.finished (reportOf relay done)], rfl, rfl⟩

theorem breakOff_end (svc : Services σ) (relay : Relay) (e : RelayError) (done : List Handling)
    (s₂ : State σ) :
    (breakOff svc relay e (({} : Progress).after relay.settings.ackPolicy done) s₂).1 =
      endOfFlush e (acknowledge svc relay (admittedIds relay.settings.ackPolicy done) s₂).1 ∧
    ∃ tail, accountOf tail = {} ∧
      (breakOff svc relay e (({} : Progress).after relay.settings.ackPolicy done) s₂).2.journal =
      (acknowledge svc relay (admittedIds relay.settings.ackPolicy done) s₂).2.journal ++ tail := by
  unfold breakOff
  rw [Progress.after_ackIds]
  obtain ⟨_ | outcome, s₃⟩ :=
    acknowledge svc relay (admittedIds relay.settings.ackPolicy done) s₂
  · exact ⟨rfl, [], rfl, (List.append_nil _).symm⟩
  · exact ⟨rfl, _, flushEvents_account _ outcome, (flush_wrote _ outcome s₃).journal⟩

section
variable {batch : List Message} {index : Nat} {p : Progress} {s₁ s₂ : State σ} {m : Message}

/-- Behind the last delivery the batch is closed. -/
theorem Won.last {d : Delivery} (h : Won svc relay s batch index p s₁ m (.ok d) s₂)
    (hlast : index + 1 = batch.length) :
    ∃ done answer, done.map (·.message) = batch ∧ Closed svc relay s s₂ done answer ∧
      (step svc relay s).1 = endOfBatch relay done answer := by
  have hreached := h.reached.next h.message h.going h.answered
  obtain ⟨done, es, lines, hh, hlen, hp, hw⟩ := hreached.handled
  have hnil : batch.drop (index + 1) = [] := List.drop_eq_nil_iff.2 (Nat.le_of_eq hlast.symm)
  have hstep := hreached.step_eq
  rw [hnil, deliverAll, hp] at hstep
  obtain ⟨hr, tail, htail, hjournal⟩ := finish_end svc relay (hlen.trans hlast) s₂
  rw [← List.append_nil (_ ++ _)] at hw
  refine ⟨done, _, ?_, closed_of_wrote hh hw rfl htail ?_, ?_⟩
  · simpa [hnil] using hh.batch_eq.symm
  · rw [hstep]
    exact hjournal
  · rw [hstep]
    exact hr

/-- Behind a fatal delivery the messages before it are flushed. -/
theorem Won.fatal {e : RelayError} (h : Won svc relay s batch index p s₁ m (.error e) s₂) :
    (∃ h : Handling, h.message = m ∧ h.attempt.At m ∧
      h.verdict relay s.store.isSome = .error e) ∧
    ∃ done answer, done.map (·.message) = batch.take index ∧ Closed svc relay s s₂ done answer ∧
      (step svc relay s).1 = endOfFlush e answer := by
  obtain ⟨done, es, lines, hh, hlen, hp, hw⟩ := h.reached.handled
  have hstep := h.reached.step_eq
  rw [drop_of_getElem? h.message, deliverAll, if_neg (by simp [h.going]), h.answered, hp] at hstep
  obtain ⟨hr, tail, htail, hjournal⟩ := breakOff_end svc relay e done s₂
  rcases deliver_wrote svc relay m s₁ with
    ⟨a, time, fault?, events, hd, hr', hw'⟩ | ⟨-, -, -, -, hr', -⟩
  · rw [h.answered] at hr' hw'
    have hlast : (accountOf events).ackCalls = [] := by
      rw [hd.account]
      rfl
    refine ⟨⟨⟨m, a, time, fault?⟩, rfl, hd.at, ?_⟩, done, _, take_message hh.batch_eq hlen,
      closed_of_wrote hh (hw.trans hw') hlast htail ?_, ?_⟩
    · rw [← hw.kept]
      exact (Awaited.answered.inj hr').symm
    · rw [hstep]
      exact hjournal
    · rw [hstep]
      exact hr
  · rw [h.answered] at hr'
    cases hr'

/-- The one call of a step that acknowledges is made behind what closes its batch. -/
theorem Closed.journal {done : List Handling} {answer answer' : Option (Except QueueError Unit)}
    {during after : List Event} {sub : String} {ids : List String}
    (h : Closed svc relay s s₂ done answer)
    (hcall : stepEvents svc relay s = during ++ .acknowledged sub ids answer' :: after) :
    s₂.journal = s.journal ++ during := by
  obtain ⟨during', acked, tail, hevents, hjournal, hcalls, -, hacked, htail⟩ := h.events
  obtain ⟨rfl, -, -⟩ := hacked.split hcalls htail (hevents.symm.trans hcall)
  exact hjournal

end

theorem NoBatch.ackCalls {out : StepEnd × State σ} (h : NoBatch svc relay s out) :
    ∃ events, out.2.journal = s.journal ++ events ∧ (accountOf events).ackCalls = [] := by
  have hw := pulledState_wrote svc relay s
  have hpull : (accountOf (pullEvents relay (pullReply svc relay s.world).answer
      (pullReply svc relay s.world).lines)).ackCalls = [] := by
    rw [pullEvents_account]
  cases h with
  | stopped => exact ⟨[], (List.append_nil _).symm, rfl⟩
  | pullGivenUp => exact ⟨_, hw.journal, hpull⟩
  | pullFailed => exact ⟨_, hw.journal, hpull⟩
  | idle =>
    obtain ⟨outcome, count, delay, lines, -, -, hw'⟩ := idle_wrote svc (pulledState svc relay s)
    have hjournal : (Relay.idle svc (pulledState svc relay s)).2.journal =
        (pulledState svc relay s).journal ++ .idled count delay :: notes lines := hw'.journal
    have hidled : accountOf (.idled count delay :: notes lines) = {} :=
      (accountOf_cons _ _).trans (accountOf_notes lines)
    rw [hw.journal, List.append_assoc] at hjournal
    refine ⟨_, hjournal, ?_⟩
    rw [accountOf_append, hidled, Account.append_empty]
    exact hpull

/-- Whatever a step acknowledges, it does so behind a delivery that won. -/
theorem acknowledged_won {during after : List Event} {sub : String} {ids : List String}
    {answer : Option (Except QueueError Unit)}
    (hcall : stepEvents svc relay s = during ++ .acknowledged sub ids answer :: after) :
    ∃ batch index p s₁ m r s₂, Won svc relay s batch index p s₁ m r s₂ ∧
      s₂.journal = s.journal ++ during ∧
      ((∃ d, r = .ok d ∧ index + 1 = batch.length) ∨ ∃ e, r = .error e) := by
  have hcancelled : (step svc relay s).1 ≠ .done .cancelled := by
    intro hr
    have hround := (step_round svc relay s).round
    rw [hr] at hround
    exact not_acknowledged hround.cancelled.1 hcall
  rcases step_stops svc relay s with hno | ⟨batch, index, p, s', out, hreached, hstops, hstep⟩
  · obtain ⟨events, hjournal, hnone⟩ := hno.ackCalls
    rw [stepEvents_of_journal hjournal] at hcall
    exact absurd hcall (not_acknowledged hnone)
  · obtain ⟨-, hne, -⟩ := hreached.begun
    cases hstops with
    | delivered hend =>
      cases hreached with
      | pulled => exact absurd (List.length_eq_zero_iff.1 hend.symm) hne
      | next hbefore hm hgoing hd =>
        have hwon : Won svc relay s batch _ _ _ _ (.ok _) s' := ⟨hbefore, hm, hgoing, hd⟩
        obtain ⟨done, answer, -, hclosed, -⟩ := hwon.last hend
        exact ⟨_, _, _, _, _, _, _, hwon, hclosed.journal hcall, .inl ⟨_, rfl, hend⟩⟩
    | cancelled =>
      rw [hstep] at hcancelled
      exact absurd rfl hcancelled
    | abandoned =>
      rw [hstep] at hcancelled
      exact absurd rfl hcancelled
    | broken hm hgoing hd =>
      have hwon : Won svc relay s batch _ _ _ _ (.error _) _ := ⟨hreached, hm, hgoing, hd⟩
      obtain ⟨-, done, answer, -, hclosed, -⟩ := hwon.fatal
      exact ⟨_, _, _, _, _, _, _, hwon, hclosed.journal hcall, .inr ⟨_, rfl⟩⟩

end

/-- **A request to stop never leaves a batch half done.** -/
theorem stop_never_halves_batch (svc : Services σ) (relay : Relay) (s : State σ) :
    StopsCleanly svc relay s where
  cancelled hr := by
    have hround := (step_round svc relay s).round
    rw [hr] at hround
    exact hround.cancelled
  seen {batch index p s'} hreached hlt hseen := by
    obtain ⟨done, es, lines, hh, hlen, -, hw⟩ := hreached.handled
    have hstep := hreached.seen hlt hseen
    refine ⟨hstep, done, take_message hh.batch_eq hlen, hh.delivered.at, ?_⟩
    have hevents : stepEvents svc relay s = pullEvents relay (.answered (.ok batch)) lines ++ es ++
        [.stoppedBefore index batch.length] :=
      stepEvents_of_journal (by rw [hstep, (hw.trans (s'.note_wrote rfl)).journal])
    rw [hevents, accountOf_append, accountOf_append, pullEvents_account, hh.delivered.account]
    exact Account.append_empty _
  before hseen := if_pos hseen
  lost := Reaches.lost
  last := Won.last
  fatal := Won.fatal
  acknowledged := acknowledged_won

/-- When the request comes with the answer to an insert, it decides whether another message is left
in the batch. -/
example :
    let relay := sampleRelay {}
    let requested (batch : List Message) : State Script := .start {} none
      { pulls := [{ answer := .ok batch }], inserts := [{ answer := .ok (), cancels := true }] }
    let one := requested (samplePair.take 1)
    (step Script.services relay (requested samplePair)).1 = .done .cancelled ∧
    (step Script.services relay one).1 = .done (.processed ⟨1, 1, 0, 1⟩) ∧
    Script.services.cancelled (step Script.services relay one).2.world = true :=
  ⟨rfl, rfl, rfl⟩

/-- Where failures are kept it is the disk that makes a message fatal. The message before it is
acknowledged, though the relay was asked to stop. -/
example :
    let relay := sampleRelay { failurePolicy := .deadLetter }
    let s : State Script := .start {} (some (.create {}))
      { pulls := [{ answer := .ok (samplePair.take 1 ++ samplePair.take 1) }]
        inserts := [{ answer := .ok () }, { answer := .error (.rejected ""), cancels := true }]
        records := [some (.entering "disk full")] }
    (step Script.services relay s).1 = .failed (.store (.database "disk full")) ∧
    (accountOf (stepEvents Script.services relay s)).ackCalls = [["a1"]] ∧
    Script.services.cancelled (step Script.services relay s).2.world = true :=
  ⟨rfl, rfl, rfl⟩

end RowRelay.Relay
