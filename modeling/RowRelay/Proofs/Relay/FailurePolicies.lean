import RowRelay.Proofs.Relay.Abreast
import RowRelay.Proofs.Relay.Steady

/-!
# Keeping failures extends stopping at them

Two runs of a relay, one that stops at a fatal message and one that keeps all failures, with steady
services that offer the same and a disk that does not fail. `dead_letter_extends_abort`: as long as
the first run meets no fatal message the second one does the same, and records besides a letter of
each row that was refused (`DoesLikewise`); where the first run stops, the second one records a
letter with the cause and goes on with the next message (`GoesOnBehind`). Whatever the services, a
run that keeps failures never ends with the error of a message, but only with one of the
subscription or of the disk.
-/

set_option autoImplicit false

namespace RowRelay.Relay

open BigQuery (InsertError)
open PubSub (Message QueueError)

variable {σ τ : Type}

/-! ## Verdicts where failures are kept -/

/-- What the cause of an error says. -/
def RelayError.reason : RelayError → String
  | .queue cause => cause.message
  | .decode _ cause => cause.message
  | .insert _ cause => cause.message
  | .store cause => cause.message

/-- A fatal message is not in the table for the reason that its error carries. -/
theorem Attempt.reason?_of_fatal {m : Message} {x : Attempt} {e : RelayError}
    (h : x.fatal? m = some e) : x.reason? = some e.reason := by
  rcases x with cause | ⟨row, cause | ⟨⟨⟩⟩⟩
  · cases h
    rfl
  · unfold fatal? at h
    by_cases hc : cause.isRowLevel = true
    · simp [hc] at h
    · simp only [hc] at h
      cases h
      rfl
  · cases h

theorem Attempt.verdict_deadLetter (m : Message) (x : Attempt) :
    ∃ d, x.verdict .deadLetter m = .ok d := by
  cases hv : x.verdict .deadLetter m with
  | ok d => exact ⟨d, rfl⟩
  | error e => cases (Attempt.verdict_error hv).1

/-- Where failures are kept, and the disk does not fail, the relay goes on. -/
theorem Handling.verdict_deadLetter (relay : Relay)
    (hp : relay.settings.failurePolicy = .deadLetter) (kept : Bool) {h : Handling}
    (hfault : h.fault? = none) : ∃ d, h.verdict relay kept = .ok d := by
  obtain ⟨d, hd⟩ := h.attempt.verdict_deadLetter h.message
  exact ⟨d, verdict_eq_ok.2 ⟨.inr hfault, hp ▸ hd⟩⟩

theorem tolerates_deadLetter (relay : Relay) (acks : AckPolicy) (kept kept' : Bool) :
    Tolerates relay ⟨.abort, acks⟩ ⟨.deadLetter, acks⟩ kept kept' where
  goes hfault _ := Handling.verdict_deadLetter _ rfl _ (hfault (Attempt.keptReason?_abort rfl ..))
  breaks {m x fault? e e'} hfault _ hv := by
    obtain ⟨d, hd⟩ := Handling.verdict_deadLetter (relay.under ⟨.deadLetter, acks⟩) rfl kept'
      (h := ⟨m, x, 0, fault?⟩) (hfault (Attempt.keptReason?_abort rfl ..))
    cases hv.symm.trans hd

/-- No message stops a relay that keeps failures on a disk that does not fail. -/
theorem course_stop?_deadLetter {relay : Relay} (hp : relay.settings.failurePolicy = .deadLetter)
    (kept : Bool) (ms : List Message) : ∀ {answers : Answers}, (∀ i, answers.writes i = none) →
      (course relay kept ms answers).stop? relay kept = none := by
  induction ms with
  | nil => exact fun _ => rfl
  | cons m ms ih =>
    intro answers hwrites
    obtain ⟨d, hd⟩ :=
      Handling.verdict_deadLetter relay hp kept (h := handlingOf m answers) (hwrites 0)
    rw [course_cons_of_ok hd]
    refine ih fun i => ?_
    unfold Answers.behind Answers.behindWrite Answers.behindInsert
    repeat' split
    all_goals exact hwrites _

/-- The letters of the rows that were refused, but for their times. -/
def rejectedLetters (tried : List (Message × Attempt)) : List DeadLetter :=
  (tried.filter (·.2.isRejected)).filterMap fun x => x.2.reason?.map (DeadLetter.ofMessage x.1 · 0)

/-- Where no message was fatal the failures are the rows that were refused. -/
theorem lettersOf_eq_rejected (relay : Relay) (hp : relay.settings.failurePolicy = .deadLetter)
    {tried : List (Message × Attempt)} (h : ∀ x ∈ tried, x.2.fatal? x.1 = none) :
    lettersOf relay true tried = rejectedLetters tried := by
  rw [lettersOf, if_pos ⟨hp, rfl⟩, rejectedLetters, List.filterMap_filter]
  apply List.filterMap_congr
  intro x hx
  rcases Attempt.tried_of_not_fatal (h x hx) with hin | hrejected
  · rw [Attempt.isInserted_iff.1 hin]
    simp
  · rw [if_pos hrejected]

/-! ## Errors where failures are kept -/

section
variable {svc : Services σ} {relay : Relay} {e : RelayError}

variable (svc e) in
/-- The error is one of the subscription, or of the disk. -/
def NotAMessages : Prop :=
  (∃ cause, e = .queue cause) ∨
    ∃ letter world fault, (svc.record letter world).1 = some fault ∧ e = .store fault.error

/-- The error of what was judged is the disk's. -/
theorem notAMessages_of_recordReply (hp : relay.settings.failurePolicy = .deadLetter)
    {kept : Bool} {m : Message} {x : Attempt} {world : σ} {fault? : Option Store.RecordFault}
    (hfault : fault? = (recordReply svc relay kept m x world).1)
    (hv : Handling.verdict relay kept ⟨m, x, 0, fault?⟩ = .error e) : NotAMessages svc e := by
  rcases Handling.verdict_eq_error hv with ⟨habort, -⟩ | ⟨reason, fault, hk, hf, rfl⟩
  · cases hp.symm.trans habort
  · rw [recordReply, hk] at hfault
    exact .inr ⟨_, _, fault, hfault.symm.trans hf, rfl⟩

theorem deliver_failed (hp : relay.settings.failurePolicy = .deadLetter) {m : Message}
    {s s' : State σ} (h : deliver svc relay m s = (.answered (.error e), s')) :
    NotAMessages svc e := by
  cases hrow : BigQuery.decodeRow m with
  | error cause =>
    have hx := (judged_undecodable svc relay s hrow).1
    exact notAMessages_of_recordReply hp rfl (hx.verdict_eq h)
  | ok row =>
    cases hanswer : (insertReply svc relay row s.world).answer with
    | abandoned => exact absurd h (givenUp_decoded svc relay s hrow hanswer).1.not_answered
    | answered answer =>
      have hx := (judged_decoded svc relay s hrow hanswer).1
      exact notAMessages_of_recordReply hp rfl (hx.verdict_eq h)

theorem finish_failed {received : Nat} {p : Progress} {s : State σ}
    (h : (finish svc relay received p s).1 = .failed e) : ∃ cause, e = .queue cause := by
  unfold finish at h
  generalize acknowledge svc relay p.ackIds s = out at h
  obtain ⟨_ | (cause | ⟨⟨⟩⟩), s'⟩ := out
  · cases h
  · cases h
    exact ⟨cause, rfl⟩
  · cases h

theorem breakOff_failed {e' : RelayError} {p : Progress} {s : State σ}
    (h : (breakOff svc relay e' p s).1 = .failed e) : e' = e := by
  unfold breakOff at h
  generalize acknowledge svc relay p.ackIds s = out at h
  obtain ⟨_ | outcome, s'⟩ := out
  · cases h
  · cases h
    rfl

theorem step_failed (hp : relay.settings.failurePolicy = .deadLetter) {s : State σ}
    (h : (step svc relay s).1 = .failed e) : NotAMessages svc e := by
  rcases step_stops svc relay s with hno | ⟨batch, index, p, s', out, -, hstops, hstep⟩
  · generalize step svc relay s = out at h hno
    cases hno with
    | stopped => cases h
    | pullGivenUp => cases h
    | pullFailed =>
      cases h
      exact .inl ⟨_, rfl⟩
    | idle =>
      obtain ⟨outcome, -, -, -, -, hr, -⟩ := idle_wrote svc (pulledState svc relay s)
      cases hr.symm.trans h
  · rw [hstep] at h
    cases hstops with
    | delivered => exact .inl (finish_failed h)
    | cancelled => cases h
    | abandoned => cases h
    | broken hm hgoing hd =>
      obtain rfl := breakOff_failed h
      exact deliver_failed hp hd

/-- A run that keeps failures ends with no message's error. -/
theorem steps_failed (hp : relay.settings.failurePolicy = .deadLetter) (n : Nat) :
    ∀ {s : State σ}, (steps svc relay n s).1 = some (.failed e) → NotAMessages svc e := by
  induction n with
  | zero => nofun
  | succ n ih =>
    intro s h
    unfold steps at h
    have hstep : (step svc relay s).1 = .failed e → _ := step_failed hp
    generalize step svc relay s = out at h hstep
    obtain ⟨(_ | report | _) | cause | _, s'⟩ := out
    · exact ih h
    · exact ih h
    · cases h
    · cases h
      exact hstep rfl
    · cases h

end

/-! ## One step of both runs -/

section
variable (svc : Services σ) (svc' : Services τ) (aborting keeping : Relay) (s : State σ)
  (s' : State τ)

/-- No message was fatal, and the step that keeps failures did what the other one did. -/
structure DoesLikewise : Prop where
  goes : ∃ outcome, (step svc aborting s).1 = .done outcome ∧ outcome ≠ .cancelled
  ended : (step svc' keeping s').1 = (step svc aborting s).1
  calls : callsOf (stepEvents svc' keeping s') = callsOf (stepEvents svc aborting s)
  ackCalls : (accountOf (stepEvents svc' keeping s')).ackCalls =
    (accountOf (stepEvents svc aborting s)).ackCalls
  unharmed : ∀ x ∈ triedBy (callsOf (stepEvents svc aborting s)), x.2.fatal? x.1 = none
  /-- It recorded the rows that were refused, in order. -/
  letters : (accountOf (stepEvents svc' keeping s')).letters.map DeadLetter.undated =
    rejectedLetters (triedBy (callsOf (stepEvents svc aborting s)))

/-- The message `m` at position `k` of the batch is the first fatal one, and the step that keeps
failures records it and goes on. -/
structure GoesOnBehind (batch : List Message) (k : Nat) (m : Message) (x : Attempt)
    (e : RelayError) : Prop where
  failed : (step svc aborting s).1 = .failed e
  pulled : (accountOf (stepEvents svc aborting s)).batches = [batch]
  fatal : (triedBy (callsOf (stepEvents svc aborting s)))[k]? = some (m, x) ∧ x.fatal? m = some e
  unharmed : ∀ y ∈ (triedBy (callsOf (stepEvents svc aborting s))).take k, y.2.fatal? y.1 = none
  /-- Both runs made the same calls up to the letter of the message, and all messages behind it are
  inserted after the letter. -/
  recorded : ∃ before letter after,
    stepEvents svc' keeping s' = before ++ .recorded letter none :: after ∧
    callsOf before = callsOf (stepEvents svc aborting s) ∧
    (accountOf before).letters.map DeadLetter.undated =
      rejectedLetters ((triedBy (callsOf (stepEvents svc aborting s))).take k) ∧
    letter.undated = .ofMessage m e.reason 0 ∧
    (accountOf after).insertCalls = ((batch.drop (k + 1)).filterMap rowOf?).map
      (⟨keeping.table, ·, keeping.settings.insertRetries⟩)
  processed : ∃ report, (step svc' keeping s').1 = .done (.processed report) ∧
    report.received = batch.length

end

/-! ## Steady services side by side -/

/-- Two worlds offer the same answers to inserts, and these batches; the disk of the second one does
not fail. -/
def Offered (offers : σ → Offer → Prop) (offers' : τ → Offer → Prop)
    (pulls : List (List Message)) (w : σ) (v : τ) : Prop :=
  ∃ answers answers', offers w ⟨pulls, answers⟩ ∧ offers' v ⟨pulls, answers'⟩ ∧
    answers.inserts = answers'.inserts ∧ ∀ i, answers'.writes i = none

section
variable {svc : Services σ} {svc' : Services τ} {offers : σ → Offer → Prop}
  {offers' : τ → Offer → Prop} (hsvc : Steady svc offers) (hsvc' : Steady svc' offers')
  (relay : Relay) {pulls : List (List Message)}
include hsvc hsvc'

theorem Steady.abreast : Abreast svc svc' relay (Offered offers offers' pulls) where
  cancelled := by
    rintro w v ⟨answers, answers', ho, ho', -⟩
    rw [hsvc.going ho, hsvc'.going ho']
  insert := by
    rintro w v row ⟨answers, answers', ho, ho', hin, hwrites⟩
    obtain ⟨hanswer, hafter⟩ := hsvc.insert relay.table row (svc.newKey w).1
      relay.settings.insertRetries (hsvc.newKey ho)
    obtain ⟨hanswer', hafter'⟩ := hsvc'.insert relay.table row (svc'.newKey v).1
      relay.settings.insertRetries (hsvc'.newKey ho')
    rw [← hin] at hanswer'
    exact ⟨hanswer.trans hanswer'.symm, _, _, hafter, hafter', by simp only [hin], hwrites⟩
  wait := by
    rintro w v backoff ⟨answers, answers', ho, ho', hrest⟩
    obtain ⟨hanswer, hafter⟩ := hsvc.pause (backoff.delay (svc.draw w).1) (hsvc.draw ho)
    obtain ⟨hanswer', hafter'⟩ := hsvc'.pause (backoff.delay (svc'.draw v).1) (hsvc'.draw ho')
    exact ⟨hanswer.trans hanswer'.symm, _, _, hafter, hafter', hrest⟩
  acknowledge := by
    rintro w v ids ⟨answers, answers', ho, hrest⟩
    obtain ⟨hanswer, hafter⟩ := hsvc.acknowledge relay.subscription ids ho
    exact ⟨hanswer, _, _, hafter, hrest⟩
  acknowledge' := by
    rintro w v ids ⟨answers, answers', ho, ho', hrest⟩
    obtain ⟨hanswer, hafter⟩ := hsvc'.acknowledge relay.subscription ids ho'
    exact ⟨hanswer, _, _, ho, hafter, hrest⟩

omit hsvc in
/-- The run that stops at failures writes nothing, and the other one writes with success. -/
theorem Steady.givesUpAlike (acks : AckPolicy) (kept kept' : Bool) :
    GivesUpAlike svc svc' relay (Offered offers offers' pulls) ⟨.abort, acks⟩ ⟨.deadLetter, acks⟩
      kept kept' := by
  rintro w v m x ⟨answers, answers', ho, ho', hin, hwrites⟩
  rw [recordReply_faultless (Attempt.keptReason?_abort rfl ..), recordReply]
  cases x.keptReason? (relay.under ⟨.deadLetter, acks⟩) kept' with
  | none => exact ⟨rfl, _, _, ho, ho', hin, hwrites⟩
  | some reason =>
    obtain ⟨hanswer, hafter⟩ := hsvc'.record (.ofMessage m reason (svc'.now v)) ho'
    exact ⟨(hanswer.trans (hwrites 0)).symm, _, _, ho, hafter, hin, fun i => hwrites (i + 1)⟩

theorem Steady.begins {batch : List Message} {w : σ} {v : τ}
    (h : Offered offers offers' (batch :: pulls) w v) :
    Begins svc svc' relay (Offered offers offers' pulls) w v := by
  obtain ⟨answers, answers', ho, ho', hrest⟩ := h
  obtain ⟨hanswer, hafter⟩ := hsvc.pull relay.subscription relay.settings.batchSize
    relay.settings.returnImmediately ho
  obtain ⟨hanswer', hafter'⟩ := hsvc'.pull relay.subscription relay.settings.batchSize
    relay.settings.returnImmediately ho'
  refine ⟨?_, fun hseen => ?_, fun _ => ⟨hanswer.trans hanswer'.symm, _, _, hafter, hafter', hrest⟩⟩
  · rw [hsvc.going ho, hsvc'.going ho']
  · rw [hsvc.going ho] at hseen
    cases hseen

end

/-! ## Going on behind a fatal message -/

section
variable {relay : Relay} {m : Message} {x : Attempt} {time : Int64} {events : List Event}

/-- The last thing that a delivery writes which fails, and is kept, is the letter. -/
theorem Delivered.recorded {reason : String}
    (hd : Delivered relay true ⟨m, x, time, none⟩ events)
    (hp : relay.settings.failurePolicy = .deadLetter) (hreason : x.reason? = some reason) :
    ∃ before, events = before ++ [.recorded (.ofMessage m reason time) none] ∧
      callsOf before = (x.call? relay).toList ∧ (accountOf before).writes = [] := by
  have hfailed : failureEvents relay true ⟨m, x, time, none⟩ =
      [.gaveUp m.messageId reason, .recorded (.ofMessage m reason time) none] := by
    simp [failureEvents, giveUpEvents, hp, hreason]
  cases hd with
  | undecodable time fault? hrow =>
    rw [hfailed]
    exact ⟨[.gaveUp m.messageId reason], rfl, rfl, rfl⟩
  | @tried _ row key answer lines _ _ hrow =>
    rw [hfailed]
    refine ⟨askEvents relay m row key (.answered answer) lines ++ [.gaveUp m.messageId reason],
      by simp, ?_, ?_⟩
    · rw [callsOf_append, callsOf_askEvents]
      rfl
    · rw [accountOf_append, askEvents_account]
      rfl

/-- From wherever it arrived, a step that keeps failures goes on to the end of its batch. -/
theorem Arrived.goesOn {svc : Services σ} {offers : σ → Offer → Prop} (hsvc : Steady svc offers)
    (hp : relay.settings.failurePolicy = .deadLetter) {s s₁ : State σ} {batch : List Message}
    {tried : List (Message × Attempt)} {p : Progress} {o : Offer}
    (h : Arrived svc relay s batch tried p s₁) (ho : offers s₁.world o)
    (hwrites : ∀ i, o.answers.writes i = none) :
    (∃ after, (step svc relay s).2.journal = s₁.journal ++ after ∧
      (accountOf after).insertCalls = ((batch.drop tried.length).filterMap rowOf?).map
        (⟨relay.table, ·, relay.settings.insertRetries⟩)) ∧
    ∃ report, (step svc relay s).1 = .done (.processed report) ∧
      report.received = batch.length := by
  obtain ⟨pulls, answers⟩ := o
  have hstep := h.reached.step_eq
  obtain ⟨done, rest, es, last, hh, hw, hend⟩ := deliverAll_wrote svc relay batch.length
    (batch.drop tried.length) tried.length p s₁
  obtain ⟨-, -, -, ho', hloop⟩ := deliverAll_course hsvc relay batch.length
    (batch.drop tried.length) tried.length p s₁ ho
  rw [Course.loopEnd, course_stop?_deadLetter hp _ _ hwrites] at hloop
  generalize deliverAll svc relay batch.length tried.length (batch.drop tried.length) p s₁ = out
    at hstep hw hend ho' hloop
  obtain ⟨end', s₂⟩ := out
  dsimp only at hw hend ho' hloop
  obtain ⟨p', rfl⟩ : ∃ p', end' = .delivered p' := ⟨_, hloop⟩
  cases hend
  obtain ⟨acked, hanswer, hack, heffects, -⟩ := acknowledge_steady hsvc relay ho'
    (p.after relay.settings.ackPolicy done).ackIds
  have hfinish : step svc relay s = finish svc relay batch.length
    (p.after relay.settings.ackPolicy done) s₂ := hstep
  unfold finish at hfinish
  generalize acknowledge svc relay (p.after relay.settings.ackPolicy done).ackIds s₂ = out
    at hanswer hack hfinish
  obtain ⟨answer, s₃⟩ := out
  dsimp only at hanswer hack
  subst hanswer
  obtain ⟨report, hlen, hfinish⟩ : ∃ report : BatchReport, report.received = batch.length ∧
      step svc relay s = (.done (.processed report),
        { s₃ with stats := s₃.stats.absorb report }.note (.finished report)) := ⟨_, rfl, hfinish⟩
  rw [hfinish]
  refine ⟨⟨es ++ [] ++ acked ++ [.finished report], ?_, ?_⟩, report, rfl, hlen⟩
  · rw [← List.append_assoc]
    exact congrArg (· ++ [_]) (hw.trans hack).journal
  · have hnone : (accountOf acked).insertCalls = [] := congrArg Effects.insertCalls heffects
    have hbatch : done.map (·.message) = batch.drop tried.length := by simpa using hh.batch_eq.symm
    have hfinished : accountOf [.finished report] = {} := rfl
    rw [accountOf_append, accountOf_append, List.append_nil, hh.delivered.account, ← hbatch,
      ← accountAll_insertCalls relay s₁.store.isSome hh.delivered.at, hfinished]
    simp [hnone]

end

/-! ## Both runs -/

section
variable {svc : Services σ} {svc' : Services τ} {relay : Relay} {acks : AckPolicy} {s : State σ}
  {s' : State τ}

/-- Steps that tell the same tale do likewise, if the one that keeps failures has an outcome. -/
theorem SameTale.doesLikewise {R : σ → τ → Prop}
    (h : SameTale svc svc' relay R ⟨.abort, acks⟩ ⟨.deadLetter, acks⟩ s s')
    (hstore : s'.store.isSome = true)
    (hgoes : ∃ outcome, (step svc' (relay.under ⟨.deadLetter, acks⟩) s').1 = .done outcome ∧
      outcome ≠ .cancelled) :
    DoesLikewise svc svc' (relay.under ⟨.abort, acks⟩) (relay.under ⟨.deadLetter, acks⟩) s s' := by
  obtain ⟨-, t, ht, ht'⟩ := h
  have hended : (step svc' (relay.under ⟨.deadLetter, acks⟩) s').1 =
      (step svc (relay.under ⟨.abort, acks⟩) s).1 := ht'.ended.trans ht.ended.symm
  -- the step has an outcome and was not stopped, so the tale leaves nothing out
  have hwhole : triedBy t.calls = t.tried := by
    apply ht.whole
    obtain ⟨outcome, houtcome, hne⟩ := hgoes
    have hend := ht'.ended.symm.trans houtcome
    unfold Tale.stepEnd at hend
    cases hending : t.ending with
    | stopped =>
      rw [hending] at hend
      cases hend
      exact absurd rfl hne
    | idle => exact .inl rfl
    | failed e =>
      rw [hending] at hend
      cases hend
    | broken b e =>
      rw [hending] at hend
      cases hend
    | processed => exact .inr rfl
  have hunharmed : ∀ x ∈ t.tried, x.2.fatal? x.1 = none := by
    intro x hx
    obtain ⟨d, hd⟩ := ht.survived x hx
    exact Attempt.not_fatal_of_verdict hd
  refine
    { goes := by rw [← hended]; exact hgoes
      ended := hended
      calls := ht'.calls.trans ht.calls.symm
      ackCalls := ht'.ackCalls.trans ht.ackCalls.symm
      unharmed := ?_
      letters := ?_ }
  · rw [ht.calls, hwhole]
    exact hunharmed
  · rw [ht'.letters, ht.calls, hwhole, hstore]
    exact lettersOf_eq_rejected _ rfl hunharmed

section
variable {offers : σ → Offer → Prop} {offers' : τ → Offer → Prop} {pulls : List (List Message)}
  {batch : List Message} {tried : List (Message × Attempt)} {m : Message} {x : Attempt}
  {fault? : Option Store.RecordFault} {e : RelayError} {p p' : Progress} {s₁ : State σ}
  {s₁' : State τ}
  (h : Parted svc svc' relay (Offered offers offers' pulls) ⟨.abort, acks⟩ ⟨.deadLetter, acks⟩ s s'
    batch tried m x fault? e p s₁ p' s₁')
include h

theorem Parted.faultless : fault? = none :=
  h.judged.faultless (Attempt.keptReason?_abort rfl ..)

theorem Parted.fatal? : x.fatal? m = some e := by
  have hv := h.fatal
  rw [Handling.verdict_of_keptReason?_eq_none (Attempt.keptReason?_abort rfl ..)] at hv
  exact (Attempt.verdict_error hv).2

theorem Parted.reason : x.reason? = some e.reason :=
  Attempt.reason?_of_fatal h.fatal?

/-- Behind the message the step that keeps failures has arrived too. -/
theorem Parted.next : ∃ p'', Arrived svc' (relay.under ⟨.deadLetter, acks⟩) s' batch
    (tried ++ [(m, x)]) p'' (deliver svc' (relay.under ⟨.deadLetter, acks⟩) m s₁').2 := by
  obtain ⟨d, hd⟩ := h.survived
  exact ⟨_, h.arrived'.next h.message h.going' h.judged' hd⟩

/-- The calls up to the message tell that it was tried, and what was tried before. -/
theorem Parted.triedBy_eq (ending : Ending) : ∃ more, triedBy
    (Tale.ofBatch relay batch tried (x.call? relay).toList ending).calls =
      tried ++ (m, x) :: more := by
  obtain ⟨p'', hnext⟩ := h.next
  rw [← Tale.ofBatch_concat relay batch tried m x]
  exact ⟨_, (hnext.triedBy_eq ending).trans (List.append_assoc ..)⟩

/-- What the step that keeps failures has written behind the message, and its letter last. -/
theorem Parted.recorded (hstore : s'.store.isSome = true)
    (hunharmed : ∀ y ∈ tried, y.2.fatal? y.1 = none) (ending : Ending) : ∃ before letter,
    (deliver svc' (relay.under ⟨.deadLetter, acks⟩) m s₁').2.journal =
      s'.journal ++ before ++ [.recorded letter none] ∧
    callsOf before = (Tale.ofBatch relay batch tried (x.call? relay).toList ending).calls ∧
    (accountOf before).letters.map DeadLetter.undated = rejectedLetters tried ∧
    letter.undated = .ofMessage m e.reason 0 := by
  obtain ⟨done, es, lines, rfl, hh, -, hw⟩ := h.arrived'.handled
  obtain ⟨time, events, hdelivered, hw'⟩ := h.judged'.wrote
  rw [hw.kept, hstore, h.faultless] at hdelivered
  obtain ⟨before, rfl, hbefore, hnoWrite⟩ := hdelivered.recorded rfl h.reason
  refine ⟨pullEvents relay (.answered (.ok batch)) lines ++ es ++ before,
    .ofMessage m e.reason time, ?_, ?_, ?_, rfl⟩
  · rw [(hw.trans hw').journal, List.append_assoc s'.journal, ← List.append_assoc _ before]
    rfl
  · rw [callsOf_append, callsOf_append, callsOf_pullEvents, hh.delivered.calls, hbefore]
    simp only [Tale.ofBatch, triedOf, List.filterMap_map]
    rfl
  · have hall : (accountOf (pullEvents relay (.answered (.ok batch)) lines ++ es ++
        before)).letters = (accountAll (relay.under ⟨.deadLetter, acks⟩) true done).letters := by
      rw [accountOf_append, accountOf_append, pullEvents_account, hh.delivered.account, hstore]
      simp [Account.letters, hnoWrite]
    rw [hall, ← lettersOf_eq_rejected (relay.under ⟨.deadLetter, acks⟩) rfl hunharmed]
    exact accountAll_letters (relay.under ⟨.deadLetter, acks⟩) true (hstore ▸ hh.survived)

/-- Where the steps part the one that keeps failures goes on. -/
theorem Parted.goesOn (hsvc : Steady svc offers) (hsvc' : Steady svc' offers')
    (hstore : s'.store.isSome = true) :
    GoesOnBehind svc svc' (relay.under ⟨.abort, acks⟩) (relay.under ⟨.deadLetter, acks⟩) s s' batch
      tried.length m x e := by
  obtain ⟨hack, -⟩ := acknowledge_abreast ⟨.abort, acks⟩ ⟨.deadLetter, acks⟩
    (hsvc.abreast hsvc' relay) h.worlds p.ackIds []
  obtain ⟨ht, -⟩ := h.arrived.broken h.message h.going h.judged h.fatal hack
  have hunharmed : ∀ y ∈ tried, y.2.fatal? y.1 = none := by
    intro y hy
    obtain ⟨d, hd⟩ := ht.survived y hy
    exact Attempt.not_fatal_of_verdict hd
  have hcalls : callsOf (stepEvents svc (relay.under ⟨.abort, acks⟩) s) =
      (Tale.ofBatch relay batch tried (x.call? relay).toList
        (.broken ⟨m, x, 0, fault?⟩ e)).calls := ht.calls
  obtain ⟨more, htried⟩ := h.triedBy_eq (.broken ⟨m, x, 0, fault?⟩ e)
  obtain ⟨p'', hnext⟩ := h.next
  obtain ⟨answers, answers', -, ho', -, hwrites⟩ := h.worlds
  obtain ⟨⟨after, hafter, hinserts⟩, hprocessed⟩ := hnext.goesOn hsvc' rfl ho' hwrites
  obtain ⟨before, letter, hbefore, hsame, hletters, hletter⟩ :=
    h.recorded hstore hunharmed (.broken ⟨m, x, 0, fault?⟩ e)
  refine
    { failed := ht.ended
      pulled := ?_
      fatal := ⟨?_, h.fatal?⟩
      unharmed := ?_
      recorded := ⟨before, letter, after, ?_, hsame.trans hcalls.symm, ?_, hletter, ?_⟩
      processed := hprocessed }
  · rw [accountOf_batches, hcalls]
    exact Tale.batches_ofBatch ..
  · rw [hcalls, htried]
    simp
  · rw [hcalls, htried]
    simpa using hunharmed
  · apply stepEvents_of_journal
    rw [hafter, hbefore, List.append_assoc, List.append_assoc]
    rfl
  · rw [hcalls, htried, List.take_left]
    exact hletters
  · rw [hinserts, List.length_append]
    rfl

end

variable {offers : σ → Offer → Prop} {offers' : τ → Offer → Prop} (hsvc : Steady svc offers)
  (hsvc' : Steady svc' offers') (relay acks)
include hsvc hsvc'

/-- One step of both runs, from worlds that offer the same. -/
theorem step_extends {batch : List Message} {pulls : List (List Message)}
    (ho : Offered offers offers' (batch :: pulls) s.world s'.world)
    (hback : s.backoff = s'.backoff) (hstore : s'.store.isSome = true) :
    (DoesLikewise svc svc' (relay.under ⟨.abort, acks⟩) (relay.under ⟨.deadLetter, acks⟩) s s' ∧
      Offered offers offers' pulls (step svc (relay.under ⟨.abort, acks⟩) s).2.world
        (step svc' (relay.under ⟨.deadLetter, acks⟩) s').2.world) ∨
    ∃ batch k m x e, GoesOnBehind svc svc' (relay.under ⟨.abort, acks⟩)
      (relay.under ⟨.deadLetter, acks⟩) s s' batch k m x e := by
  rcases step_abreast (hsvc.abreast hsvc' relay) (hsvc'.givesUpAlike relay acks _ _)
    (tolerates_deadLetter relay acks _ _) hback (hsvc.begins hsvc' relay ho) with
    hsame | ⟨batch, tried, m, x, fault?, e, p, s₁, p', s₁', hparted⟩
  · obtain ⟨answers, answers', -, ho', -, hwrites⟩ := ho
    have hfollows := step_course hsvc' (relay.under ⟨.deadLetter, acks⟩) ho'
    have hgoes := hfollows.goes (course_stop?_deadLetter rfl _ _ hwrites)
    exact .inl ⟨hsame.doesLikewise hstore hgoes.1, hsame.1⟩
  · exact .inr ⟨batch, tried.length, m, x, e, hparted.goesOn hsvc hsvc' hstore⟩

/-- A run that has not ended did so far what the run did that keeps failures. -/
theorem steps_extend (n : Nat) :
    ∀ {pulls : List (List Message)} {s : State σ} {s' : State τ}, n < pulls.length →
      Offered offers offers' pulls s.world s'.world → s.backoff = s'.backoff →
      s'.store.isSome = true → (steps svc (relay.under ⟨.abort, acks⟩) n s).1 = none →
      (steps svc' (relay.under ⟨.deadLetter, acks⟩) n s').1 = none ∧
      (DoesLikewise svc svc' (relay.under ⟨.abort, acks⟩) (relay.under ⟨.deadLetter, acks⟩)
          (steps svc (relay.under ⟨.abort, acks⟩) n s).2
          (steps svc' (relay.under ⟨.deadLetter, acks⟩) n s').2 ∨
        ∃ batch k m x e, GoesOnBehind svc svc' (relay.under ⟨.abort, acks⟩)
          (relay.under ⟨.deadLetter, acks⟩) (steps svc (relay.under ⟨.abort, acks⟩) n s).2
          (steps svc' (relay.under ⟨.deadLetter, acks⟩) n s').2 batch k m x e) := by
  induction n with
  | zero =>
    intro pulls s s' hlt ho hback hstore _
    obtain ⟨batch, pulls, rfl⟩ := List.exists_cons_of_length_pos hlt
    exact ⟨rfl, (step_extends relay acks hsvc hsvc' ho hback hstore).imp_left (·.1)⟩
  | succ n ih =>
    intro pulls s s' hlt ho hback hstore hnone
    obtain ⟨batch, pulls, rfl⟩ := List.exists_cons_of_length_pos (Nat.zero_lt_of_lt hlt)
    rcases step_extends relay acks hsvc hsvc' ho hback hstore with
      ⟨hlikewise, hafter⟩ | ⟨batch, k, m, x, e, hbehind⟩
    · obtain ⟨outcome, hend, hne⟩ := hlikewise.goes
      rw [steps_of_done hend hne] at hnone ⊢
      rw [steps_of_done (hlikewise.ended.trans hend) hne]
      have hround := step_round svc (relay.under ⟨.abort, acks⟩) s
      have hround' := step_round svc' (relay.under ⟨.deadLetter, acks⟩) s'
      refine ih (Nat.lt_of_succ_lt_succ hlt) hafter ?_ ?_ hnone
      · rw [hround.backoff, hround'.backoff, hback, accountOf_batches, accountOf_batches,
          hlikewise.calls]
      · rw [hround'.store, Option.isSome_map]
        exact hstore
    · rw [steps_of_failed hbehind.failed] at hnone
      cases hnone

end

/-- **Keeping failures extends stopping at them.** -/
theorem dead_letter_extends_abort {svc : Services σ} {svc' : Services τ}
    {offers : σ → Offer → Prop} {offers' : τ → Offer → Prop} (hsvc : Steady svc offers)
    (hsvc' : Steady svc' offers') (relay : Relay) (acks : AckPolicy) (store : Option Store)
    (kept : Store) {pulls : List (List Message)} {answers : Answers} {w : σ} {w' : τ}
    (ho : offers w ⟨pulls, answers⟩) (ho' : offers' w' ⟨pulls, answers⟩)
    (hwrites : ∀ i, answers.writes i = none) :
    (∀ n < pulls.length,
      let before := steps svc (relay.under ⟨.abort, acks⟩) n (.start relay.settings store w)
      let before' :=
        steps svc' (relay.under ⟨.deadLetter, acks⟩) n (.start relay.settings (some kept) w')
      before.1 = none → before'.1 = none ∧
        (DoesLikewise svc svc' (relay.under ⟨.abort, acks⟩) (relay.under ⟨.deadLetter, acks⟩)
            before.2 before'.2 ∨
          ∃ batch k m x e, GoesOnBehind svc svc' (relay.under ⟨.abort, acks⟩)
            (relay.under ⟨.deadLetter, acks⟩) before.2 before'.2 batch k m x e)) ∧
    ∀ (ρ : Type) (any : Services ρ) (n : Nat) (s : State ρ) (e : RelayError),
      (steps any (relay.under ⟨.deadLetter, acks⟩) n s).1 = some (.failed e) →
        NotAMessages any e :=
  ⟨fun n hlt => steps_extend relay acks hsvc hsvc' n hlt
      ⟨answers, answers, ho, ho', rfl, hwrites⟩ rfl rfl,
    fun _ _ n _ _ => steps_failed rfl n⟩

/-- The first step of two meets no fatal message. The second one stops at its third message, or goes
on behind it. -/
theorem dead_letter_extends_abort_three :
    let batch : List Message :=
      [⟨"a1", "m1", "e30=", none, []⟩, ⟨"a2", "m2", "e30=", none, []⟩, ⟨"a3", "m3", "", none, []⟩]
    let pulls := [batch.take 2, batch]
    let inserts : List (Planned (Except InsertError Unit)) :=
      [.prompt (.ok ()), .prompt (.error (.rejected ""))]
    let w : Script := { pulls := pulls.map fun batch => .prompt (.ok batch), inserts }
    let relay := sampleRelay {}
    let aborting := relay.under ⟨.abort, .afterInsert⟩
    let keeping := relay.under ⟨.deadLetter, .afterInsert⟩
    let s := State.start {} none w
    let s' := State.start {} (some (.create {})) w
    DoesLikewise Script.services Script.services aborting keeping s s' ∧
    ∃ batch k m x, GoesOnBehind Script.services Script.services aborting keeping
      (steps Script.services aborting 1 s).2 (steps Script.services keeping 1 s').2 batch k m x
      (.decode "m3" (.json ⟨.unfinishedValue, ⟨1, 0⟩⟩)) := by
  intro batch pulls inserts w relay aborting keeping s s'
  let answers : Answers :=
    ⟨fun i => (inserts[i]?.getD (.prompt (.ok ()))).answer, fun _ => none⟩
  have hoffers : ∀ i : Nat, inserts[i]?.getD (.prompt (.ok ())) = .prompt (answers.inserts i)
    | 0 | 1 | i + 2 => rfl
  have hw : w.Offers ⟨pulls, answers⟩ := ⟨rfl, rfl, hoffers, fun _ => rfl, rfl⟩
  have h := (dead_letter_extends_abort Script.steady Script.steady relay .afterInsert none
    (.create {}) hw hw fun _ => rfl).1
  have hfirst : (step Script.services aborting s).1 = .done (.processed ⟨2, 1, 1, 1⟩) := rfl
  have hsecond : (step Script.services aborting (steps Script.services aborting 1 s).2).1 =
      .failed (.decode "m3" (.json ⟨.unfinishedValue, ⟨1, 0⟩⟩)) := rfl
  constructor
  · rcases (h 0 (by decide) rfl).2 with hlikewise | ⟨batch, k, m, x, e, hbehind⟩
    · exact hlikewise
    · cases hfirst.symm.trans hbehind.failed
  · rcases (h 1 (by decide) rfl).2 with hlikewise | ⟨batch, k, m, x, e, hbehind⟩
    · obtain ⟨outcome, hgoes, -⟩ := hlikewise.goes
      cases hsecond.symm.trans hgoes
    · cases hsecond.symm.trans hbehind.failed
      exact ⟨batch, k, m, x, hbehind⟩

end RowRelay.Relay
