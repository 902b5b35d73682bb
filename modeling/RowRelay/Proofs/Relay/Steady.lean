import RowRelay.Proofs.Relay.Course

/-!
# Runs in which only inserts and the disk go wrong

`Steady svc offers`: in the worlds that offer something, services bring the batches and the answers
offered, nobody asks the relay to stop, and every acknowledgement succeeds. The answers are those of
inserts and of the disk, which may fail at any letter.

A run with such services follows the course of all its messages (`steps_course`): the loop over a
batch follows the course of the batch (`deliverAll_course`), a step acknowledges what the loop has
left (`step_course`), and the courses of the steps join. The course knows of no batches, so it makes
no difference how the messages were cut (`batch_boundaries_invisible`).
-/

set_option autoImplicit false

namespace RowRelay.Relay

open BigQuery (InsertError)
open PubSub (Message)

variable {σ τ : Type}

/-! ## Steady services -/

/-- What services have to offer: the batches of the pulls to come, and the answers to come. -/
structure Offer where
  pulls : List (List Message)
  answers : Answers

/-- In worlds that offer something nobody asks the relay to stop; every pull brings the next batch,
every insert and every letter the next answer, and every acknowledgement succeeds. -/
structure Steady (svc : Services σ) (offers : σ → Offer → Prop) : Prop where
  going {w : σ} {o : Offer} : offers w o → svc.cancelled w = false
  pull {w : σ} {batch : List Message} {pulls : List (List Message)} {answers : Answers}
    (subscription : String) (most : UInt32) (immediately : Bool) :
    offers w ⟨batch :: pulls, answers⟩ →
    (svc.pull subscription most immediately w).answer = .answered (.ok batch) ∧
    offers (svc.pull subscription most immediately w).world ⟨pulls, answers⟩
  insert {w : σ} {pulls : List (List Message)} {answers : Answers} (table : BigQuery.TableRef)
    (row : BigQuery.Row) (key : BigQuery.IdempotencyKey) (retries : UInt32) :
    offers w ⟨pulls, answers⟩ →
    (svc.insert table row key retries w).answer = .answered (answers.inserts 0) ∧
    offers (svc.insert table row key retries w).world
      ⟨pulls, { answers with inserts := fun i => answers.inserts (i + 1) }⟩
  acknowledge {w : σ} {o : Offer} (subscription : String) (ids : List String) : offers w o →
    (svc.acknowledge subscription ids w).answer = some (.ok ()) ∧
    offers (svc.acknowledge subscription ids w).world o
  pause {w : σ} {o : Offer} (delay : Duration) : offers w o →
    (svc.pause delay w).answer = .answered () ∧ offers (svc.pause delay w).world o
  record {w : σ} {pulls : List (List Message)} {answers : Answers} (letter : DeadLetter) :
    offers w ⟨pulls, answers⟩ →
    (svc.record letter w).1 = answers.writes 0 ∧
    offers (svc.record letter w).2
      ⟨pulls, { answers with writes := fun i => answers.writes (i + 1) }⟩
  newKey {w : σ} {o : Offer} : offers w o → offers (svc.newKey w).2 o
  draw {w : σ} {o : Offer} : offers w o → offers (svc.draw w).2 o

/-- The counts of all batches together. -/
def Stats.totals (s : Stats) : BatchReport :=
  ⟨s.received, s.inserted, s.failed, s.acknowledged⟩

instance : Add BatchReport where
  add a b := ⟨a.received + b.received, a.inserted + b.inserted, a.failed + b.failed,
    a.acknowledged + b.acknowledged⟩

theorem BatchReport.add_assoc (a b c : BatchReport) : a + b + c = a + (b + c) := by
  change BatchReport.mk _ _ _ _ = BatchReport.mk _ _ _ _
  congr 1 <;> exact Nat.add_assoc ..

theorem reportOf_append (relay : Relay) (done done' : List Handling) :
    reportOf relay (done ++ done') = reportOf relay done + reportOf relay done' := by
  change BatchReport.mk _ _ _ _ = BatchReport.mk _ _ _ _
  simp [reportOf, admittedIds]

/-! ## Following a course -/

/-- A step did what the course says, and went on if the course does not stop. -/
structure StepFollows (offers : σ → Offer → Prop) (relay : Relay) (pulls : List (List Message))
    (c : Course) (s : State σ) (out : StepEnd × State σ) : Prop where
  journal : ∃ events, out.2.journal = s.journal ++ events ∧
    effectsOf events = c.effects relay s.store.isSome
  kept : out.2.store.isSome = s.store.isSome
  offers : offers out.2.world ⟨pulls, c.left⟩
  stopped : ∀ e, c.stop? relay s.store.isSome = some e → out.1 = .failed e
  goes : c.stop? relay s.store.isSome = none →
    (∃ outcome, out.1 = .done outcome ∧ outcome ≠ .cancelled) ∧
    out.2.stats.totals = s.stats.totals + reportOf relay c.handled

/-- Writing what comes to nothing beforehand makes no difference. -/
theorem StepFollows.of_wrote {offers : σ → Offer → Prop} {relay : Relay}
    {pulls : List (List Message)} {c : Course} {s s₀ : State σ} {out : StepEnd × State σ}
    {events : List Event} (h : StepFollows offers relay pulls c s₀ out) (hw : s.Wrote events s₀)
    (hnothing : effectsOf events = {}) : StepFollows offers relay pulls c s out := by
  obtain ⟨events', hjournal, heffects⟩ := h.journal
  refine
    { journal := ⟨events ++ events', ?_, ?_⟩
      kept := h.kept.trans hw.kept
      offers := h.offers
      stopped := fun e hc => h.stopped e (by rw [hw.kept, hc])
      goes := fun hc => ?_ }
  · rw [hjournal, hw.journal, List.append_assoc]
  · rw [effectsOf_append, hnothing, heffects, hw.kept]
    rfl
  · rw [← hw.stats]
    exact h.goes (by rw [hw.kept, hc])

/-- A run did what the course says: it stopped with the error of the course, or all pulls were used
up. -/
structure RunFollows (offers : σ → Offer → Prop) (relay : Relay) (c : Course) (s : State σ)
    (out : Option RunEnd × State σ) : Prop where
  journal : ∃ events, out.2.journal = s.journal ++ events ∧
    effectsOf events = c.effects relay s.store.isSome
  ended : out.1 = (c.stop? relay s.store.isSome).map .failed
  counted : c.stop? relay s.store.isSome = none →
    out.2.stats.totals = s.stats.totals + reportOf relay c.handled ∧
    offers out.2.world ⟨[], c.left⟩

theorem StepFollows.andThen {offers : σ → Offer → Prop} {relay : Relay}
    {pulls : List (List Message)} {c d : Course} {s : State σ} {out : StepEnd × State σ}
    {out' : Option RunEnd × State σ} (h : StepFollows offers relay pulls c s out)
    (hc : c.stopper = none) (hgoes : c.stop? relay s.store.isSome = none)
    (hrest : RunFollows offers relay d out.2 out') :
    RunFollows offers relay (c.andThen d) s out' := by
  obtain ⟨events, hjournal, heffects⟩ := h.journal
  obtain ⟨⟨events', hjournal', heffects'⟩, hended, hcounted⟩ := hrest
  rw [h.kept] at heffects' hended hcounted
  refine ⟨⟨events ++ events', ?_, ?_⟩, ?_, ?_⟩
  · rw [hjournal', hjournal, List.append_assoc]
  · rw [effectsOf_append, heffects, heffects', Course.effects_andThen _ _ hc]
  · rw [hended, Course.andThen_of_none hc]
    rfl
  · rw [Course.andThen_of_none hc]
    intro hnone
    obtain ⟨htotals, ho⟩ := hcounted hnone
    refine ⟨?_, ho⟩
    rw [htotals, (h.goes hgoes).2, BatchReport.add_assoc, reportOf_append]

/-- What a run does behind a step hangs on how the step ended. -/
theorem steps_eq (svc : Services σ) (relay : Relay) (n : Nat) (s : State σ) :
    steps svc relay (n + 1) s = match (step svc relay s).1 with
      | .done .cancelled => (some (.stopped (step svc relay s).2.stats),
          (step svc relay s).2.note (.stopped (step svc relay s).2.stats))
      | .done _ => steps svc relay n (step svc relay s).2
      | .failed e => (some (.failed e), (step svc relay s).2)
      | .unanswered => (some .unanswered, (step svc relay s).2) := by
  rw [steps]
  generalize step svc relay s = out
  obtain ⟨(_ | _ | report) | e | ⟨⟩, s'⟩ := out <;> rfl

theorem steps_of_failed {svc : Services σ} {relay : Relay} {s : State σ} {e : RelayError}
    (h : (step svc relay s).1 = .failed e) (n : Nat) :
    steps svc relay (n + 1) s = (some (.failed e), (step svc relay s).2) := by
  rw [steps_eq, h]

theorem steps_of_done {svc : Services σ} {relay : Relay} {s : State σ} {outcome : Outcome}
    (h : (step svc relay s).1 = .done outcome) (hne : outcome ≠ .cancelled) (n : Nat) :
    steps svc relay (n + 1) s = steps svc relay n (step svc relay s).2 := by
  rw [steps_eq, h]
  cases outcome with
  | cancelled => exact absurd rfl hne
  | idle => rfl
  | processed report => rfl

/-! ## One batch and one step -/

section
variable {svc : Services σ} {offers : σ → Offer → Prop} (hsvc : Steady svc offers) (relay : Relay)
include hsvc

/-- What is made of an attempt hangs on the next answer of the disk. -/
theorem Concluded.steady {m : Message} {a : Attempt} {s : State σ}
    {out : Except RelayError Delivery × State σ} (hc : Concluded svc relay m a s out)
    {pulls : List (List Message)} {answers : Answers} (ho : offers s.world ⟨pulls, answers⟩) :
    Handling.Alike relay s.store.isSome (handling svc relay s.store.isSome m a s.world)
      ⟨m, a, 0, answers.writes 0⟩ ∧
    offers out.2.world
      ⟨pulls, answers.behindWrite relay s.store.isSome ⟨m, a, 0, answers.writes 0⟩⟩ := by
  rw [hc.world]
  unfold handling recordReply Answers.behindWrite
  cases hk : a.keptReason? relay s.store.isSome with
  | none => exact ⟨⟨rfl, rfl, by simp [hk]⟩, by simpa [hk] using ho⟩
  | some reason =>
    obtain ⟨hanswer, ho'⟩ := hsvc.record (.ofMessage m reason (svc.now s.world)) ho
    exact ⟨⟨rfl, rfl, fun _ => hanswer⟩, by simpa [hk] using ho'⟩

theorem deliver_steady {s : State σ} {pulls : List (List Message)} {answers : Answers}
    (ho : offers s.world ⟨pulls, answers⟩) (m : Message) :
    ∃ h events, Handling.Alike relay s.store.isSome h (handlingOf m answers) ∧
      Delivered relay s.store.isSome h events ∧
      (deliver svc relay m s).1 =
        .answered ((handlingOf m answers).verdict relay s.store.isSome) ∧
      s.Wrote events (deliver svc relay m s).2 ∧
      offers (deliver svc relay m s).2.world
        ⟨pulls, answers.behind relay s.store.isSome m⟩ := by
  cases hrow : BigQuery.decodeRow m with
  | error cause =>
    have hof : Attempt.of m (answers.inserts 0) = .undecodable cause := by simp [Attempt.of, hrow]
    have hbehind : answers.behindInsert m = answers := by
      simp [Answers.behindInsert, rowOf?, hrow, Except.toOption]
    obtain ⟨out, hd, hc⟩ := deliver_undecodable svc relay s hrow
    obtain ⟨halike, ho'⟩ := hc.steady hsvc relay ho
    rw [Answers.behind, hbehind, handlingOf, hof, hd]
    exact ⟨_, _, halike, .undecodable _ _ hrow,
      congrArg _ (hc.answer.trans halike.verdict), hc.wrote, ho'⟩
  | ok row =>
    have hof : Attempt.of m (answers.inserts 0) = .tried row (answers.inserts 0) := by
      simp [Attempt.of, hrow]
    have hbehind : answers.behindInsert m =
        { answers with inserts := fun i => answers.inserts (i + 1) } := by
      simp [Answers.behindInsert, rowOf?, hrow, Except.toOption]
    obtain ⟨hanswer, ho'⟩ := hsvc.insert relay.table row (svc.newKey s.world).1
      relay.settings.insertRetries (hsvc.newKey ho)
    obtain ⟨s₁, hask, ⟨hgiven, -⟩ | ⟨answer, out, hgiven, hd, hc⟩⟩ :=
      deliver_decoded svc relay s hrow
    · cases hanswer.symm.trans hgiven
    · obtain rfl := Awaited.answered.inj (hanswer.symm.trans hgiven)
      obtain ⟨halike, ho''⟩ := hc.steady hsvc relay (hask.world ▸ ho')
      have hw := hask.wrote.trans (hask.wrote.kept ▸ hc.wrote)
      rw [hgiven] at hw
      rw [hask.wrote.kept] at halike ho''
      rw [Answers.behind, hbehind, handlingOf, hof, hd]
      exact ⟨_, _, halike, .tried _ _ _ _ _ hrow,
        congrArg _ ((hask.wrote.kept ▸ hc.answer).trans halike.verdict), hw, ho''⟩

/-- The loop over messages follows their course. -/
theorem deliverAll_course {pulls : List (List Message)} (total : Nat) (ms : List Message) :
    ∀ {answers : Answers} (index : Nat) (p : Progress) (s : State σ),
      offers s.world ⟨pulls, answers⟩ → ∃ events,
        s.Wrote events (deliverAll svc relay total index ms p s).2 ∧
        effectsOf events =
          (course relay s.store.isSome ms answers).delivered relay s.store.isSome ∧
        offers (deliverAll svc relay total index ms p s).2.world
          ⟨pulls, (course relay s.store.isSome ms answers).left⟩ ∧
        (deliverAll svc relay total index ms p s).1 =
          (course relay s.store.isSome ms answers).loopEnd relay s.store.isSome p := by
  induction ms with
  | nil =>
    intro answers index p s ho
    refine ⟨[], .refl s, rfl, ho, ?_⟩
    simp [deliverAll, course, Course.loopEnd, Course.stop?]
  | cons m ms ih =>
    intro answers index p s ho
    obtain ⟨h, events, halike, hd, hr, hw, ho'⟩ := deliver_steady hsvc relay ho m
    have heffects : effectsOf events =
        ((handlingOf m answers).account relay s.store.isSome).effects := by
      rw [effectsOf, hd.account]
      exact halike.effects
    rw [deliverAll, if_neg (by simp [hsvc.going ho])]
    generalize deliver svc relay m s = out at hr hw ho' ⊢
    obtain ⟨answer, s₁⟩ := out
    simp only at hr hw ho'
    subst hr
    cases hv : (handlingOf m answers).verdict relay s.store.isSome with
    | error e =>
      rw [course_cons_of_error hv]
      refine ⟨events, hw, ?_, ho', ?_⟩
      · rw [heffects]
        rfl
      · simp [Course.loopEnd, Course.stop?, hv]
    | ok d =>
      obtain ⟨events', hw', heffects', ho'', hend⟩ :=
        ih (index + 1) (p.count relay.settings.ackPolicy m d) s₁ ho'
      rw [hw.kept] at heffects' ho'' hend
      rw [course_cons_of_ok hv]
      refine ⟨events ++ events', hw.trans hw', ?_, ho'', ?_⟩
      · rw [effectsOf_append, heffects, heffects', Course.delivered,
          ← Account.effects_append, ← accountAll_cons]
        rfl
      · have hcount := Progress.count_after hv relay.settings.ackPolicy p
        rw [hend, Course.loopEnd, Course.loopEnd, ← hcount]
        rfl

theorem acknowledge_steady {s : State σ} {o : Offer} (ho : offers s.world o) (ids : List String) :
    ∃ events, (acknowledge svc relay ids s).1 = some (.ok ()) ∧
      s.Wrote events (acknowledge svc relay ids s).2 ∧ effectsOf events = { ackIds := ids } ∧
      offers (acknowledge svc relay ids s).2.world o := by
  obtain ⟨events, hacked, hw⟩ := acknowledge_wrote svc relay ids s
  have hanswer : (acknowledge svc relay ids s).1 = some (.ok ()) ∧
      offers (acknowledge svc relay ids s).2.world o := by
    unfold acknowledge
    split
    · exact ⟨rfl, ho⟩
    · exact hsvc.acknowledge relay.subscription ids ho
  refine ⟨events, hanswer.1, hw, ?_, hanswer.2⟩
  rw [effectsOf, hacked.account]
  by_cases hids : ids = [] <;> simp [Account.effects, hids]

section
variable {s s₁ : State σ} {pulls : List (List Message)} {c : Course} {events : List Event}
  (hw : ({ s with backoff := s.backoff.reset } : State σ).Wrote events s₁)
  (heffects : effectsOf events = c.delivered relay s.store.isSome)
  (ho : offers s₁.world ⟨pulls, c.left⟩)
include hw heffects ho

/-- Acknowledging completes the effects of the course. -/
theorem acknowledge_course :
    ∃ events' s₂, acknowledge svc relay (admittedIds relay.settings.ackPolicy c.handled) s₁ =
        (some (.ok ()), s₂) ∧
      ({ s with backoff := s.backoff.reset } : State σ).Wrote events' s₂ ∧
      effectsOf events' = c.effects relay s.store.isSome ∧ offers s₂.world ⟨pulls, c.left⟩ := by
  obtain ⟨acked, hanswer, hacked, heffects', ho'⟩ := acknowledge_steady hsvc relay ho
    (admittedIds relay.settings.ackPolicy c.handled)
  refine ⟨events ++ acked, _, Prod.ext hanswer rfl, hw.trans hacked, ?_, ho'⟩
  rw [effectsOf_append, heffects, heffects']
  rfl

theorem breakOff_course {e : RelayError}
    (hstop : c.stop? relay s.store.isSome = some e) :
    StepFollows offers relay pulls c s
      (breakOff svc relay e (({} : Progress).after relay.settings.ackPolicy c.handled) s₁) := by
  obtain ⟨events', s₂, hacked, hw', heffects', ho'⟩ :=
    acknowledge_course hsvc relay hw heffects ho
  simp only [breakOff, Progress.after_ackIds, hacked]
  have hflushed := hw'.trans (flush_wrote (admittedIds relay.settings.ackPolicy c.handled)
    (.ok ()) s₂)
  refine
    { journal := ⟨_, hflushed.journal, ?_⟩
      kept := hflushed.kept
      offers := ?_
      stopped := fun e' he' => by rw [Option.some.inj (hstop.symm.trans he')]
      goes := fun h => by cases hstop.symm.trans h }
  · rw [effectsOf_append, heffects', effectsOf, flushEvents_account]
    exact Effects.append_empty _
  · change offers (if _ then s₂ else s₂.note _).world _
    split
    · exact ho'
    · exact ho'

theorem finish_course {received : Nat} (hlen : received = c.handled.length)
    (hgoes : c.stop? relay s.store.isSome = none) :
    StepFollows offers relay pulls c s
      (finish svc relay received (({} : Progress).after relay.settings.ackPolicy c.handled)
        s₁) := by
  obtain ⟨events', s₂, hacked, hw', heffects', ho'⟩ :=
    acknowledge_course hsvc relay hw heffects ho
  simp only [finish, Progress.after_ackIds, hacked, reportOf_progress relay hlen]
  have hcounted := (hw'.counted (·.absorb (reportOf relay c.handled))).trans
    (State.note_wrote _ (e := .finished (reportOf relay c.handled)) rfl)
  refine
    { journal := ⟨_, hcounted.journal, ?_⟩
      kept := hcounted.kept
      offers := ho'
      stopped := fun e he => by cases hgoes.symm.trans he
      goes := fun _ => ⟨⟨_, rfl, by simp⟩, ?_⟩ }
  · rw [effectsOf_append, heffects']
    exact Effects.append_empty _
  · rw [hcounted.stats]
    rfl

end

theorem process_course {s : State σ} {pulls : List (List Message)} {answers : Answers}
    (ho : offers s.world ⟨pulls, answers⟩) (batch : List Message) :
    StepFollows offers relay pulls (course relay s.store.isSome batch answers) s
      (process svc relay batch s) := by
  obtain ⟨events, hw, heffects, ho', hend⟩ := deliverAll_course hsvc relay batch.length
    batch 0 {} { s with backoff := s.backoff.reset } ho
  unfold process
  generalize deliverAll svc relay batch.length 0 batch {} _ = out at hw ho' hend ⊢
  obtain ⟨end', s₁⟩ := out
  simp only [Course.loopEnd] at hw ho' hend
  cases hstop : (course relay s.store.isSome batch answers).stop? relay s.store.isSome with
  | some e =>
    rw [hstop] at hend
    subst hend
    exact breakOff_course hsvc relay hw heffects ho' hstop
  | none =>
    rw [hstop] at hend
    subst hend
    exact finish_course hsvc relay hw heffects ho'
      (course_not_stopped batch hstop).2.symm hstop

theorem idle_course {s : State σ} {pulls : List (List Message)} {answers : Answers}
    (ho : offers s.world ⟨pulls, answers⟩) :
    StepFollows offers relay pulls (course relay s.store.isSome [] answers) s
      (idle svc s) := by
  obtain ⟨outcome, count, delay, lines, -, -, hw⟩ := idle_wrote svc s
  have hpause := hsvc.pause (s.backoff.miss.delay (svc.draw s.world).1) (hsvc.draw ho)
  have hidle : (idle svc s).1 = .done .idle ∧ offers (idle svc s).2.world ⟨pulls, answers⟩ := by
    unfold idle
    dsimp only [State.note]
    rw [hpause.1]
    exact ⟨rfl, hpause.2⟩
  refine
    { journal := ⟨_, hw.journal, ?_⟩
      kept := hw.kept
      offers := hidle.2
      stopped := fun e he => by cases he
      goes := fun _ => ⟨⟨_, hidle.1, by simp⟩, ?_⟩ }
  · rw [effectsOf, accountOf_cons, accountOf_notes]
    rfl
  · rw [hw.stats]
    rfl

/-- **A step** with steady services follows the course of the batch that it pulls. -/
theorem step_course {s : State σ} {batch : List Message} {pulls : List (List Message)}
    {answers : Answers} (ho : offers s.world ⟨batch :: pulls, answers⟩) :
    StepFollows offers relay pulls (course relay s.store.isSome batch answers) s
      (step svc relay s) := by
  obtain ⟨hanswer, ho'⟩ := hsvc.pull relay.subscription relay.settings.batchSize
    relay.settings.returnImmediately ho
  unfold step
  rw [if_neg (by simp [hsvc.going ho])]
  dsimp only
  have hw := s.settle_wrote (svc.pull relay.subscription relay.settings.batchSize
    relay.settings.returnImmediately s.world) (e := .pulled relay.subscription
    relay.settings.batchSize relay.settings.returnImmediately (.answered (.ok batch))) rfl
  have hnothing : effectsOf (pullEvents relay (.answered (.ok batch)) (svc.pull relay.subscription
      relay.settings.batchSize relay.settings.returnImmediately s.world).lines) = {} := by
    rw [effectsOf, pullEvents_account]
    rfl
  rw [hanswer]
  cases batch with
  | nil => exact (idle_course hsvc relay ho').of_wrote hw hnothing
  | cons m ms => exact (process_course hsvc relay ho' (m :: ms)).of_wrote hw hnothing

/-- **A run** with steady services, one step for each pull, follows the course of all messages. -/
theorem steps_course (cut : List (List Message)) :
    ∀ {answers : Answers} {s : State σ}, offers s.world ⟨cut, answers⟩ →
      RunFollows offers relay (course relay s.store.isSome cut.flatten answers) s
        (steps svc relay cut.length s) := by
  induction cut with
  | nil =>
    intro answers s ho
    refine ⟨⟨[], by simp [steps], rfl⟩, rfl, fun _ => ⟨?_, ho⟩⟩
    rfl
  | cons batch cut ih =>
    intro answers s ho
    have hstep := step_course hsvc relay ho
    have hgoes : (course relay s.store.isSome batch answers).stop? relay s.store.isSome =
        none → _ := fun h => (course_not_stopped batch h).1
    rw [List.length_cons, List.flatten_cons, course_append]
    generalize course relay s.store.isSome batch answers = c at hstep hgoes ⊢
    cases hc : c.stop? relay s.store.isSome with
    | some e =>
      obtain ⟨h, hh, -⟩ := Option.bind_eq_some_iff.1 hc
      rw [steps_of_failed (hstep.stopped e hc), Course.andThen_of_some hh]
      exact ⟨hstep.journal, by rw [hc]; rfl, fun hnone => by cases hc.symm.trans hnone⟩
    | none =>
      obtain ⟨⟨outcome, hr, hne⟩, -⟩ := hstep.goes hc
      rw [steps_of_done hr hne]
      exact hstep.andThen (hgoes hc) hc (hstep.kept ▸ ih hstep.offers)

end

/-! ## Batch boundaries -/

/-- Two runs had the same effects and ended alike. They stopped with an error, or used up their
pulls and counted the same. -/
structure SameCourse (offers : σ → Offer → Prop) (offers' : τ → Offer → Prop)
    (out : Option RunEnd × State σ) (out' : Option RunEnd × State τ) : Prop where
  /-- The inserts, the letters written with what became of them, and the ids acknowledged. -/
  effects : effectsOf out.2.journal = effectsOf out'.2.journal
  /-- The letters that were recorded. -/
  letters : (accountOf out.2.journal).letters.map DeadLetter.undated =
    (accountOf out'.2.journal).letters.map DeadLetter.undated
  ended : out.1 = out'.1
  failed : ∀ r, out.1 = some r → ∃ e, r = .failed e
  completed : out.1 = none →
    (∃ left, offers out.2.world ⟨[], left⟩ ∧ offers' out'.2.world ⟨[], left⟩) ∧
    out.2.stats.totals = out'.2.stats.totals

/-- **Batch boundaries do not matter**, whatever pulls are empty. -/
theorem batch_boundaries_invisible {svc : Services σ} {svc' : Services τ}
    {offers : σ → Offer → Prop} {offers' : τ → Offer → Prop} (hsvc : Steady svc offers)
    (hsvc' : Steady svc' offers') {relay : Relay} {cut cut' : List (List Message)}
    {answers : Answers} {store store' : Option Store} {w : σ} {w' : τ}
    (hcut : cut.flatten = cut'.flatten) (hstore : store.isSome = store'.isSome)
    (ho : offers w ⟨cut, answers⟩) (ho' : offers' w' ⟨cut', answers⟩) :
    SameCourse offers offers' (steps svc relay cut.length (.start relay.settings store w))
      (steps svc' relay cut'.length (.start relay.settings store' w')) := by
  have h := steps_course hsvc relay cut (s := .start relay.settings store w) ho
  have h' := steps_course hsvc' relay cut' (s := .start relay.settings store' w') ho'
  obtain ⟨⟨events, hjournal, heffects⟩, hended, hcounted⟩ := h
  obtain ⟨⟨events', hjournal', heffects'⟩, hended', hcounted'⟩ := h'
  simp only [State.start, ← hcut, ← hstore] at heffects heffects' hended hended' hcounted hcounted'
  generalize course relay store.isSome cut.flatten answers = c at *
  have hsame : effectsOf (steps svc relay cut.length (.start relay.settings store w)).2.journal =
      effectsOf (steps svc' relay cut'.length (.start relay.settings store' w')).2.journal := by
    rw [hjournal, hjournal', effectsOf_append, effectsOf_append, heffects, heffects']
    rfl
  refine ⟨hsame, ?_, hended.trans hended'.symm, fun r hr => ?_, fun hnone => ?_⟩
  · rw [← Account.effects_letters, ← Account.effects_letters]
    exact congrArg Effects.letters hsame
  · obtain ⟨e, -, rfl⟩ := Option.map_eq_some_iff.1 (hended.symm.trans hr)
    exact ⟨e, rfl⟩
  · have hstop := Option.map_eq_none_iff.1 (hended.symm.trans hnone)
    obtain ⟨htotals, hleft⟩ := hcounted hstop
    obtain ⟨htotals', hleft'⟩ := hcounted' hstop
    exact ⟨⟨_, hleft, hleft'⟩, htotals.trans htotals'.symm⟩

/-- A reply that comes at once. -/
def Planned.prompt {α : Type} (answer : α) : Planned α :=
  { answer }

/-- A script of replies that come at once offers its pulls, the answers of its inserts, and what it
makes of letters. -/
structure Script.Offers (s : Script) (o : Offer) : Prop where
  going : s.cancelAt = none
  pulls : s.pulls = o.pulls.map fun batch => .prompt (.ok batch)
  inserts : ∀ i : Nat, s.inserts[i]?.getD (.prompt (.ok ())) = .prompt (o.answers.inserts i)
  writes : ∀ i : Nat, s.records[i]?.getD none = o.answers.writes i
  acks : s.acks = []

theorem Script.steady : Steady Script.services Script.Offers where
  going h := by simp [services, cancelled, h.going]
  pull subscription most immediately h := by
    obtain ⟨hgoing, hpulls, hinserts, hwrites, hacks⟩ := h
    simp only [services, hpulls, List.map_cons]
    exact ⟨rfl, hgoing, rfl, hinserts, hwrites, hacks⟩
  insert {w pulls answers} table row key retries h := by
    obtain ⟨hgoing, hpulls, hinserts, hwrites, hacks⟩ := h
    have hrest := fun i => hinserts (i + 1)
    obtain ⟨ps, _ | ⟨x, xs⟩, as, rs, clock, cancelAt, keys, jitter, epoch⟩ := w
    · have hanswer : .ok () = answers.inserts 0 := congrArg Planned.answer (hinserts 0)
      exact ⟨congrArg Awaited.answered hanswer, hgoing, hpulls, hrest, hwrites, hacks⟩
    · obtain rfl : x = .prompt (answers.inserts 0) := hinserts 0
      exact ⟨rfl, hgoing, hpulls, hrest, hwrites, hacks⟩
  acknowledge subscription ids h := by
    obtain ⟨hgoing, hpulls, hinserts, hwrites, hacks⟩ := h
    simp only [services, hacks]
    exact ⟨rfl, hgoing, hpulls, hinserts, hwrites, hacks⟩
  pause {w o} delay h := by
    have hnever : (w.wait delay).cancelled = false := by simp [wait, cancelled, h.going]
    simp only [services, race, Bool.false_eq_true, if_false, hnever]
    split
    · exact ⟨rfl, h⟩
    · exact ⟨rfl, h.going, h.pulls, h.inserts, h.writes, h.acks⟩
  record {w pulls answers} letter h := by
    obtain ⟨hgoing, hpulls, hinserts, hwrites, hacks⟩ := h
    have hrest := fun i => hwrites (i + 1)
    obtain ⟨ps, is, as, _ | ⟨x, xs⟩, clock, cancelAt, keys, jitter, epoch⟩ := w
    · exact ⟨hwrites 0, hgoing, hpulls, hinserts, hrest, hacks⟩
    · exact ⟨hwrites 0, hgoing, hpulls, hinserts, hrest, hacks⟩
  newKey h := ⟨h.going, h.pulls, h.inserts, h.writes, h.acks⟩
  draw h := h

/-- Two messages that are given up make no difference whether they are pulled together or not. The
disk fails at the second one, and what was handled before it is acknowledged. -/
theorem batch_boundaries_invisible_of_three :
    let batch : List Message :=
      [⟨"a1", "m1", "e30=", none, []⟩, ⟨"a2", "m2", "e30=", none, []⟩, ⟨"a3", "m3", "", none, []⟩]
    let cut := [batch]
    let cut' := [batch.take 1, [], batch.drop 1]
    let inserts : List (Planned (Except InsertError Unit)) :=
      [.prompt (.ok ()), .prompt (.error (.rejected ""))]
    let records := [none, some (.flushing "disk full")]
    let w : Script := { pulls := cut.map fun batch => .prompt (.ok batch), inserts, records }
    let w' : Script := { pulls := cut'.map fun batch => .prompt (.ok batch), inserts, records }
    let relay := sampleRelay { failurePolicy := .deadLetter }
    let out := steps Script.services relay cut.length (.start relay.settings (some (.create {})) w)
    let out' :=
      steps Script.services relay cut'.length (.start relay.settings (some (.create {})) w')
    cut.flatten = cut'.flatten ∧ (effectsOf out.2.journal).ackIds = ["a1", "a2"] ∧
    out.1 = some (.failed (.store (.database "disk full"))) ∧
    SameCourse Script.Offers Script.Offers out out' := by
  intro batch cut cut' inserts records w w' relay out out'
  let answers : Answers :=
    ⟨fun i => (inserts[i]?.getD (.prompt (.ok ()))).answer, fun i => records[i]?.getD none⟩
  have hoffers : ∀ i : Nat, inserts[i]?.getD (.prompt (.ok ())) = .prompt (answers.inserts i)
    | 0 | 1 | i + 2 => rfl
  have hw : w.Offers ⟨cut, answers⟩ := ⟨rfl, rfl, hoffers, fun _ => rfl, rfl⟩
  have hw' : w'.Offers ⟨cut', answers⟩ := ⟨rfl, rfl, hoffers, fun _ => rfl, rfl⟩
  exact ⟨rfl, rfl, rfl, batch_boundaries_invisible Script.steady Script.steady rfl rfl hw hw'⟩

end RowRelay.Relay
