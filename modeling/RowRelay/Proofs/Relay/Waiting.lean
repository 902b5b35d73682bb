import RowRelay.Proofs.Backoff
import RowRelay.Proofs.Relay.Tale

/-!
# How long a relay waits for messages

`Stepped svc relay store k s`: the relay came to the state `s` in some steps, whatever their ends,
and the last `k` pulls brought nothing; a pull that brought messages begins the count anew, whatever
became of them. The count is the one that the backoff keeps (`Stepped.backoff`).

`empty_pulls_wait`: behind a pull that brings nothing the relay waits once, between half of what its
doubling policy comes to for the count and the whole of it, and does nothing else.
-/

set_option autoImplicit false

namespace RowRelay.Relay

open PubSub (Message QueueError)

variable {σ : Type}

/-! ## Counting the pulls that brought nothing -/

section
variable (svc : Services σ) (relay : Relay)

/-- The pull of a step from the state is answered so. -/
def Pulls (s : State σ) (answer : Awaited (Except QueueError (List Message))) : Prop :=
  svc.cancelled s.world = false ∧ (pullReply svc relay s.world).answer = answer

/-- The relay after some steps, whatever their ends; the last so many pulls brought nothing. Between
two steps the world may change by itself. -/
inductive Stepped (store : Option Store) : Nat → State σ → Prop
  | start (world : σ) : Stepped store 0 (.start relay.settings store world)
  | begun {k : Nat} {s : State σ} : Stepped store k s →
      Stepped store k (s.note (.started relay.subscription relay.table relay.settings.batchSize))
  | elsewhere {k : Nat} {s : State σ} (world : σ) :
      Stepped store k s → Stepped store k { s with world }
  | empty {k : Nat} {s : State σ} : Stepped store k s →
      Pulls svc relay s (.answered (.ok [])) → Stepped store (k + 1) (step svc relay s).2
  | batch {k : Nat} {s : State σ} {batch : List Message} : Stepped store k s →
      Pulls svc relay s (.answered (.ok batch)) → batch ≠ [] →
      Stepped store 0 (step svc relay s).2
  | nothing {k : Nat} {s : State σ} : Stepped store k s →
      (∀ batch, ¬ Pulls svc relay s (.answered (.ok batch))) →
      Stepped store k (step svc relay s).2

end

/-- The backoff of a relay behind so many empty pulls. -/
def missedPulls (settings : RelaySettings) (k : Nat) : Backoff :=
  .missed (.doubling (.ofMillis settings.emptyBackoffInitialMs.toNat)
    (.ofMillis settings.emptyBackoffMaxMs.toNat)) k

section
variable {svc : Services σ} {relay : Relay} {store : Option Store} {s : State σ} {k : Nat}

theorem Stepped.step (h : Stepped svc relay store k s) :
    ∃ k', Stepped svc relay store k' (step svc relay s).2 := by
  by_cases hpulls : ∃ batch, Pulls svc relay s (.answered (.ok batch))
  · obtain ⟨batch, hbatch⟩ := hpulls
    by_cases hempty : batch = []
    · subst hempty
      exact ⟨k + 1, .empty h hbatch⟩
    · exact ⟨0, .batch h hbatch hempty⟩
  · exact ⟨k, .nothing h (not_exists.1 hpulls)⟩

theorem acknowledge_backoff (svc : Services σ) (relay : Relay) (ids : List String)
    (s : State σ) : (acknowledge svc relay ids s).2.backoff = s.backoff := by
  obtain ⟨acked, -, hw⟩ := acknowledge_wrote svc relay ids s
  exact hw.backoff

theorem breakOff_backoff (svc : Services σ) (relay : Relay) (e : RelayError) (p : Progress)
    (s : State σ) : (breakOff svc relay e p s).2.backoff = s.backoff := by
  rw [← acknowledge_backoff svc relay p.ackIds s]
  unfold breakOff
  generalize acknowledge svc relay p.ackIds s = acked
  obtain ⟨_ | outcome, s'⟩ := acked
  · rfl
  · exact (flush_wrote p.ackIds outcome s').backoff

theorem finish_backoff (svc : Services σ) (relay : Relay) (received : Nat) (p : Progress)
    (s : State σ) : (finish svc relay received p s).2.backoff = s.backoff := by
  rw [← acknowledge_backoff svc relay p.ackIds s]
  unfold finish
  generalize acknowledge svc relay p.ackIds s = acked
  obtain ⟨_ | (cause | ⟨⟨⟩⟩), s'⟩ := acked <;> rfl

/-- Messages reset the backoff, whatever becomes of them. -/
theorem process_backoff (svc : Services σ) (relay : Relay) (batch : List Message) (s : State σ) :
    (process svc relay batch s).2.backoff = s.backoff.reset := by
  obtain ⟨done, rest, es, last, -, hw, -⟩ := deliverAll_wrote svc relay batch.length batch 0 {}
    { s with backoff := s.backoff.reset }
  unfold process
  generalize deliverAll svc relay batch.length 0 batch {} _ = out at hw ⊢
  obtain ⟨loopEnd, s₁⟩ := out
  have hreset : s₁.backoff = s.backoff.reset := hw.backoff
  cases loopEnd with
  | cancelled => exact hreset
  | broken e p => exact (breakOff_backoff svc relay e p s₁).trans hreset
  | delivered p => exact (finish_backoff svc relay batch.length p s₁).trans hreset

theorem idle_backoff (svc : Services σ) (s : State σ) :
    (idle svc s).2.backoff = s.backoff.miss := by
  obtain ⟨outcome, count, delay, lines, -, -, hw⟩ := idle_wrote svc s
  exact hw.backoff

/-- **The backoff keeps the count.** -/
theorem Stepped.backoff (h : Stepped svc relay store k s) :
    s.backoff = missedPulls relay.settings k := by
  induction h with
  | start world => rfl
  | begun _ ih => exact ih
  | elsewhere world _ ih => exact ih
  | @empty k s _ hpulls ih =>
    rw [step_pulled hpulls.1, hpulls.2]
    refine (idle_backoff svc _).trans ?_
    change s.backoff.miss = _
    rw [ih]
    exact Backoff.missed_miss ..
  | @batch k s batch _ hpulls hne ih =>
    rw [step_eq_process hpulls.1 hne hpulls.2]
    refine (process_backoff svc relay batch _).trans ?_
    change s.backoff.reset = _
    rw [ih]
    exact Backoff.missed_reset ..
  | @nothing k s _ hnothing ih =>
    rw [← ih]
    by_cases hseen : svc.cancelled s.world = true
    · rw [Relay.step, if_pos hseen]
    · have hgoing : svc.cancelled s.world = false := by simpa using hseen
      rw [step_pulled hgoing]
      cases hanswer : (pullReply svc relay s.world).answer with
      | abandoned => rfl
      | answered answer =>
        cases answer with
        | error e => rfl
        | ok batch => exact absurd ⟨hgoing, hanswer⟩ (hnothing batch)

/-! ## The wait -/

variable (svc relay s) in
/-- The step pulled nothing, waited once and so long, and made no other call. -/
structure WaitedFor (count : Nat) (delay : Duration) (waited : Reply σ (Awaited Unit)) :
    Prop where
  asked : waited = svc.pause delay (svc.draw (pullReply svc relay s.world).world).2
  ended : (step svc relay s).1 = match waited.answer with
    | .answered () => .done .idle
    | .abandoned => .done .cancelled
  world : (step svc relay s).2.world = waited.world
  events : stepEvents svc relay s =
    pullEvents relay (.answered (.ok [])) (pullReply svc relay s.world).lines ++
      .idled count delay :: notes waited.lines
  account : accountOf (stepEvents svc relay s) = { batches := [[]] }

theorem idle_journal (svc : Services σ) (s : State σ) :
    (idle svc s).2.journal = s.journal ++
      .idled s.backoff.miss.consecutive (s.backoff.miss.delay (svc.draw s.world).1) ::
        notes (waitReply svc s.backoff.miss s.world).lines := by
  unfold idle waitReply
  dsimp only [State.note]
  rw [← List.append_cons]
  cases (svc.pause (s.backoff.miss.delay (svc.draw s.world).1) (svc.draw s.world).2).answer <;> rfl

theorem waitedFor_of_pulls (h : Pulls svc relay s (.answered (.ok []))) :
    WaitedFor svc relay s s.backoff.miss.consecutive
      (s.backoff.miss.delay (svc.draw (pullReply svc relay s.world).world).1)
      (waitReply svc s.backoff.miss (pullReply svc relay s.world).world) := by
  have hstep : step svc relay s = idle svc (pulledState svc relay s) := by
    rw [step_pulled h.1, h.2]
  have hw := pulledState_wrote svc relay s
  rw [h.2] at hw
  have hjournal := idle_journal svc (pulledState svc relay s)
  rw [← hstep, hw.journal, List.append_assoc] at hjournal
  have hevents := stepEvents_of_journal hjournal
  obtain ⟨hended, hworld⟩ := idle_waited svc (pulledState svc relay s) relay.settings.ackPolicy
  refine ⟨rfl, ?_, ?_, hevents, ?_⟩
  · rw [hstep, hended]
    change Tale.stepEnd _ ⟨[], [], .ofWait
      (waitReply svc s.backoff.miss (pullReply svc relay s.world).world).answer⟩ = _
    cases (waitReply svc s.backoff.miss (pullReply svc relay s.world).world).answer <;> rfl
  · rw [hstep, hworld]
    rfl
  · rw [hevents, accountOf_append, pullEvents_account, accountOf_cons, accountOf_notes]
    rfl

end

/-! ## The schedule -/

/-- The nanoseconds of a wait behind so many empty pulls in a row, before jitter: twice as many with
every further one, up to a greatest wait. -/
def waitNanos (settings : RelaySettings) (k : Nat) : Nat :=
  min (settings.emptyBackoffInitialMs.toNat * 1000000 * 2 ^ (k - 1))
    (settings.emptyBackoffMaxMs.toNat * 1000000)

/-- How a relay waits that came to a state behind so many empty pulls. -/
structure WaitsDoubling (svc : Services σ) (relay : Relay) (store : Option Store) (k : Nat)
    (s : State σ) : Prop where
  /-- The step is counted, whatever it does. -/
  counted : ∃ k', Stepped svc relay store k' (step svc relay s).2
  /-- Messages begin the count anew, also when their batch was stopped or failed. -/
  restarts : ∀ batch, batch ≠ [] → Pulls svc relay s (.answered (.ok batch)) →
    Stepped svc relay store 0 (step svc relay s).2
  waits : Pulls svc relay s (.answered (.ok [])) → ∃ count delay waited,
    WaitedFor svc relay s count delay waited ∧
      waitNanos relay.settings (k + 1) / 2 ≤ delay.nanos ∧
      delay.nanos ≤ waitNanos relay.settings (k + 1)
  grows : Monotone (waitNanos relay.settings)
  capped : ∀ j, waitNanos relay.settings j ≤ relay.settings.emptyBackoffMaxMs.toNat * 1000000

/-- **Empty pulls are waited for** by the schedule, over runs of any length. -/
theorem empty_pulls_wait {svc : Services σ} {relay : Relay} {store : Option Store} {k : Nat}
    {s : State σ}
    (hinitial : relay.settings.emptyBackoffInitialMs ≤ relay.settings.emptyBackoffMaxMs)
    (hmax : relay.settings.emptyBackoffMaxMs.toNat * 1000000 ≤ 2 ^ 53)
    (h : Stepped svc relay store k s) : WaitsDoubling svc relay store k s where
  counted := h.step
  restarts _ hne hpulls := .batch h hpulls hne
  waits hpulls := by
    have hmiss : s.backoff.miss = missedPulls relay.settings (k + 1) := by
      rw [h.backoff]
      exact Backoff.missed_miss ..
    have hwaited := waitedFor_of_pulls hpulls
    rw [hmiss] at hwaited
    have hbase : (Duration.ofMillis relay.settings.emptyBackoffInitialMs.toNat).nanos ≤
        (Duration.ofMillis relay.settings.emptyBackoffMaxMs.toNat).nanos :=
      Nat.mul_le_mul_right _ hinitial
    obtain ⟨hlow, hhigh⟩ := Backoff.delay_missed hbase hmax (k + 1)
      (svc.draw (pullReply svc relay s.world).world).1
    exact ⟨_, _, _, hwaited, hlow, hhigh⟩
  grows := RetryPolicy.doubled_mono (.ofMillis relay.settings.emptyBackoffInitialMs.toNat)
    (.ofMillis relay.settings.emptyBackoffMaxMs.toNat)
  capped j := min_le_right _ _

/-- A script of one pull, which brings nothing. -/
def samplePause : Script :=
  { pulls := [{ answer := .ok [] }] }

/-- When the script is gone through twice, the second wait takes between a quarter of a second and
half of one. -/
theorem empty_pulls_wait_twice :
    let relay := sampleRelay {}
    let s : State Script :=
      { (step Script.services relay (.start relay.settings none samplePause)).2 with
        world := samplePause }
    ∃ count delay waited, WaitedFor Script.services relay s count delay waited ∧
      250000000 ≤ delay.nanos ∧ delay.nanos ≤ 500000000 := by
  intro relay s
  have hpulls : ∀ {s : State Script}, s.world = samplePause →
      Pulls Script.services relay s (.answered (.ok [])) := by
    intro s hworld
    rw [Pulls, hworld]
    exact ⟨rfl, rfl⟩
  have hstepped : Stepped Script.services relay none 1 s :=
    .elsewhere samplePause (.empty (.start samplePause) (hpulls rfl))
  obtain ⟨count, delay, waited, hwaited, hlow, hhigh⟩ :=
    (empty_pulls_wait (by decide) (by decide) hstepped).waits (hpulls rfl)
  have hnanos : waitNanos relay.settings 2 = 500000000 := by decide
  rw [hnanos] at hlow hhigh
  exact ⟨count, delay, waited, hwaited, hlow, hhigh⟩

end RowRelay.Relay
