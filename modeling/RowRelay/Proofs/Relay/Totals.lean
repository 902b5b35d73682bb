import RowRelay.Proofs.Relay.Counts
import RowRelay.Proofs.Relay.Steady
import RowRelay.Proofs.Relay.Stopping

/-!
# What the totals of a run account for

A run that stops on request went on step by step (`Went`) to a last step that was cancelled. The
totals are counted at two moments, an empty pull before the wait and everything else behind the
acknowledgement; `Totals` says what they come to in the calls that the journal tells of. It holds of
a relay that has done nothing, and is kept by a step that goes on (`Totals.next`) and by the last
one (`Totals.stopped`).

`run_totals`: so it holds of every run that stops on request. No step that stops or fails counts
more than an empty pull.
-/

set_option autoImplicit false

namespace RowRelay.Relay

open BigQuery (InsertError)
open PubSub (Message QueueError)

variable {σ : Type}

/-! ## Counting calls -/

namespace Account

/-- How many inserts succeeded. -/
def insertsDone (a : Account) : Nat :=
  a.insertAnswers.countP fun
    | .answered (.ok ()) => true
    | _ => false

/-- How many ids all calls together acknowledged. -/
def idsSent (a : Account) : Nat :=
  a.ackCalls.flatten.length

/-- How many pulls brought nothing. -/
def emptyPulls (a : Account) : Nat :=
  a.batches.countP List.isEmpty

variable (a b : Account)

@[simp] theorem insertsDone_append : (a ++ b).insertsDone = a.insertsDone + b.insertsDone := by
  simp [insertsDone]

@[simp] theorem idsSent_append : (a ++ b).idsSent = a.idsSent + b.idsSent := by
  simp [idsSent]

@[simp] theorem emptyPulls_append : (a ++ b).emptyPulls = a.emptyPulls + b.emptyPulls := by
  simp [emptyPulls]

end Account

/-! ## Steps that went on -/

/-- A step: what it came to, and what it wrote. -/
structure Leg where
  outcome : Outcome
  events : List Event

namespace Leg

def isProcessed (leg : Leg) : Bool :=
  match leg.outcome with
  | .processed _ => true
  | _ => false

/-- The messages that were pulled. -/
def pulled (leg : Leg) : List Message :=
  (accountOf leg.events).batches.flatten

end Leg

/-- The relay went on step by step from one state to another. -/
inductive Went (svc : Services σ) (relay : Relay) (start : State σ) : List Leg → State σ → Prop
  | here : Went svc relay start [] start
  | next {legs : List Leg} {s : State σ} {outcome : Outcome} :
      Went svc relay start legs s →
      (step svc relay s).1 = .done outcome → outcome ≠ .cancelled →
      Went svc relay start (legs ++ [⟨outcome, stepEvents svc relay s⟩]) (step svc relay s).2

/-- What a step that went on called and counted. -/
structure Counted (relay : Relay) (stats : Stats) (leg : Leg) (stats' : Stats) : Prop where
  pull : ∃ batch, (accountOf leg.events).batches = [batch] ∧
    (leg.isProcessed = true ↔ batch ≠ [])
  batches : stats'.batches = stats.batches + if leg.isProcessed then 1 else 0
  received : stats'.received = stats.received + leg.pulled.length
  split : stats'.inserted + stats'.failed = stats.inserted + stats.failed + leg.pulled.length
  acknowledged : stats'.acknowledged = stats.acknowledged + (accountOf leg.events).idsSent
  idsSent_le : (accountOf leg.events).idsSent ≤ leg.pulled.length
  idsSent_eq : relay.settings.ackPolicy = .afterAttempt →
    (accountOf leg.events).idsSent = leg.pulled.length
  inserted : stats'.inserted = stats.inserted + (accountOf leg.events).insertsDone
  emptyPulls : stats'.emptyPulls = stats.emptyPulls + (accountOf leg.events).emptyPulls

section
variable {relay : Relay} {kept : Bool} {done : List Handling}

theorem accountAll_insertsDone (relay : Relay) (kept : Bool) (done : List Handling) :
    (accountAll relay kept done).insertsDone = done.countP (·.attempt.isInserted) := by
  rw [Account.insertsDone, accountAll_insertAnswers, List.countP_map, countP_isInserted]
  refine congrArg (List.countP · _) (funext fun answer => ?_)
  rcases answer with cause | ⟨⟨⟩⟩ <;> rfl

theorem Acked.idsSent {ids : List String} {answer : Option (Except QueueError Unit)}
    {acked : List Event} (h : Acked relay ids answer acked) :
    (accountOf acked).idsSent = ids.length := by
  rw [h.account, Account.idsSent]
  split
  · next hnil => simp [hnil]
  · simp

theorem counted_idle {events : List Event} (h : accountOf events = { batches := [[]] })
    (stats : Stats) :
    Counted relay stats ⟨.idle, events⟩ { stats with emptyPulls := stats.emptyPulls + 1 } where
  pull := ⟨[], by rw [h], by simp [Leg.isProcessed]⟩
  batches := rfl
  received := by simp [Leg.pulled, h]
  split := by simp [Leg.pulled, h]
  acknowledged := by rw [h]; rfl
  idsSent_le := by simp [h, Account.idsSent]
  idsSent_eq _ := by simp [Leg.pulled, h, Account.idsSent]
  inserted := by rw [h]; rfl
  emptyPulls := by rw [h]; rfl

theorem counted_processed {events acked : List Event} (hne : done ≠ [])
    (hacked : Acked relay (admittedIds relay.settings.ackPolicy done) (some (.ok ())) acked)
    (h : accountOf events =
      { batches := [done.map (·.message)] } ++ accountAll relay kept done ++ accountOf acked)
    (stats : Stats) :
    Counted relay stats ⟨.processed (reportOf relay done), events⟩
      (stats.absorb (reportOf relay done)) := by
  have hpulled : (accountOf events).batches = [done.map (·.message)] := by
    rw [h, hacked.account]
    rfl
  have hlength : (Leg.pulled ⟨.processed (reportOf relay done), events⟩).length = done.length := by
    simp [Leg.pulled, hpulled]
  have hids : (accountOf events).idsSent = (admittedIds relay.settings.ackPolicy done).length := by
    rw [h, Account.idsSent_append, hacked.idsSent, Account.idsSent_append]
    simp [Account.idsSent, accountAll]
  have hinserts : (accountOf events).insertsDone = done.countP (·.attempt.isInserted) := by
    rw [h, Account.insertsDone_append, Account.insertsDone_append, accountAll_insertsDone,
      hacked.account]
    simp [Account.insertsDone]
  have hcount := done.length_eq_countP_add_countP (·.attempt.isInserted)
  refine
    { pull := ⟨_, hpulled, by simpa [Leg.isProcessed] using hne⟩
      batches := rfl
      received := by rw [hlength]; rfl
      split := ?_
      acknowledged := by rw [hids]; rfl
      idsSent_le := ?_
      idsSent_eq := fun hpolicy => ?_
      inserted := by rw [hinserts]; rfl
      emptyPulls := ?_ }
  · rw [hlength]
    simp only [Stats.absorb, reportOf]
    simp only [Bool.not_eq_true, Bool.decide_eq_false] at hcount
    omega
  · rw [hids, hlength, admittedIds, List.length_map]
    exact List.length_filter_le _ _
  · rw [hids, hlength, hpolicy]
    simp [admittedIds, Attempt.isAdmitted]
  · simp [Stats.absorb, Account.emptyPulls, hpulled, hne]

/-- **What a step counts that goes on**, it did. -/
theorem Round.counted {stats stats' : Stats} {outcome : Outcome} {events : List Event}
    (h : Round relay kept stats (.done outcome) events stats') (hne : outcome ≠ .cancelled) :
    Counted relay stats ⟨outcome, events⟩ stats' := by
  cases h with
  | stopped => exact absurd rfl hne
  | pullGivenUp lines => exact absurd rfl hne
  | cut lines hh hend => exact absurd rfl hne
  | idle count delay lines lines' ho =>
    obtain rfl := ho.resolve_right hne
    refine counted_idle ?_ stats
    rw [accountOf_append, pullEvents_account, accountOf_cons, accountOf_notes]
    rfl
  | @processed batch done events acked lines hb hh hacked =>
    have hbatch : batch = done.map (·.message) := by simpa using hh.batch_eq
    subst hbatch
    exact counted_processed (by simpa using hb) hacked (processed_account lines hh _ _) stats

end

/-! ## Totals -/

/-- What the totals of a relay account for that went on step by step, and whose last step, if it was
a cancelled one, wrote the last events. -/
structure Totals (relay : Relay) (legs : List Leg) (last journal : List Event) (stats : Stats) :
    Prop where
  calls : accountOf journal = accountOf (legs.flatMap Leg.events ++ last)
  /-- Every step that went on pulled once, and processed what it pulled unless it was nothing. -/
  pulls : ∀ leg ∈ legs, ∃ batch, (accountOf leg.events).batches = [batch] ∧
    (leg.isProcessed = true ↔ batch ≠ [])
  split : stats.received = stats.inserted + stats.failed
  batches : stats.batches = (legs.filter Leg.isProcessed).length
  received : stats.received = ((legs.filter Leg.isProcessed).flatMap Leg.pulled).length
  acknowledged : stats.acknowledged = (accountOf journal).idsSent
  acknowledged_le : stats.acknowledged ≤ stats.received
  acknowledged_eq : relay.settings.ackPolicy = .afterAttempt → stats.acknowledged = stats.received
  /-- Only inserts of the last batch are left out, if it was cancelled. -/
  inserted : (accountOf journal).insertsDone = stats.inserted + (accountOf last).insertsDone
  emptyPulls : stats.emptyPulls = (accountOf journal).emptyPulls

section
variable {relay : Relay} {legs : List Leg} {leg : Leg} {journal : List Event} {stats stats' : Stats}

theorem totals_nothing (h : accountOf journal = {}) : Totals relay [] [] journal {} where
  calls := h
  pulls := by simp
  split := rfl
  batches := rfl
  received := rfl
  acknowledged := by rw [h]; rfl
  acknowledged_le := Nat.le_refl _
  acknowledged_eq _ := rfl
  inserted := by rw [h]; rfl
  emptyPulls := by rw [h]; rfl

theorem Counted.pulled_filter (h : Counted relay stats leg stats') :
    (([leg].filter Leg.isProcessed).flatMap Leg.pulled).length = leg.pulled.length := by
  obtain ⟨batch, hbatches, hiff⟩ := h.pull
  by_cases hprocessed : leg.isProcessed = true
  · simp [hprocessed]
  · have hbatch : batch = [] := by simpa using mt hiff.2 hprocessed
    simp [hprocessed, Leg.pulled, hbatches, hbatch]

/-- **A step that goes on keeps the totals.** -/
theorem Totals.next (h : Totals relay legs [] journal stats)
    (hc : Counted relay stats leg stats') :
    Totals relay (legs ++ [leg]) [] (journal ++ leg.events) stats' where
  calls := by simp [accountOf_append, h.calls]
  pulls leg' hleg := by
    rcases List.mem_append.1 hleg with hleg | hleg
    · exact h.pulls leg' hleg
    · obtain rfl := List.mem_singleton.1 hleg
      exact hc.pull
  split := by rw [hc.received, hc.split, h.split]
  batches := by
    rw [hc.batches, h.batches, List.filter_append, List.length_append]
    by_cases hprocessed : leg.isProcessed = true <;> simp [hprocessed]
  received := by
    rw [hc.received, h.received, List.filter_append, List.flatMap_append, List.length_append,
      hc.pulled_filter]
  acknowledged := by
    rw [hc.acknowledged, h.acknowledged, accountOf_append, Account.idsSent_append]
  acknowledged_le := by
    rw [hc.acknowledged, hc.received]
    exact Nat.add_le_add h.acknowledged_le hc.idsSent_le
  acknowledged_eq hpolicy := by
    rw [hc.acknowledged, hc.received, h.acknowledged_eq hpolicy, hc.idsSent_eq hpolicy]
  inserted := by
    rw [hc.inserted, accountOf_append, Account.insertsDone_append, h.inserted]
    exact Nat.add_right_comm ..
  emptyPulls := by
    rw [hc.emptyPulls, h.emptyPulls, accountOf_append, Account.emptyPulls_append]

/-- A step that stops counts an empty pull, if it was one. -/
theorem Round.emptyPulls {kept : Bool} {events : List Event}
    (h : Round relay kept stats (.done .cancelled) events stats') :
    stats'.emptyPulls = stats.emptyPulls + (accountOf events).emptyPulls := by
  obtain ⟨⟨batch?, hbatches⟩, hstats⟩ := h.countsByPull
  rw [hstats, Account.emptyPulls, hbatches]
  simp only [Stats.after]
  cases batch? with
  | none => rfl
  | some batch => cases batch <;> rfl

/-- **A step that stops keeps the totals**, but for the inserts of its batch. -/
theorem Totals.stopped (h : Totals relay legs [] journal stats) {kept : Bool}
    {events : List Event} (hr : Round relay kept stats (.done .cancelled) events stats') :
    Totals relay legs events (journal ++ events ++ [.stopped stats']) stats' := by
  obtain ⟨hacks, hstats, -⟩ := hr.cancelled
  have hempty := hr.emptyPulls
  have hjournal : ∀ counted, accountOf (journal ++ events ++ [.stopped counted]) =
      accountOf journal ++ accountOf events := by
    intro counted
    rw [accountOf_append, accountOf_append]
    exact Account.append_empty _
  have hids : (accountOf events).idsSent = 0 := by
    rw [Account.idsSent, hacks]
    rfl
  rw [hstats]
  refine
    { calls := ?_
      pulls := h.pulls
      split := h.split
      batches := h.batches
      received := h.received
      acknowledged := ?_
      acknowledged_le := h.acknowledged_le
      acknowledged_eq := h.acknowledged_eq
      inserted := ?_
      emptyPulls := ?_ }
  · rw [hjournal, h.calls]
    simp [accountOf_append]
  · rw [hjournal, Account.idsSent_append, hids]
    exact h.acknowledged
  · rw [hjournal, Account.insertsDone_append, h.inserted]
    rfl
  · rw [hjournal, Account.emptyPulls_append, ← h.emptyPulls]
    exact hempty

end

/-! ## Runs -/

section
variable {svc : Services σ} {relay : Relay} {start s : State σ} {legs : List Leg}

theorem Went.totals (h : Went svc relay start legs s) (hstats : start.stats = {})
    (hjournal : accountOf start.journal = {}) : Totals relay legs [] s.journal s.stats := by
  induction h with
  | here =>
    rw [hstats]
    exact totals_nothing hjournal
  | @next legs s outcome _ hend hne ih =>
    have hround := step_round svc relay s
    have hr := hround.round
    rw [hend] at hr
    rw [hround.journal]
    exact ih.next (hr.counted hne)

/-- A run that stops on request went on to a step that was cancelled. -/
theorem steps_went (n : Nat) : ∀ {legs : List Leg} {s s' : State σ} {stats : Stats},
    Went svc relay start legs s → steps svc relay n s = (some (.stopped stats), s') →
    ∃ legs' s₁, Went svc relay start legs' s₁ ∧ (step svc relay s₁).1 = .done .cancelled ∧
      stats = (step svc relay s₁).2.stats ∧ s' = (step svc relay s₁).2.note (.stopped stats) := by
  induction n with
  | zero =>
    intro legs s s' stats _ h
    simp [steps] at h
  | succ n ih =>
    intro legs s s' stats hwent h
    cases hend : (step svc relay s).1 with
    | done outcome =>
      by_cases hne : outcome = .cancelled
      · subst hne
        rw [steps_eq, hend] at h
        cases h
        exact ⟨legs, s, hwent, hend, rfl, rfl⟩
      · rw [steps_of_done hend hne] at h
        exact ih (hwent.next hend hne) h
    | failed e =>
      rw [steps_of_failed hend] at h
      cases h
    | unanswered =>
      rw [steps_eq, hend] at h
      cases h

/-- A step that stops or fails counts nothing but an empty pull. -/
theorem step_stats_kept
    (h : (step svc relay s).1 = .done .cancelled ∨ ∃ e, (step svc relay s).1 = .failed e) :
    (step svc relay s).2.stats =
      { s.stats with emptyPulls := (step svc relay s).2.stats.emptyPulls } := by
  rw [(step_round svc relay s).round.countsByPull.stats]
  rcases h with h | ⟨e, h⟩ <;>
  · rw [h]
    simp only [Stats.after]
    split <;> rfl

end

/-- The state in which a run begins. -/
def started (relay : Relay) (store : Option Store) (world : σ) : State σ :=
  (State.start relay.settings store world).note
    (.started relay.subscription relay.table relay.settings.batchSize)

/-- **The totals of a run account for every call.** -/
theorem run_totals {svc : Services σ} {relay : Relay} {store : Option Store} {world : σ} {n : Nat}
    {stats : Stats} {s' : State σ}
    (h : run svc relay n (.start relay.settings store world) = (some (.stopped stats), s')) :
    (∃ legs s, Went svc relay (started relay store world) legs s ∧
      (step svc relay s).1 = .done .cancelled ∧
      Totals relay legs (stepEvents svc relay s) s'.journal stats) ∧
    ∀ s, ((step svc relay s).1 = .done .cancelled ∨ ∃ e, (step svc relay s).1 = .failed e) →
      (step svc relay s).2.stats =
        { s.stats with emptyPulls := (step svc relay s).2.stats.emptyPulls } := by
  refine ⟨?_, fun s => step_stats_kept⟩
  obtain ⟨legs, s, hwent, hend, rfl, rfl⟩ := steps_went n .here h
  have hround := step_round svc relay s
  have hr := hround.round
  rw [hend] at hr
  refine ⟨legs, s, hwent, hend, ?_⟩
  change Totals relay legs _ ((step svc relay s).2.journal ++ _) _
  rw [hround.journal]
  exact (hwent.totals rfl rfl).stopped hr

/-- A script of two pulls, which bring the pair; the request to stop comes with the second
insert. -/
def sampleRun : Script where
  pulls := [{ answer := .ok samplePair }, { answer := .ok samplePair }]
  inserts := [{ answer := .ok () }, { answer := .ok (), cancels := true }]

/-- Of two rows that were inserted the one of the cancelled batch is left out. A step at whose
letter the disk fails counts nothing. -/
theorem run_totals_of_pairs :
    let relay := sampleRelay { failurePolicy := .deadLetter }
    let store := some (Store.create {})
    let out := run Script.services relay 2 (.start relay.settings store sampleRun)
    let failing : State Script := .start relay.settings store
      { pulls := [{ answer := .ok samplePair }], records := [some (.flushing "disk full")] }
    (out.1 = some (.stopped ⟨1, 0, 2, 1, 1, 2⟩) ∧ (accountOf out.2.journal).insertsDone = 2 ∧
      ∃ legs s, Went Script.services relay (started relay store sampleRun) legs s ∧
        (step Script.services relay s).1 = .done .cancelled ∧
        Totals relay legs (stepEvents Script.services relay s) out.2.journal
          ⟨1, 0, 2, 1, 1, 2⟩) ∧
    (step Script.services relay failing).1 = .failed (.store (.database "disk full")) ∧
    (step Script.services relay failing).2.stats = {} := by
  intro relay store out failing
  have hend : out.1 = some (.stopped ⟨1, 0, 2, 1, 1, 2⟩) := rfl
  have hfailed : (step Script.services relay failing).1 =
      .failed (.store (.database "disk full")) := rfl
  obtain ⟨hwent, hkept⟩ := run_totals (Prod.ext hend rfl)
  exact ⟨⟨hend, by decide +kernel, hwent⟩, hfailed, hkept failing (.inr ⟨_, hfailed⟩)⟩

end RowRelay.Relay
