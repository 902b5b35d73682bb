import RowRelay.Proofs.Relay.Abreast
import RowRelay.Proofs.Relay.Counts
import RowRelay.Relay.Script

/-!
# The policy on acknowledging only filters

Two runs of a relay whose policies differ in what is acknowledged, with services that take no
notice of acknowledgements and let all of them succeed (`Scripted`); inserts and letters may fail.
`ack_policy_filters`: up to their ends, which are the same but for the count of acknowledgements,
the runs go step by step through the same pulls and inserts, record the same letters, and
acknowledge the same messages, of which only those whose insert succeeded are left under
`afterInsert` (`FiltersAcks`).

After any step the two runs differ in nothing but acknowledgements (`Apart`). A step keeps it so,
for it tells the same tale in both (`step_apart`).
-/

set_option autoImplicit false

namespace RowRelay.Relay

open PubSub (Message QueueError)

variable {σ : Type}

/-! ## Leaving out the counts of acknowledgements -/

def BatchReport.sansAcks (r : BatchReport) : BatchReport :=
  { r with acknowledged := 0 }

def Stats.sansAcks (s : Stats) : Stats :=
  { s with acknowledged := 0 }

def StepEnd.sansAcks : StepEnd → StepEnd
  | .done (.processed report) => .done (.processed report.sansAcks)
  | r => r

def RunEnd.sansAcks : RunEnd → RunEnd
  | .stopped stats => .stopped stats.sansAcks
  | r => r

theorem Tale.stepEnd_sansAcks (t : Tale) (acks acks' : AckPolicy) :
    (t.stepEnd acks).sansAcks = (t.stepEnd acks').sansAcks := by
  unfold stepEnd
  cases t.ending <;> rfl

theorem Stats.after_sansAcks {s s' : Stats} (h : s.sansAcks = s'.sansAcks) (t : Tale)
    (acks acks' : AckPolicy) (batches : List (List Message)) :
    (s.after batches (t.stepEnd acks)).sansAcks =
      (s'.after batches (t.stepEnd acks')).sansAcks := by
  simp only [sansAcks, Stats.mk.injEq] at h
  obtain ⟨hbatches, hempty, hreceived, hinserted, hfailed, -⟩ := h
  unfold Tale.stepEnd
  cases t.ending with
  | processed => simp [after, absorb, reportOn, sansAcks, *]
  | _ =>
    unfold after
    by_cases hpulled : batches.any (·.isEmpty) = true
    · rw [if_pos hpulled, if_pos hpulled]
      simp [sansAcks, *]
    · rw [if_neg hpulled, if_neg hpulled]
      simp [sansAcks, *]

/-! ## Two runs -/

/-- Services whose answers follow a script, which acknowledging, always with success, does not move.
`R` relates the worlds between which there are only acknowledgements. -/
structure Scripted (svc : Services σ) (relay : Relay) (R : σ → σ → Prop) : Prop
    extends Abreast svc svc relay R where
  pull {w v : σ} : R w v → Matches R (pullReply svc relay w) (pullReply svc relay v)
  /-- What the disk makes of a letter does not hang on its time. -/
  record {w v : σ} {letter letter' : DeadLetter} : R w v → letter.undated = letter'.undated →
    (svc.record letter w).1 = (svc.record letter' v).1 ∧
    R (svc.record letter w).2 (svc.record letter' v).2

/-- Two states differ in nothing but acknowledgements. -/
structure Apart (R : σ → σ → Prop) (s s' : State σ) : Prop where
  worlds : R s.world s'.world
  backoff : s.backoff = s'.backoff
  kept : s.store.isSome = s'.store.isSome
  stats : s.stats.sansAcks = s'.stats.sansAcks

/-- The step of the second relay does what that of the first one does, and acknowledges of the same
messages those whose insert succeeded. -/
structure FiltersAcks (svc : Services σ) (attempting inserting : Relay) (s s' : State σ) :
    Prop where
  /-- The same pulls and inserts, with the same answers. -/
  calls : callsOf (stepEvents svc attempting s) = callsOf (stepEvents svc inserting s')
  letters : (accountOf (stepEvents svc attempting s)).letters.map DeadLetter.undated =
    (accountOf (stepEvents svc inserting s')).letters.map DeadLetter.undated
  /-- The same letters were written, and the disk failed at the same ones. -/
  writes : (accountOf (stepEvents svc attempting s)).writes.map Store.Write.undated =
    (accountOf (stepEvents svc inserting s')).writes.map Store.Write.undated
  ended : (step svc attempting s).1.sansAcks = (step svc inserting s').1.sansAcks
  /-- What is acknowledged are the first messages tried, or the inserted ones of these. -/
  ackCalls : ∃ closed, closed <+: triedBy (callsOf (stepEvents svc attempting s)) ∧
    (accountOf (stepEvents svc attempting s)).ackCalls = oneCall (closed.map (·.1.ackId)) ∧
    (accountOf (stepEvents svc inserting s')).ackCalls =
      oneCall ((closed.filter (·.2.isInserted)).map (·.1.ackId))

section
variable {svc : Services σ} {relay : Relay} {R : σ → σ → Prop} {s s' : State σ}

theorem Scripted.begins (h : Scripted svc relay R) {w v : σ} (hR : R w v) :
    Begins svc svc relay R w v where
  cancelled := h.cancelled hR
  stopped _ := hR
  pull _ := h.pull hR

/-- Under the same policy on failures the same is given up. -/
theorem Scripted.givesUpAlike (h : Scripted svc relay R) (failures : FailurePolicy)
    (acks acks' : AckPolicy) {kept kept' : Bool} (hk : kept = kept') :
    GivesUpAlike svc svc relay R ⟨failures, acks⟩ ⟨failures, acks'⟩ kept kept' := by
  subst hk
  intro w v m x hR
  have hsame : x.keptReason? (relay.under ⟨failures, acks⟩) kept =
      x.keptReason? (relay.under ⟨failures, acks'⟩) kept := rfl
  unfold recordReply
  rw [hsame]
  cases x.keptReason? (relay.under ⟨failures, acks'⟩) kept with
  | none => exact ⟨rfl, hR⟩
  | some reason => exact h.record hR rfl

theorem tolerates_acks (relay : Relay) (failures : FailurePolicy) (acks acks' : AckPolicy)
    {kept kept' : Bool} (hk : kept = kept') :
    Tolerates relay ⟨failures, acks⟩ ⟨failures, acks'⟩ kept kept' := by
  subst hk
  exact ⟨fun _ hv => ⟨_, hv⟩, fun _ hv hv' => Except.error.inj (hv.symm.trans hv')⟩

theorem Scripted.sameTale (h : Scripted svc relay R) (hs : Apart R s s') (failures : FailurePolicy)
    (acks acks' : AckPolicy) :
    SameTale svc svc relay R ⟨failures, acks⟩ ⟨failures, acks'⟩ s s' := by
  rcases step_abreast h.toAbreast (h.givesUpAlike failures acks acks' hs.kept)
    (tolerates_acks relay failures acks acks' hs.kept) hs.backoff (h.begins hs.worlds) with
    hsame | ⟨batch, tried, m, x, fault?, e, p, s₁, p', s₁', hparted⟩
  · exact hsame
  · obtain ⟨d, hd⟩ := hparted.survived
    rw [hparted.arrived'.kept, ← hs.kept, ← hparted.arrived.kept] at hd
    cases hparted.fatal.symm.trans hd

theorem Tale.closed_prefix (t : Tale) : t.closed <+: t.tried := by
  unfold closed
  cases t.ending with
  | stopped => exact List.nil_prefix
  | _ => exact List.prefix_rfl

theorem step_filters (h : Scripted svc relay R) (hs : Apart R s s') (failures : FailurePolicy) :
    FiltersAcks svc (relay.under ⟨failures, .afterAttempt⟩) (relay.under ⟨failures, .afterInsert⟩)
      s s' := by
  obtain ⟨-, t, ht, ht'⟩ := h.sameTale hs failures .afterAttempt .afterInsert
  refine
    { calls := ht.calls.trans ht'.calls.symm
      letters := ?_
      writes := ?_
      ended := ?_
      ackCalls := ⟨t.closed, ?_, ?_, ?_⟩ }
  · rw [ht.letters, ht'.letters, hs.kept]
    rfl
  · rw [ht.writes, ht'.writes, hs.kept]
    rfl
  · rw [ht.ended, ht'.ended]
    exact t.stepEnd_sansAcks ..
  · rw [ht.calls]
    exact t.closed_prefix.trans ht.tried
  · rw [ht.ackCalls, ← idsOf_afterAttempt]
    rfl
  · rw [ht'.ackCalls, ← idsOf_afterInsert]
    rfl

/-- After a step two states differ in nothing but acknowledgements if they did so before. -/
theorem step_apart (h : Scripted svc relay R) (hs : Apart R s s') (failures : FailurePolicy)
    (acks acks' : AckPolicy) :
    Apart R (step svc (relay.under ⟨failures, acks⟩) s).2
      (step svc (relay.under ⟨failures, acks'⟩) s').2 := by
  obtain ⟨hR, t, ht, ht'⟩ := h.sameTale hs failures acks acks'
  have hround := step_round svc (relay.under ⟨failures, acks⟩) s
  have hround' := step_round svc (relay.under ⟨failures, acks'⟩) s'
  have hbatches : (accountOf (stepEvents svc (relay.under ⟨failures, acks⟩) s)).batches =
      (accountOf (stepEvents svc (relay.under ⟨failures, acks'⟩) s')).batches := by
    rw [accountOf_batches, accountOf_batches, ht.calls, ht'.calls]
  refine ⟨hR, ?_, ?_, ?_⟩
  · rw [hround.backoff, hround'.backoff, hs.backoff, hbatches]
  · rw [hround.store, hround'.store, Option.isSome_map, Option.isSome_map, hs.kept]
  · rw [hround.round.countsByPull.stats, hround'.round.countsByPull.stats, hbatches, ht.ended,
      ht'.ended]
    exact Stats.after_sansAcks hs.stats t acks acks' _

theorem steps_apart (h : Scripted svc relay R) (failures : FailurePolicy)
    (acks acks' : AckPolicy) (n : Nat) :
    ∀ {s s' : State σ}, Apart R s s' →
      (steps svc (relay.under ⟨failures, acks⟩) n s).1.map RunEnd.sansAcks =
          (steps svc (relay.under ⟨failures, acks'⟩) n s').1.map RunEnd.sansAcks ∧
        ((steps svc (relay.under ⟨failures, acks⟩) n s).1 = none →
          Apart R (steps svc (relay.under ⟨failures, acks⟩) n s).2
            (steps svc (relay.under ⟨failures, acks'⟩) n s').2) := by
  induction n with
  | zero => exact fun hs => ⟨rfl, fun _ => hs⟩
  | succ n ih =>
    intro s s' hs
    have hafter := step_apart h hs failures acks acks'
    obtain ⟨-, t, ht, ht'⟩ := h.sameTale hs failures acks acks'
    have hended := ht.ended
    have hended' := ht'.ended
    unfold steps
    generalize step svc (relay.under ⟨failures, acks⟩) s = out at hended hafter ⊢
    generalize step svc (relay.under ⟨failures, acks'⟩) s' = out' at hended' hafter ⊢
    obtain ⟨r, s₁⟩ := out
    obtain ⟨r', s₁'⟩ := out'
    dsimp only at hended hended' hafter
    subst hended hended'
    unfold Tale.stepEnd
    cases t.ending with
    | stopped =>
      exact ⟨congrArg (fun stats => some (RunEnd.stopped stats)) hafter.stats,
        fun hnone => absurd hnone (Option.some_ne_none _)⟩
    | idle => exact ih hafter
    | failed e => exact ⟨rfl, fun hnone => absurd hnone (Option.some_ne_none _)⟩
    | broken b e => exact ⟨rfl, fun hnone => absurd hnone (Option.some_ne_none _)⟩
    | processed => exact ih hafter

end

/-- **The policy on acknowledging only filters.** -/
theorem ack_policy_filters {svc : Services σ} {relay : Relay} {R : σ → σ → Prop}
    (h : Scripted svc relay R) (failures : FailurePolicy) {s s' : State σ} (hs : Apart R s s')
    (n : Nat) :
    (steps svc (relay.under ⟨failures, .afterAttempt⟩) n s).1.map RunEnd.sansAcks =
      (steps svc (relay.under ⟨failures, .afterInsert⟩) n s').1.map RunEnd.sansAcks ∧
    ((steps svc (relay.under ⟨failures, .afterAttempt⟩) n s).1 = none →
      FiltersAcks svc (relay.under ⟨failures, .afterAttempt⟩) (relay.under ⟨failures, .afterInsert⟩)
        (steps svc (relay.under ⟨failures, .afterAttempt⟩) n s).2
        (steps svc (relay.under ⟨failures, .afterInsert⟩) n s').2) := by
  obtain ⟨hended, hafter⟩ := steps_apart h failures .afterAttempt .afterInsert n hs
  exact ⟨hended, fun hnone => step_filters h (hafter hnone) failures⟩

/-! ## A script -/

namespace Script

theorem waitForCancel_acks (s : Script) : s.waitForCancel.acks = s.acks := by
  unfold waitForCancel
  cases s.cancelAt <;> rfl

/-- No race takes a prepared acknowledgement. -/
theorem race_acks {α : Type} (s : Script) (p : Planned α) : (s.race p).world.acks = s.acks := by
  unfold race
  dsimp only
  generalize hasked : (if p.cancels = true then s.cancelIn ⟨0⟩ else s) = asked
  have hacks : asked.acks = s.acks := by
    rw [← hasked]
    by_cases hc : p.cancels = true
    · rw [if_pos hc]
      rfl
    · rw [if_neg hc]
  rw [← hacks]
  cases p.delay with
  | none => exact waitForCancel_acks _
  | some d =>
    dsimp only
    by_cases hd : d.nanos = 0
    · rw [if_pos hd]
    · rw [if_neg hd]
      by_cases hlate : (asked.wait d).cancelled = true
      · rw [if_pos hlate]
        exact waitForCancel_acks _
      · rw [if_neg hlate]
        rfl

/-- A script in which no acknowledgement is prepared lets all of them succeed. -/
theorem scripted (relay : Relay) :
    Scripted services relay fun w v => w = v ∧ w.acks = [] where
  cancelled := by
    rintro w v ⟨rfl, -⟩
    rfl
  insert := by
    rintro ⟨pulls, inserts, acks, records, clock, cancelAt, keys, jitter, epoch⟩ v row ⟨rfl, rfl⟩
    cases inserts with
    | nil => exact ⟨rfl, rfl, by simp only [insertReply, services, race_acks]⟩
    | cons p inserts => exact ⟨rfl, rfl, by simp only [insertReply, services, race_acks]⟩
  wait := by
    rintro w v backoff ⟨rfl, hacks⟩
    exact ⟨rfl, rfl, (race_acks w _).trans hacks⟩
  acknowledge := by
    rintro ⟨pulls, inserts, acks, records, clock, cancelAt, keys, jitter, epoch⟩ v ids ⟨rfl, rfl⟩
    exact ⟨rfl, rfl, rfl⟩
  acknowledge' := by
    rintro ⟨pulls, inserts, acks, records, clock, cancelAt, keys, jitter, epoch⟩ v ids ⟨rfl, rfl⟩
    exact ⟨rfl, rfl, rfl⟩
  pull := by
    rintro ⟨pulls, inserts, acks, records, clock, cancelAt, keys, jitter, epoch⟩ v ⟨rfl, rfl⟩
    cases pulls with
    | nil => exact ⟨rfl, rfl, by simp only [pullReply, services, race_acks]⟩
    | cons p pulls => exact ⟨rfl, rfl, by simp only [pullReply, services, race_acks]⟩
  record := by
    rintro ⟨pulls, inserts, acks, records, clock, cancelAt, keys, jitter, epoch⟩ v _ _ ⟨rfl, rfl⟩ -
    cases records with
    | nil => exact ⟨rfl, rfl, rfl⟩
    | cons fault? records => exact ⟨rfl, rfl, rfl⟩

end Script

/-- Of two messages before one that the disk fails to keep both are acknowledged, or only the one
whose row went in. -/
theorem ack_policy_filters_three :
    let relay := sampleRelay {}
    let attempting := relay.under ⟨.deadLetter, .afterAttempt⟩
    let inserting := relay.under ⟨.deadLetter, .afterInsert⟩
    let batch : List Message :=
      [⟨"a1", "m1", "e30=", none, []⟩, ⟨"a2", "m2", "e30=", none, []⟩, ⟨"a3", "m3", "", none, []⟩]
    let s := State.start {} (some (.create {})) {
      pulls := [{ answer := .ok (batch.take 1) }, { answer := .ok batch }]
      inserts := [{ answer := .ok () }, { answer := .error (.rejected "") }]
      records := [none, some (.flushing "disk full")] : Script }
    let s₁ := (steps Script.services attempting 1 s).2
    let s₁' := (steps Script.services inserting 1 s).2
    (step Script.services attempting s₁).1 = .failed (.store (.database "disk full")) ∧
    (accountOf (stepEvents Script.services attempting s₁)).ackCalls = [["a1", "a2"]] ∧
    (accountOf (stepEvents Script.services inserting s₁')).ackCalls = [["a2"]] ∧
    FiltersAcks Script.services attempting inserting s₁ s₁' := by
  intro relay attempting inserting batch s s₁ s₁'
  have hs : Apart (fun w v => w = v ∧ w.acks = []) s s := ⟨⟨rfl, rfl⟩, rfl, rfl, rfl⟩
  exact ⟨rfl, by decide +kernel, by decide +kernel,
    (ack_policy_filters (Script.scripted relay) .deadLetter hs 1).2 rfl⟩

end RowRelay.Relay
