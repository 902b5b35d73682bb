import RowRelay.Proofs.Relay.Round

/-!
# What a step counts

A step pulls at most one batch, and what it counts hangs on its end and on that batch
(`Round.countsByPull`): a batch that was processed adds its report, an empty one is counted as an
empty pull, and no other step counts anything.
-/

set_option autoImplicit false

namespace RowRelay.Relay

open PubSub (Message QueueError)

/-- What is counted once a step ended that pulled these batches. -/
def Stats.after (s : Stats) (batches : List (List Message)) : StepEnd → Stats
  | .done (.processed report) => s.absorb report
  | _ => if batches.any (·.isEmpty) then { s with emptyPulls := s.emptyPulls + 1 } else s

/-- A step that ended so and wrote these events pulled one batch or none, and counts by it. -/
structure CountsByPull (stats : Stats) (r : StepEnd) (events : List Event) (stats' : Stats) :
    Prop where
  batches : ∃ batch? : Option (List Message), (accountOf events).batches = batch?.toList
  stats : stats' = stats.after (accountOf events).batches r

section
variable {relay : Relay} {kept : Bool} {batch rest : List Message} {done : List Handling}
  {es : List Event}

theorem Handled.batches_eq (hh : Handled relay kept batch done rest es) (lines : List Log.Line)
    {tail : List Event} (htail : (accountOf tail).batches = []) :
    (accountOf (pullEvents relay (.answered (.ok batch)) lines ++ es ++ tail)).batches =
      [batch] := by
  rw [accountOf_append, accountOf_append, pullEvents_account, hh.delivered.account]
  simp [accountAll, htail]

/-- A step that pulled messages, and did not process them all, counts nothing. -/
theorem Handled.counts_nothing (hh : Handled relay kept batch done rest es) (hne : batch ≠ [])
    (lines : List Log.Line) {tail : List Event} (htail : (accountOf tail).batches = [])
    {r : StepEnd} (hr : ∀ report, r ≠ .done (.processed report)) (stats : Stats) :
    CountsByPull stats r (pullEvents relay (.answered (.ok batch)) lines ++ es ++ tail) stats where
  batches := ⟨some batch, hh.batches_eq lines htail⟩
  stats := by
    unfold Stats.after
    rw [hh.batches_eq lines htail]
    split
    · exact absurd rfl (hr _)
    · simp [hne]

theorem Handled.ne_nil (hh : Handled relay kept batch done rest es) (hrest : rest ≠ []) :
    batch ≠ [] := by
  rw [hh.batch_eq]
  simp [hrest]

theorem Acked.ne_nil {answer : Option (Except QueueError Unit)} {acked : List Event}
    (hh : Handled relay kept batch done rest es)
    (hacked : Acked relay (admittedIds relay.settings.ackPolicy done) answer acked)
    (hanswer : answer ≠ some (.ok ())) : batch ≠ [] := by
  rintro rfl
  obtain ⟨rfl, -⟩ : done = [] ∧ rest = [] := by simpa using hh.batch_eq.symm
  generalize hids : admittedIds relay.settings.ackPolicy [] = ids at hacked
  cases hacked with
  | nothing => exact hanswer rfl
  | sent answer lines hne => exact hne hids.symm

end

/-- A loop that was cut short left messages, and pulled nothing at its end. -/
theorem LoopEnd.of_cancelled {relay : Relay} {kept : Bool} {total index : Nat} {p : Progress}
    {rest : List Message} {last : List Event}
    (h : LoopEnd relay kept total index p rest last .cancelled) :
    rest ≠ [] ∧ (accountOf last).batches = [] := by
  cases h with
  | stoppedBefore m rest => exact ⟨by simp, rfl⟩
  | stoppedDuring rest key lines hrow =>
    refine ⟨by simp, ?_⟩
    rw [accountOf_append, askEvents_account]
    rfl

/-- **What a round counts** hangs on its end and on what it pulled. -/
theorem Round.countsByPull {relay : Relay} {kept : Bool} {stats stats' : Stats} {r : StepEnd}
    {events : List Event} (h : Round relay kept stats r events stats') :
    CountsByPull stats r events stats' := by
  cases h with
  | stopped => exact ⟨⟨none, rfl⟩, rfl⟩
  | pullGivenUp lines =>
    have hbatches := congrArg Account.batches (pullEvents_account relay .abandoned lines)
    exact ⟨⟨none, hbatches⟩, by rw [hbatches]; rfl⟩
  | pullFailed e lines =>
    have hbatches := congrArg Account.batches
      (pullEvents_account relay (.answered (.error e)) lines)
    exact ⟨⟨none, hbatches⟩, by rw [hbatches]; rfl⟩
  | idle count delay lines lines' ho =>
    have hbatches : (accountOf (pullEvents relay (.answered (.ok [])) lines ++
        .idled count delay :: notes lines')).batches = [[]] := by
      rw [accountOf_append, pullEvents_account, accountOf_cons, accountOf_notes]
      rfl
    refine ⟨⟨some [], hbatches⟩, ?_⟩
    rw [hbatches]
    rcases ho with rfl | rfl <;> rfl
  | cut lines hh hend =>
    obtain ⟨hrest, hlast⟩ := hend.of_cancelled
    exact hh.counts_nothing (hh.ne_nil hrest) lines hlast (by simp) stats
  | broken lines hh hd hv hacked =>
    rw [List.append_assoc, List.append_assoc]
    refine hh.counts_nothing (hh.ne_nil (by simp)) lines ?_ (by simp) stats
    rw [accountOf_append, accountOf_append, hd.account, hacked.account, flushEvents_account]
    rfl
  | brokenUnanswered lines hh hd hv hacked =>
    rw [List.append_assoc]
    refine hh.counts_nothing (hh.ne_nil (by simp)) lines ?_ (by simp) stats
    rw [accountOf_append, hd.account, hacked.account]
    rfl
  | processed lines hb hh hacked =>
    rw [List.append_assoc]
    refine ⟨⟨some _, hh.batches_eq lines ?_⟩, rfl⟩
    rw [accountOf_append, hacked.account]
    rfl
  | refused lines hh hacked =>
    refine hh.counts_nothing (hacked.ne_nil hh (by simp)) lines ?_ (by simp) stats
    rw [hacked.account]
  | unanswered lines hh hacked =>
    refine hh.counts_nothing (hacked.ne_nil hh (by simp)) lines ?_ (by simp) stats
    rw [hacked.account]

end RowRelay.Relay
