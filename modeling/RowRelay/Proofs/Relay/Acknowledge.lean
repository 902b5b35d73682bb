import Mathlib.Data.List.Induction
import RowRelay.Proofs.Relay.Batch

/-!
# No message is acknowledged too early

A history of a relay is a list of acts: steps, and fresh relays over the same store, which take over
whenever a relay is given up. `acknowledged_settled`: whatever the history and the services, every
call that acknowledges sends ids of messages that its own step pulled and dealt with before
(`Settled`): the row of each is in the table, or its failure is known and kept (`FailedSafely`). The
disk may fail at any letter; a letter whose writing failed breaks the batch off, so it is the last
one that is written before the call, and what is acknowledged are the messages before.

What a step acknowledges is read off its round (`Round.acknowledged`).
-/

set_option autoImplicit false

namespace RowRelay.Relay

open BigQuery (InsertError)
open PubSub (Message QueueError)

variable {σ : Type}

/-! ## Histories -/

inductive Act (σ : Type) where
  | step
  /-- A fresh relay takes over. -/
  | renew (world : σ)
  /-- A fresh relay takes over, the store having been closed and opened again. -/
  | reopen (world : σ)

section
variable (svc : Services σ) (relay : Relay)

/-- The state after an act. The journal goes on. -/
def act (s : State σ) : Act σ → State σ
  | .step => (step svc relay s).2
  | .renew world => { State.start relay.settings s.store world with journal := s.journal }
  | .reopen world =>
    { State.start relay.settings (s.store.map fun store => store.reopen store.limits) world with
      journal := s.journal }

def actAll (acts : List (Act σ)) (s : State σ) : State σ :=
  acts.foldl (act svc relay) s

/-- What an act writes into the journal. -/
def actEvents (s : State σ) : Act σ → List Event
  | .step => stepEvents svc relay s
  | .renew _ | .reopen _ => []

end

section
variable {svc : Services σ} {relay : Relay}

theorem act_journal (s : State σ) (a : Act σ) :
    (act svc relay s a).journal = s.journal ++ actEvents svc relay s a := by
  cases a with
  | step => exact (step_round svc relay s).journal
  | renew world => exact (List.append_nil _).symm
  | reopen world => exact (List.append_nil _).symm

theorem actAll_concat (acts : List (Act σ)) (a : Act σ) (s : State σ) :
    actAll svc relay (acts ++ [a]) s = act svc relay (actAll svc relay acts s) a :=
  List.foldl_concat ..

/-- A relay that begins with a store has one all along. -/
theorem actAll_kept (acts : List (Act σ)) :
    ∀ s : State σ, (actAll svc relay acts s).store.isSome = s.store.isSome := by
  induction acts with
  | nil => exact fun _ => rfl
  | cons a acts ih =>
    intro s
    refine (ih _).trans ?_
    cases a with
    | step => rw [act, (step_round svc relay s).store, Option.isSome_map]
    | renew world => rfl
    | reopen world => exact Option.isSome_map

end

/-! ## The calls of a step -/

theorem not_acknowledged {events during after : List Event} {sub : String} {ids : List String}
    {answer : Option (Except QueueError Unit)} (hnone : (accountOf events).ackCalls = []) :
    events ≠ during ++ .acknowledged sub ids answer :: after := by
  rintro rfl
  rw [accountOf_append, accountOf_cons] at hnone
  cases (List.append_eq_nil_iff.1 hnone).2

theorem acknowledged_unique {A C D E : List Event} {sub sub' : String} {ids ids' : List String}
    {answer answer' : Option (Except QueueError Unit)} (hA : (accountOf A).ackCalls = [])
    (hC : (accountOf C).ackCalls = [])
    (h : A ++ .acknowledged sub ids answer :: C = D ++ .acknowledged sub' ids' answer' :: E) :
    D = A ∧ ids' = ids ∧ E = C := by
  rcases List.append_eq_append_iff.1 h with ⟨_ | ⟨e, F⟩, rfl, hF⟩ | ⟨_ | ⟨e, F⟩, rfl, hF⟩
  · cases hF
    simp
  · exact absurd (List.cons.inj hF).2 (not_acknowledged hC)
  · cases hF
    simp
  · obtain ⟨rfl, -⟩ := List.cons.inj hF
    exact absurd rfl (not_acknowledged hA)

section
variable {relay : Relay} {kept : Bool} {during after : List Event} {sub : String}
  {ids : List String} {answer : Option (Except QueueError Unit)}

theorem Acked.split {A acked tail : List Event} {ids' : List String}
    {answer' : Option (Except QueueError Unit)} (hacked : Acked relay ids' answer' acked)
    (hA : (accountOf A).ackCalls = []) (htail : accountOf tail = {})
    (h : A ++ acked ++ tail = during ++ .acknowledged sub ids answer :: after) :
    during = A ∧ ids = ids' ∧ (accountOf after).writes = [] := by
  cases hacked with
  | nothing =>
    refine absurd h (not_acknowledged ?_)
    rw [accountOf_append, accountOf_append, htail]
    simpa using hA
  | sent answer' lines hne =>
    have hrest : accountOf (notes lines ++ tail) = {} := by
      rw [accountOf_append, accountOf_notes, htail]
      rfl
    rw [List.append_assoc, List.cons_append] at h
    obtain ⟨rfl, rfl, rfl⟩ := acknowledged_unique hA (by rw [hrest]) h
    exact ⟨rfl, rfl, by rw [hrest]⟩

/-- What was acknowledged behind `during` are the admitted ids of messages handled before. Between
their handling and the call no more letters were written than messages were left, and none behind
it. -/
def AckedBehind (relay : Relay) (kept : Bool) (during : List Event) (ids : List String)
    (after : List Event) : Prop :=
  ∃ batch done rest es last lines, Handled relay kept batch done rest es ∧
    during = pullEvents relay (.answered (.ok batch)) lines ++ es ++ last ∧
    (accountOf last).batches = [] ∧ (accountOf last).writes.length ≤ rest.length ∧
    ids = admittedIds relay.settings.ackPolicy done ∧ (accountOf after).writes = []

section
variable {batch : List Message} {done : List Handling} {rest : List Message}
  {es acked tail : List Event} {answer' : Option (Except QueueError Unit)}

theorem Handled.ackCalls (hh : Handled relay kept batch done rest es) (lines : List Log.Line) :
    (accountOf (pullEvents relay (.answered (.ok batch)) lines ++ es)).ackCalls = [] := by
  rw [accountOf_append, pullEvents_account, hh.delivered.account]
  rfl

/-- The call behind messages that were handled to the end of their batch. -/
theorem Acked.behind_handled (hh : Handled relay kept batch done rest es) (lines : List Log.Line)
    (hacked : Acked relay (admittedIds relay.settings.ackPolicy done) answer' acked)
    (htail : accountOf tail = {})
    (h : pullEvents relay (.answered (.ok batch)) lines ++ es ++ acked ++ tail =
      during ++ .acknowledged sub ids answer :: after) :
    AckedBehind relay kept during ids after := by
  obtain ⟨rfl, rfl, hafter⟩ := hacked.split (hh.ackCalls lines) htail h
  exact ⟨batch, done, rest, es, [], lines, hh, (List.append_nil _).symm, rfl, Nat.zero_le _, rfl,
    hafter⟩

/-- The call behind a message that broke off its batch. -/
theorem Acked.behind_broken {f : Handling} {last : List Event}
    (hh : Handled relay kept batch done (f.message :: rest) es) (hd : Delivered relay kept f last)
    (lines : List Log.Line)
    (hacked : Acked relay (admittedIds relay.settings.ackPolicy done) answer' acked)
    (htail : accountOf tail = {})
    (h : pullEvents relay (.answered (.ok batch)) lines ++ es ++ last ++ acked ++ tail =
      during ++ .acknowledged sub ids answer :: after) :
    AckedBehind relay kept during ids after := by
  have hcalls : (accountOf
      (pullEvents relay (.answered (.ok batch)) lines ++ es ++ last)).ackCalls = [] := by
    rw [accountOf_append, hd.account]
    exact (List.append_nil _).trans (hh.ackCalls lines)
  have hwrites : (accountOf last).writes.length ≤ (f.message :: rest).length := by
    rw [hd.account, Handling.account]
    cases f.write? relay kept <;> simp
  have hbatches : (accountOf last).batches = [] := by
    rw [hd.account]
    rfl
  obtain ⟨rfl, rfl, hafter⟩ := hacked.split hcalls htail h
  exact ⟨batch, done, _, es, last, lines, hh, rfl, hbatches, hwrites, rfl, hafter⟩

end

/-- **What a round acknowledges** are the admitted ids of messages handled before. -/
theorem Round.acknowledged {stats stats' : Stats} {r : StepEnd} {events : List Event}
    (hr : Round relay kept stats r events stats')
    (h : events = during ++ .acknowledged sub ids answer :: after) :
    AckedBehind relay kept during ids after := by
  cases hr with
  | stopped => exact absurd h (not_acknowledged rfl)
  | pullGivenUp lines => exact absurd h (not_acknowledged (by rw [pullEvents_account]))
  | pullFailed e lines => exact absurd h (not_acknowledged (by rw [pullEvents_account]))
  | idle count delay lines lines' ho =>
    refine absurd h (not_acknowledged ?_)
    rw [accountOf_append, pullEvents_account, accountOf_cons, accountOf_notes]
    rfl
  | cut lines hh hend =>
    refine absurd h (not_acknowledged ?_)
    rw [accountOf_append]
    cases hend with
    | stoppedBefore m rest => exact (List.append_nil _).trans (hh.ackCalls lines)
    | stoppedDuring rest key lines' hrow =>
      rw [accountOf_append (askEvents ..), askEvents_account]
      exact (List.append_nil _).trans (hh.ackCalls lines)
  | broken lines hh hd hv hacked =>
    exact hacked.behind_broken hh hd lines (flushEvents_account _ _) h
  | brokenUnanswered lines hh hd hv hacked =>
    rw [← List.append_nil (_ ++ _)] at h
    exact hacked.behind_broken hh hd lines rfl h
  | processed lines hb hh hacked => exact hacked.behind_handled hh lines rfl h
  | refused lines hh hacked =>
    rw [← List.append_nil (_ ++ _)] at h
    exact hacked.behind_handled hh lines rfl h
  | unanswered lines hh hacked =>
    rw [← List.append_nil (_ ++ _)] at h
    exact hacked.behind_handled hh lines rfl h

end

/-! ## Settled messages -/

/-- A message that is not in the table is accounted for, the one at position `i` of those handled:
its row was refused, or its letter was written without a fault behind those of the failures before
it, and the store holds it. -/
def FailedSafely (relay : Relay) (store : Option Store) (during : List Event)
    (done : List Handling) (i : Nat) (x : Handling) : Prop :=
  match relay.settings.failurePolicy with
  | .abort => x.attempt.isRejected = true
  | .deadLetter => ∃ reason earlier later before,
    x.attempt.reason? = some reason ∧
    (accountOf during).writes = earlier ++ ⟨.ofMessage x.message reason x.time, none⟩ :: later ∧
    earlier.length = (done.take i).countP (!·.attempt.isInserted) ∧
    store = some before ∧
    (before.writeAll (accountOf during).writes).Holds (before.next + earlier.length)
      (.ofMessage x.message reason x.time)

/-- What a step had done with the messages of its batch before it acknowledged the ids; `during` is
what it had written by then, and `store` the store that it began with. -/
structure Settled (relay : Relay) (store : Option Store) (during : List Event) (ids : List String)
    (done : List Handling) (rest : List Message) : Prop where
  /-- The step had pulled the batch and handled its first messages. -/
  pulled : (accountOf during).batches = [done.map (·.message) ++ rest]
  attempted : ∀ x ∈ done, x.attempt.At x.message
  insertCalls : (done.filterMap fun x => x.attempt.row?.map
    (⟨relay.table, ·, relay.settings.insertRetries⟩)) <+: (accountOf during).insertCalls
  insertAnswers :
    (done.filterMap (·.attempt.answer?)).map .answered <+: (accountOf during).insertAnswers
  ids_eq : ids =
    (done.filter (·.attempt.isAdmitted relay.settings.ackPolicy)).map (·.message.ackId)
  safe : ∀ i x, done[i]? = some x → x.attempt.isAdmitted relay.settings.ackPolicy = true →
    x.attempt.isInserted = true ∨ relay.settings.ackPolicy = .afterAttempt ∧
      x.attempt.isInserted = false ∧ FailedSafely relay store during done i x

/-- A failure that was survived where failures are kept was written without a fault. -/
theorem Handling.Survived.write?_eq {relay : Relay} {x : Handling} (hs : x.Survived relay true)
    (hp : relay.settings.failurePolicy = .deadLetter) {reason : String}
    (hreason : x.attempt.reason? = some reason) :
    x.write? relay true = some ⟨.ofMessage x.message reason x.time, none⟩ := by
  have hkept : x.attempt.keptReason? relay true = some reason :=
    (Attempt.keptReason?_deadLetter hp _).trans hreason
  obtain ⟨d, hd⟩ := hs
  have hnone : x.fault? = none := (verdict_eq_ok.1 hd).1.resolve_left (by simp [hkept])
  rw [write?, hkept, hnone]
  rfl

/-- As many letters are written as messages failed. -/
theorem length_filterMap_write? {relay : Relay} (hp : relay.settings.failurePolicy = .deadLetter)
    (done : List Handling) :
    (done.filterMap (·.write? relay true)).length = done.countP (!·.attempt.isInserted) := by
  rw [List.length_filterMap_eq_countP]
  refine congrArg (List.countP · done) (funext fun x => ?_)
  simp [Handling.write?, Attempt.keptReason?_deadLetter hp, Attempt.reason?_isSome]

theorem failedSafely_of_handled {relay : Relay} {store : Option Store} {batch : List Message}
    {done : List Handling} {rest : List Message} {es during : List Event} {last : List Store.Write}
    (hstore : relay.settings.failurePolicy = .deadLetter → store.isSome)
    (hfit : batch.length ≤ UInt64.size) (hh : Handled relay store.isSome batch done rest es)
    (hwrites : (accountOf during).writes = done.filterMap (·.write? relay store.isSome) ++ last)
    (hlast : last.length ≤ rest.length) {i : Nat} {x : Handling} (hx : done[i]? = some x)
    (hfailed : x.attempt.isInserted = false) : FailedSafely relay store during done i x := by
  have hsurvived := hh.survived x (List.mem_of_getElem? hx)
  unfold FailedSafely
  cases hp : relay.settings.failurePolicy with
  | abort =>
    have := Attempt.tried_of_not_fatal (hh.not_fatal hp x (List.mem_of_getElem? hx))
    simpa [hfailed] using this
  | deadLetter =>
    obtain ⟨before, rfl⟩ := Option.isSome_iff_exists.1 (hstore hp)
    obtain ⟨reason, hreason⟩ : ∃ reason, x.attempt.reason? = some reason := by
      rw [← Option.isSome_iff_exists, Attempt.reason?_isSome, hfailed]
      rfl
    obtain ⟨hi, hget⟩ := List.getElem?_eq_some_iff.1 hx
    have hearlier : ∀ w ∈ (done.take i).filterMap (·.write? relay true), w.fault? = none :=
      fault?_of_survived relay true fun y hy => hh.survived y (List.mem_of_mem_take hy)
    have hsplit : (accountOf during).writes = (done.take i).filterMap (·.write? relay true) ++
        ⟨.ofMessage x.message reason x.time, none⟩ ::
          ((done.drop (i + 1)).filterMap (·.write? relay true) ++ last) := by
      have hx : x.write? relay (some before).isSome = _ := hsurvived.write?_eq hp hreason
      rw [hwrites]
      conv_lhs => rw [← done.take_append_drop i, List.drop_eq_getElem_cons hi, hget]
      rw [List.filterMap_append, List.filterMap_cons, hx, List.append_assoc]
      rfl
    refine ⟨reason, _, _, before, hreason, hsplit, length_filterMap_write? hp _, rfl, ?_⟩
    rw [← Store.next_writeAll hearlier before, hsplit]
    refine Store.writeAll_holds before _ _ ?_
    have hlen : batch.length = done.length + rest.length := by simp [hh.batch_eq]
    have hle := List.length_filterMap_le (·.write? relay true) (done.drop (i + 1))
    rw [List.length_append]
    rw [List.length_drop] at hle
    omega

section
variable {svc : Services σ} {relay : Relay} {during after : List Event} {sub : String}
  {ids : List String} {answer : Option (Except QueueError Unit)}

/-- What a step acknowledges is settled, and the store is as it was at the call when it ends. -/
theorem step_settled {s : State σ}
    (hstore : relay.settings.failurePolicy = .deadLetter → s.store.isSome)
    (hfit : ∀ batch ∈ (accountOf (stepEvents svc relay s)).batches, batch.length ≤ UInt64.size)
    (h : stepEvents svc relay s = during ++ .acknowledged sub ids answer :: after) :
    (∃ done rest, Settled relay s.store during ids done rest) ∧
      (step svc relay s).2.store = s.store.map (·.writeAll (accountOf during).writes) := by
  have hround := step_round svc relay s
  obtain ⟨batch, done, rest, es, last, lines, hh, hduring, hbatches, hlast, hids, hafter⟩ :=
    hround.round.acknowledged h
  have haccount : accountOf during =
      { batches := [batch] } ++ accountAll relay s.store.isSome done ++ accountOf last := by
    rw [hduring, accountOf_append, accountOf_append, pullEvents_account, hh.delivered.account]
  have hwrites : (accountOf during).writes =
      done.filterMap (·.write? relay s.store.isSome) ++ (accountOf last).writes := by
    simp [haccount, accountAll]
  have hpulled : (accountOf during).batches = [batch] := by
    simp [haccount, hbatches, accountAll]
  have hbatch : batch.length ≤ UInt64.size := by
    refine hfit batch ?_
    rw [h, accountOf_append]
    simp [hpulled]
  refine ⟨⟨done, rest, ?_⟩, ?_⟩
  · refine
      { pulled := by rw [hpulled, hh.batch_eq]
        attempted := hh.delivered.at
        insertCalls := ?_
        insertAnswers := ?_
        ids_eq := hids
        safe := fun i x hx hadmitted => ?_ }
    · rw [haccount]
      exact List.prefix_append _ _
    · rw [haccount, ← accountAll_insertAnswers relay s.store.isSome]
      exact List.prefix_append _ _
    · cases hin : x.attempt.isInserted with
      | true => exact .inl rfl
      | false =>
        refine .inr ⟨?_, rfl, failedSafely_of_handled hstore hbatch hh hwrites hlast hx hin⟩
        simpa [Attempt.isAdmitted, hin] using hadmitted
  · rw [hround.store, h, accountOf_append, accountOf_cons]
    have hack : (accountOf [.acknowledged sub ids answer]).writes = [] := rfl
    simp [hafter, hack]

/-- Some step among the acts settled the ids before they were acknowledged behind `before`, of which
it had written the last part. Its store did not change any more until it ended. -/
def SettledAmong (svc : Services σ) (relay : Relay) (start : State σ) (acts : List (Act σ))
    (before : List Event) (ids : List String) : Prop :=
  ∃ earlier later s during done rest, acts = earlier ++ .step :: later ∧
    s = actAll svc relay earlier start ∧ before = s.journal ++ during ∧
    Settled relay s.store during ids done rest ∧
    (step svc relay s).2.store = s.store.map (·.writeAll (accountOf during).writes)

theorem SettledAmong.concat {start : State σ} {acts : List (Act σ)} {before : List Event}
    (h : SettledAmong svc relay start acts before ids) (a : Act σ) :
    SettledAmong svc relay start (acts ++ [a]) before ids := by
  obtain ⟨earlier, later, s, during, done, rest, rfl, hrest⟩ := h
  exact ⟨earlier, later ++ [a], s, during, done, rest, by simp, hrest⟩

/-- The last act, if it acknowledges, is a step that settled the ids. -/
theorem settledAmong_last {start : State σ} {acts : List (Act σ)} {a : Act σ}
    (hstore : relay.settings.failurePolicy = .deadLetter → start.store.isSome)
    (hfit : ∀ batch ∈ (accountOf (actEvents svc relay (actAll svc relay acts start) a)).batches,
      batch.length ≤ UInt64.size)
    (h : actEvents svc relay (actAll svc relay acts start) a =
      during ++ .acknowledged sub ids answer :: after) :
    SettledAmong svc relay start (acts ++ [a])
      ((actAll svc relay acts start).journal ++ during) ids := by
  cases a with
  | step =>
    obtain ⟨⟨done, rest, hsettled⟩, hend⟩ :=
      step_settled (fun hp => (actAll_kept acts start).trans (hstore hp)) hfit h
    exact ⟨acts, [], _, during, done, rest, rfl, rfl, rfl, hsettled, hend⟩
  | renew world => simp [actEvents] at h
  | reopen world => simp [actEvents] at h

/-- **Acknowledging is safe over whole histories.** -/
theorem acknowledged_settled {store : Option Store} {world : σ} {acts : List (Act σ)}
    {before : List Event} (hstore : relay.settings.failurePolicy = .deadLetter → store.isSome)
    (hfit : ∀ batch ∈ (accountOf
      (actAll svc relay acts (.start relay.settings store world)).journal).batches,
      batch.length ≤ UInt64.size)
    (h : (actAll svc relay acts (.start relay.settings store world)).journal =
      before ++ .acknowledged sub ids answer :: after) :
    SettledAmong svc relay (.start relay.settings store world) acts before ids := by
  induction acts using List.reverseRecOn generalizing after with
  | nil => simp [actAll, State.start] at h
  | append_singleton acts a ih =>
    rw [actAll_concat, act_journal] at h hfit
    rw [accountOf_append] at hfit
    have hlast := fun batch hb => hfit batch (List.mem_append_right _ hb)
    -- the call is among the events of the last act, or it was made before
    rcases List.append_eq_append_iff.1 h with ⟨during, rfl, hevents⟩ | ⟨F, hjournal, hF⟩
    · exact settledAmong_last hstore hlast hevents
    · cases F with
      | nil =>
        have hsettled : SettledAmong svc relay _ (acts ++ [a]) (_ ++ []) ids :=
          settledAmong_last hstore hlast hF.symm
        rwa [List.append_nil, hjournal, List.append_nil] at hsettled
      | cons e F =>
        obtain ⟨rfl, -⟩ := List.cons.inj hF
        exact (ih (fun batch hb => hfit batch (List.mem_append_left _ hb)) hjournal).concat a

end

/-- A relay that keeps failures pulls the pair, the other way round, and its second message once
more, for which the disk fails; it acknowledges the two before. -/
theorem acknowledged_settled_pair :
    let relay := sampleRelay { failurePolicy := .deadLetter }
    let batch := samplePair.reverse ++ samplePair.drop 1
    let world : Script :=
      { pulls := [{ answer := .ok batch }], records := [none, some (.flushing "disk full")] }
    let acts := [.reopen world, .step]
    let s := State.start relay.settings (some (.create {})) world
    ∃ before after,
      (actAll Script.services relay acts s).journal =
        before ++ .acknowledged "" ["a2", "a1"] (some (.ok ())) :: after ∧
      (accountOf before).writes.map (·.fault?) = [none, some (.flushing "disk full")] ∧
      SettledAmong Script.services relay s acts before ["a2", "a1"] := by
  intro relay batch world acts s
  have hbatches : (accountOf (actAll Script.services relay acts s).journal).batches =
      [batch] := rfl
  have hjournal : (actAll Script.services relay acts s).journal =
      (actAll Script.services relay acts s).journal.take 7 ++
        .acknowledged "" ["a2", "a1"] (some (.ok ())) ::
          (actAll Script.services relay acts s).journal.drop 8 := rfl
  refine ⟨_, _, hjournal, rfl, acknowledged_settled (fun _ => rfl) ?_ hjournal⟩
  intro batch' hb
  rw [hbatches, List.mem_singleton] at hb
  subst hb
  decide

end RowRelay.Relay
