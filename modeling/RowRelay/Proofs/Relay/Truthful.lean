import RowRelay.Proofs.Relay.Round
import RowRelay.Proofs.Relay.Worlds

/-!
# Journals are truthful

`svc.listed` serve as `svc` does and list every call with its answer. A relay does the same with
them (`listed_over`), so that the list has what was asked of `svc`. Behind every step and every run
it has the calls that the journal tells of, in their order and with their answers (`step_calls`,
`run_calls`): no call is made that is not in the journal, and no call is in the journal that was not
made. The account of a journal is an account of the calls (`accountOf_calls`).
-/

set_option autoImplicit false

namespace RowRelay.Relay

open BigQuery (TableRef Row IdempotencyKey InsertError)
open PubSub (Message QueueError)

variable {σ : Type}

/-! ## Calls -/

/-- A call of a service, with its answer where it has one. -/
inductive ServiceCall where
  | pull (subscription : String) (most : UInt32) (immediately : Bool)
      (answer : Awaited (Except QueueError (List Message)))
  | insert (table : TableRef) (row : Row) (key : IdempotencyKey) (retries : UInt32)
      (answer : Awaited (Except InsertError Unit))
  | acknowledge (subscription : String) (ids : List String)
      (answer : Option (Except QueueError Unit))
  | pause (delay : Duration)
  | record (letter : DeadLetter) (fault? : Option Store.RecordFault)

/-- The call that an event tells of. -/
def Event.serviceCall? : Event → Option ServiceCall
  | .pulled subscription most immediately answer =>
    some (.pull subscription most immediately answer)
  | .idled _ delay => some (.pause delay)
  | .inserted table row key retries answer => some (.insert table row key retries answer)
  | .recorded letter fault? => some (.record letter fault?)
  | .acknowledged subscription ids answer => some (.acknowledge subscription ids answer)
  | _ => none

def serviceCallsOf (journal : List Event) : List ServiceCall :=
  journal.filterMap Event.serviceCall?

theorem serviceCallsOf_append (j k : List Event) :
    serviceCallsOf (j ++ k) = serviceCallsOf j ++ serviceCallsOf k :=
  List.filterMap_append

theorem serviceCallsOf_notes (lines : List Log.Line) : serviceCallsOf (notes lines) = [] := by
  simp [serviceCallsOf, notes, Event.serviceCall?]

namespace ServiceCall

def batch? : ServiceCall → Option (List Message)
  | .pull _ _ _ (.answered (.ok batch)) => some batch
  | _ => none

def insertCall? : ServiceCall → Option InsertCall
  | .insert table row _ retries _ => some ⟨table, row, retries⟩
  | _ => none

def insertAnswer? : ServiceCall → Option (Awaited (Except InsertError Unit))
  | .insert _ _ _ _ answer => some answer
  | _ => none

def ackIds? : ServiceCall → Option (List String)
  | .acknowledge _ ids _ => some ids
  | _ => none

def write? : ServiceCall → Option Store.Write
  | .record letter fault? => some ⟨letter, fault?⟩
  | _ => none

end ServiceCall

/-- **The account of a journal** is one of the calls it tells of; the rows that were read are the
relay's own doing. -/
theorem accountOf_calls (journal : List Event) :
    accountOf journal =
      { batches := (serviceCallsOf journal).filterMap ServiceCall.batch?
        decodings := journal.filterMap Event.decoding?
        insertCalls := (serviceCallsOf journal).filterMap ServiceCall.insertCall?
        insertAnswers := (serviceCallsOf journal).filterMap ServiceCall.insertAnswer?
        ackCalls := (serviceCallsOf journal).filterMap ServiceCall.ackIds?
        writes := (serviceCallsOf journal).filterMap ServiceCall.write? } := by
  -- every kind is read off an event directly or by way of its call
  have hread {α : Type} (f : Event → Option α) (g : ServiceCall → Option α)
      (h : ∀ e, f e = e.serviceCall?.bind g) :
      journal.filterMap f = (serviceCallsOf journal).filterMap g := by
    rw [serviceCallsOf, List.filterMap_filterMap]
    exact congrArg (List.filterMap · journal) (funext h)
  unfold accountOf
  congr 1
  · refine hread _ _ fun e => ?_
    cases e with
    | pulled subscription most immediately answer => rcases answer with (_ | _) | _ <;> rfl
    | _ => rfl
  all_goals
    refine hread _ _ fun e => ?_
    cases e <;> rfl

/-! ## Services that list their calls -/

/-- A world with the calls that were made in it. -/
structure Listed (σ : Type) where
  world : σ
  calls : List ServiceCall := []

/-- Adds a call to the list and goes on in the world behind it. -/
def Listed.add {α : Type} (w : Listed σ) (r : Reply σ α) (c : ServiceCall) : Reply (Listed σ) α :=
  ⟨r.answer, r.lines, ⟨r.world, w.calls ++ [c]⟩⟩

/-- The services, with a list of the calls. -/
def Services.listed (svc : Services σ) : Services (Listed σ) where
  cancelled w := svc.cancelled w.world
  pull subscription most immediately w :=
    let reply := svc.pull subscription most immediately w.world
    w.add reply (.pull subscription most immediately reply.answer)
  insert table row key retries w :=
    let reply := svc.insert table row key retries w.world
    w.add reply (.insert table row key retries reply.answer)
  acknowledge subscription ids w :=
    let reply := svc.acknowledge subscription ids w.world
    w.add reply (.acknowledge subscription ids reply.answer)
  pause delay w := w.add (svc.pause delay w.world) (.pause delay)
  record letter w :=
    let reply := svc.record letter w.world
    (reply.1, ⟨reply.2, w.calls ++ [.record letter reply.1]⟩)
  newKey w := ((svc.newKey w.world).1, { w with world := (svc.newKey w.world).2 })
  draw w := ((svc.draw w.world).1, { w with world := (svc.draw w.world).2 })
  now w := svc.now w.world

theorem listed_over (svc : Services σ) : svc.listed.Over svc Listed.world where
  cancelled _ := rfl
  pull _ _ _ _ := rfl
  insert _ _ _ _ _ := rfl
  acknowledge _ _ _ := rfl
  pause _ _ := rfl
  record _ _ := rfl
  newKey _ := rfl
  draw _ := rfl
  now _ := rfl

/-! ## What the journal tells -/

/-- Between two states the calls were made that the journal tells of. -/
def State.Told (s s' : State (Listed σ)) : Prop :=
  ∃ events, s'.journal = s.journal ++ events ∧
    s'.world.calls = s.world.calls ++ serviceCallsOf events

namespace State.Told

theorem refl (s : State (Listed σ)) : s.Told s :=
  ⟨[], by simp, by simp [serviceCallsOf]⟩

theorem trans {s₁ s₂ s₃ : State (Listed σ)} (h₁ : s₁.Told s₂) (h₂ : s₂.Told s₃) : s₁.Told s₃ := by
  obtain ⟨es, hjournal, hcalls⟩ := h₁
  obtain ⟨fs, hjournal', hcalls'⟩ := h₂
  refine ⟨es ++ fs, ?_, ?_⟩
  · rw [hjournal', hjournal, List.append_assoc]
  · rw [hcalls', hcalls, serviceCallsOf_append, List.append_assoc]

end State.Told

section
variable {s : State (Listed σ)}

theorem note_told {e : Event} (h : e.serviceCall? = none) : s.Told (s.note e) :=
  ⟨[e], rfl, by simp [State.note, serviceCallsOf, h]⟩

/-- A call that is settled is told, if it was made behind the calls before. -/
theorem settle_told {α : Type} {w : Listed σ} (hw : w.calls = s.world.calls) (r : Reply σ α)
    {c : ServiceCall} {e : Event} (h : e.serviceCall? = some c) :
    s.Told (s.settle (w.add r c) e) := by
  refine ⟨e :: notes r.lines, rfl, ?_⟩
  have hcall : serviceCallsOf (e :: notes r.lines) = [c] := by
    rw [← serviceCallsOf_notes r.lines]
    simp [serviceCallsOf, h]
  rw [hcall, ← hw]
  rfl

end

section
variable (svc : Services σ) (relay : Relay)

theorem giveUp_told (m : Message) (reason : String) (s : State (Listed σ)) :
    s.Told (giveUp svc.listed m reason s).2 := by
  obtain ⟨w, store, backoff, stats, journal⟩ := s
  cases store with
  | none => exact note_told rfl
  | some store =>
    let letter := DeadLetter.ofMessage m reason (svc.now w.world)
    let fault? := (svc.record letter w.world).1
    have htold : State.Told ⟨w, some store, backoff, stats, journal⟩
        ⟨(svc.listed.record letter w).2, some (store.tryRecord letter fault?).2, backoff, stats,
          journal ++ [.gaveUp m.messageId reason] ++ [.recorded letter fault?]⟩ :=
      ⟨[.gaveUp m.messageId reason, .recorded letter fault?], List.append_assoc .., rfl⟩
    simp only [giveUp, State.note]
    split <;> exact htold

theorem insertFailed_told (m : Message) (cause : InsertError) (s : State (Listed σ)) :
    s.Told (insertFailed svc.listed relay m cause s).2 := by
  unfold insertFailed
  split
  · exact giveUp_told svc m cause.message s
  · split
    · exact note_told rfl
    · exact .refl s

theorem deliver_told (m : Message) (s : State (Listed σ)) :
    s.Told (deliver svc.listed relay m s).2 := by
  unfold deliver
  split
  · split
    · exact .refl s
    · exact giveUp_told svc ..
  · next row _ =>
    let key := (svc.newKey s.world.world).1
    let reply := insertReply svc relay row s.world.world
    have hread : s.Told (s.note (.decoded m.messageId row)) := note_told rfl
    have hasked := hread.trans (settle_told (s := s.note (.decoded m.messageId row))
      (w := (svc.listed.newKey s.world).2) rfl reply
      (e := .inserted relay.table row key relay.settings.insertRetries reply.answer) rfl)
    dsimp only
    split
    · exact hasked
    · exact hasked
    · exact hasked.trans (insertFailed_told svc ..)

theorem deliverAll_told (total : Nat) (ms : List Message) :
    ∀ (index : Nat) (p : Progress) (s : State (Listed σ)),
      s.Told (deliverAll svc.listed relay total index ms p s).2 := by
  induction ms with
  | nil => exact fun _ _ s => .refl s
  | cons m ms ih =>
    intro index p s
    have hdelivered := deliver_told svc relay m s
    unfold deliverAll
    split
    · exact note_told rfl
    · generalize deliver svc.listed relay m s = out at hdelivered ⊢
      obtain ⟨(e | d) | _, s'⟩ := out
      · exact hdelivered
      · exact hdelivered.trans (ih ..)
      · exact hdelivered.trans (note_told rfl)

theorem acknowledge_told (ids : List String) (s : State (Listed σ)) :
    s.Told (acknowledge svc.listed relay ids s).2 := by
  unfold acknowledge
  split
  · exact .refl s
  · exact settle_told rfl _ rfl

theorem afterLoop_told (total : Nat) (out : BatchEnd × State (Listed σ)) :
    out.2.Told (afterLoop svc.listed relay total out).2 := by
  obtain ⟨p | ⟨e, p⟩ | _, s⟩ := out
  · have hacked := acknowledge_told svc relay p.ackIds s
    change s.Told (finish svc.listed relay total p s).2
    unfold finish
    generalize acknowledge svc.listed relay p.ackIds s = out at hacked ⊢
    obtain ⟨_ | (cause | ⟨⟨⟩⟩), s'⟩ := out
    · exact hacked
    · exact hacked
    · exact hacked.trans (note_told rfl)
  · have hacked := acknowledge_told svc relay p.ackIds s
    change s.Told (breakOff svc.listed relay e p s).2
    unfold breakOff
    generalize acknowledge svc.listed relay p.ackIds s = out at hacked ⊢
    obtain ⟨_ | outcome, s'⟩ := out
    · exact hacked
    · cases p.ackIds.isEmpty
      · exact hacked.trans (note_told rfl)
      · exact hacked
  · exact .refl s

theorem process_told (batch : List Message) (s : State (Listed σ)) :
    s.Told (process svc.listed relay batch s).2 := by
  rw [process_eq]
  exact (deliverAll_told svc relay _ batch 0 {} { s with backoff := s.backoff.reset }).trans
    (afterLoop_told svc relay _ _)

/-- The journal tells of the wait before it is over. -/
theorem idle_told (s : State (Listed σ)) : s.Told (idle svc.listed s).2 := by
  let jitter := (svc.draw s.world.world).1
  let delay := s.backoff.miss.delay jitter
  let reply := svc.pause delay (svc.draw s.world.world).2
  have hidled : serviceCallsOf (.idled s.backoff.miss.consecutive delay :: notes reply.lines) =
      [.pause delay] :=
    congrArg (ServiceCall.pause delay :: ·) (serviceCallsOf_notes reply.lines)
  have htold : s.Told
      { s with
        backoff := s.backoff.miss
        stats := { s.stats with emptyPulls := s.stats.emptyPulls + 1 }
        world := ⟨reply.world, s.world.calls ++ [.pause delay]⟩
        journal := s.journal ++ [.idled s.backoff.miss.consecutive delay] ++ notes reply.lines } :=
    ⟨_, List.append_assoc .., congrArg (s.world.calls ++ ·) hidled.symm⟩
  unfold idle
  dsimp only
  split <;> exact htold

theorem step_told (s : State (Listed σ)) : s.Told (step svc.listed relay s).2 := by
  unfold step
  split
  · exact .refl s
  · have hpulled := settle_told (s := s) rfl (pullReply svc relay s.world.world)
      (e := .pulled relay.subscription relay.settings.batchSize relay.settings.returnImmediately
        (pullReply svc relay s.world.world).answer) rfl
    dsimp only
    split
    · exact hpulled
    · exact hpulled
    · exact hpulled.trans (idle_told svc _)
    · exact hpulled.trans (process_told svc relay _ _)

theorem steps_told (n : Nat) :
    ∀ s : State (Listed σ), s.Told (steps svc.listed relay n s).2 := by
  induction n with
  | zero => exact fun s => .refl s
  | succ n ih =>
    intro s
    have hstep := step_told svc relay s
    unfold steps
    generalize step svc.listed relay s = out at hstep ⊢
    obtain ⟨(_ | report | _) | e | _, s'⟩ := out
    · exact hstep.trans (ih s')
    · exact hstep.trans (ih s')
    · exact hstep.trans (note_told rfl)
    · exact hstep
    · exact hstep

end

/-! ## Steps and runs -/

/-- The state, with an empty list of calls. -/
def State.listed (s : State σ) : State (Listed σ) :=
  ⟨⟨s.world, []⟩, s.store, s.backoff, s.stats, s.journal⟩

/-- **The calls of a step** are those that its events tell of. -/
theorem step_calls (svc : Services σ) (relay : Relay) (s : State σ) :
    seenOut Listed.world (step svc.listed relay s.listed) = step svc relay s ∧
      (step svc.listed relay s.listed).2.world.calls =
        serviceCallsOf (stepEvents svc relay s) := by
  have hseen : step svc relay s = seenOut Listed.world (step svc.listed relay s.listed) :=
    step_over (listed_over svc) relay s.listed
  refine ⟨hseen.symm, ?_⟩
  obtain ⟨events, hjournal, hcalls⟩ := step_told svc relay s.listed
  have hevents : stepEvents svc relay s = events :=
    stepEvents_of_journal (by rw [hseen]; exact hjournal)
  rw [hevents, hcalls]
  rfl

/-- **The calls of a run** are those that its journal tells of. -/
theorem run_calls (svc : Services σ) (relay : Relay) (n : Nat) {s : State σ}
    (hnew : s.journal = []) :
    seenOut Listed.world (run svc.listed relay n s.listed) = run svc relay n s ∧
      (run svc.listed relay n s.listed).2.world.calls =
        serviceCallsOf (run svc relay n s).2.journal := by
  have hseen : run svc relay n s = seenOut Listed.world (run svc.listed relay n s.listed) :=
    run_over (listed_over svc) relay n s.listed
  refine ⟨hseen.symm, ?_⟩
  have htold : s.listed.Told (run svc.listed relay n s.listed).2 :=
    (note_told rfl).trans (steps_told svc relay n _)
  obtain ⟨events, hjournal, hcalls⟩ := htold
  have hevents : (run svc relay n s).2.journal = events := by
    rw [hseen]
    exact hjournal.trans (by rw [show s.listed.journal = [] from hnew, List.nil_append])
  rw [hevents, hcalls]
  rfl

end RowRelay.Relay
