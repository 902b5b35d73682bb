import RowRelay.Proofs.Relay.Stopping

/-!
# What a step comes to, whatever the policies

The calls of a step that pull and insert, with their answers (`callsOf`), tell what it tried
(`triedBy`). A `Tale` is all that a step came to as far as no policy decides it: these calls, the
messages tried before the step ended, and how it ended. The policies say what is made of it: the
letters that are written (`Tale.writes`), the ids that are acknowledged (`idsOf`), the counts of the
report (`reportOn`). `Tells svc relay s t`: this is what the step from `s` made of the tale `t`.

`Arrived` is `Reaches` with what was tried on the way. The lemmas behind it give the tale of a step
for each way in which its loop can stop.
-/

set_option autoImplicit false

namespace RowRelay.Relay

open BigQuery (TableRef Row InsertError)
open PubSub (Message QueueError)

variable {σ : Type}

/-! ## Calls that bring something -/

/-- A call whose answer decides how the relay goes on, with this answer. -/
inductive Call where
  | pull (subscription : String) (most : UInt32) (immediately : Bool)
      (answer : Awaited (Except QueueError (List Message)))
  | insert (table : TableRef) (row : Row) (retries : UInt32)
      (answer : Awaited (Except InsertError Unit))

namespace Call

def batch? : Call → Option (List Message)
  | .pull _ _ _ (.answered (.ok batch)) => some batch
  | _ => none

/-- The messages that the call brought. -/
def messages (c : Call) : List Message :=
  c.batch?.getD []

/-- The answer to an insert. -/
def insertAnswer? : Call → Option (Except InsertError Unit)
  | .insert _ _ _ (.answered answer) => some answer
  | _ => none

end Call

def Event.call? : Event → Option Call
  | .pulled subscription most immediately answer =>
    some (.pull subscription most immediately answer)
  | .inserted table row _ retries answer => some (.insert table row retries answer)
  | _ => none

/-- The pulls and inserts of a journal. -/
def callsOf (journal : List Event) : List Call :=
  journal.filterMap Event.call?

@[simp] theorem callsOf_append (j k : List Event) : callsOf (j ++ k) = callsOf j ++ callsOf k :=
  List.filterMap_append

@[simp] theorem callsOf_notes (lines : List Log.Line) : callsOf (notes lines) = [] := by
  simp [callsOf, notes, Event.call?]

theorem accountOf_batches (journal : List Event) :
    (accountOf journal).batches = (callsOf journal).filterMap Call.batch? := by
  simp only [accountOf, callsOf, List.filterMap_filterMap]
  congr 1
  funext e
  cases e with
  | pulled subscription most immediately answer => rcases answer with (_ | _) | _ <;> rfl
  | _ => rfl

section
variable (relay : Relay)

/-- The pull of a step. -/
def pullCall (answer : Awaited (Except QueueError (List Message))) : Call :=
  .pull relay.subscription relay.settings.batchSize relay.settings.returnImmediately answer

/-- The insert of a row. -/
def insertCall (row : Row) (answer : Awaited (Except InsertError Unit)) : Call :=
  .insert relay.table row relay.settings.insertRetries answer

/-- The insert that was tried. -/
def Attempt.call? : Attempt → Option Call
  | .undecodable _ => none
  | .tried row answer => some (insertCall relay row (.answered answer))

variable {relay} {kept : Bool}

/-- A pull that brought messages was answered with a batch. -/
theorem pulled_of_messages {answer : Awaited (Except QueueError (List Message))}
    (h : (pullCall relay answer).messages ≠ []) :
    ∃ batch, answer = .answered (.ok batch) ∧ batch ≠ [] := by
  rcases answer with (e | batch) | _
  · exact absurd rfl h
  · exact ⟨batch, rfl, h⟩
  · exact absurd rfl h

/-- What was tried pulled nothing. -/
theorem Attempt.batch?_call? {x : Attempt} {c : Call} (h : x.call? relay = some c) :
    c.batch? = none := by
  cases x with
  | undecodable cause => cases h
  | tried row answer =>
    cases h
    rfl

@[simp] theorem callsOf_pullEvents (answer : Awaited (Except QueueError (List Message)))
    (lines : List Log.Line) : callsOf (pullEvents relay answer lines) = [pullCall relay answer] :=
  congrArg (pullCall relay answer :: ·) (callsOf_notes lines)

@[simp] theorem callsOf_askEvents (m : Message) (row : Row) (key : BigQuery.IdempotencyKey)
    (answer : Awaited (Except InsertError Unit)) (lines : List Log.Line) :
    callsOf (askEvents relay m row key answer lines) = [insertCall relay row answer] :=
  congrArg (insertCall relay row answer :: ·) (callsOf_notes lines)

@[simp] theorem callsOf_failureEvents (h : Handling) :
    callsOf (failureEvents relay kept h) = [] := by
  unfold failureEvents giveUpEvents
  cases h.attempt.reason? with
  | none => rfl
  | some reason =>
    cases relay.settings.failurePolicy with
    | abort => cases h.attempt.isRejected <;> rfl
    | deadLetter => cases kept <;> rfl

theorem Delivered.calls {h : Handling} {events : List Event} (hd : Delivered relay kept h events) :
    callsOf events = (h.attempt.call? relay).toList := by
  cases hd with
  | undecodable time _ => exact callsOf_failureEvents _
  | tried key answer lines time _ =>
    rw [callsOf_append, callsOf_askEvents, callsOf_failureEvents]
    rfl

theorem DeliveredAll.calls {done : List Handling} {events : List Event}
    (h : DeliveredAll relay kept done events) :
    callsOf events = done.filterMap (·.attempt.call? relay) := by
  induction h with
  | nil => rfl
  | @cons x hs es fs hd _ ih =>
    rw [callsOf_append, hd.calls, ih, List.filterMap_cons]
    cases x.attempt.call? relay <;> rfl

theorem Acked.calls {ids : List String} {answer : Option (Except QueueError Unit)}
    {events : List Event} (h : Acked relay ids answer events) : callsOf events = [] := by
  cases h with
  | nothing => rfl
  | sent answer lines _ => exact callsOf_notes lines

end

@[simp] theorem callsOf_flushEvents (ids : List String) (outcome : Except QueueError Unit) :
    callsOf (flushEvents ids outcome) = [] := by
  unfold flushEvents
  by_cases h : ids.isEmpty = true
  · rw [if_pos h]
    rfl
  · rw [if_neg h]
    rfl

/-! ## What was tried -/

/-- What came of the messages that calls brought, as their answers say. -/
def triedBy (calls : List Call) : List (Message × Attempt) :=
  attempts (calls.flatMap Call.messages) (calls.filterMap Call.insertAnswer?)

/-- What was tried with messages handled. -/
def triedOf (done : List Handling) : List (Message × Attempt) :=
  done.map fun x => (x.message, x.attempt)

/-- The ids of what was tried that are acknowledged. -/
def idsOf (acks : AckPolicy) (tried : List (Message × Attempt)) : List String :=
  (tried.filter (·.2.isAdmitted acks)).map (·.1.ackId)

/-- Ids are sent with one call, unless there are none. -/
def oneCall (ids : List String) : List (List String) :=
  if ids = [] then [] else [ids]

/-- The letters of what was tried, but for their times. -/
def lettersOf (relay : Relay) (kept : Bool) (tried : List (Message × Attempt)) : List DeadLetter :=
  if relay.settings.failurePolicy = .deadLetter ∧ kept = true then
    tried.filterMap fun x => x.2.reason?.map (DeadLetter.ofMessage x.1 · 0)
  else []

/-- The report on a batch all of which was tried. -/
def reportOn (acks : AckPolicy) (tried : List (Message × Attempt)) : BatchReport where
  received := tried.length
  inserted := tried.countP (·.2.isInserted)
  failed := tried.countP (!·.2.isInserted)
  acknowledged := (idsOf acks tried).length

theorem reportOf_eq (relay : Relay) (done : List Handling) :
    reportOf relay done = reportOn relay.settings.ackPolicy (triedOf done) := by
  have hids : admittedIds relay.settings.ackPolicy done =
      idsOf relay.settings.ackPolicy (triedOf done) := admittedIds_handled ..
  simp only [reportOf, reportOn, hids, triedOf, List.length_map, List.countP_map,
    Function.comp_def]

theorem idsOf_afterAttempt (tried : List (Message × Attempt)) :
    idsOf .afterAttempt tried = tried.map (·.1.ackId) := by
  simp [idsOf, Attempt.isAdmitted]

theorem idsOf_afterInsert (tried : List (Message × Attempt)) :
    idsOf .afterInsert tried = (tried.filter (·.2.isInserted)).map (·.1.ackId) := by
  simp [idsOf, Attempt.isAdmitted]

/-! ## Tales -/

/-- How a step ended. -/
inductive Ending where
  | stopped
  | idle
  | failed (e : RelayError)
  /-- A message stopped the relay with an error, its own or that of the disk. -/
  | broken (h : Handling) (e : RelayError)
  | processed

/-- What was written of the message that stopped the relay. -/
def Ending.writes (relay : Relay) (kept : Bool) : Ending → List Store.Write
  | .broken h _ => (h.write? relay kept).toList
  | _ => []

/-- What a step came to, whatever the policies. -/
structure Tale where
  calls : List Call
  /-- The messages behind which the step went on. -/
  tried : List (Message × Attempt)
  ending : Ending

namespace Tale

/-- What the relay may acknowledge: nothing of a step that stops on request. -/
def closed (t : Tale) : List (Message × Attempt) :=
  match t.ending with
  | .stopped => []
  | _ => t.tried

def stepEnd (acks : AckPolicy) (t : Tale) : StepEnd :=
  match t.ending with
  | .stopped => .done .cancelled
  | .idle => .done .idle
  | .failed e | .broken _ e => .failed e
  | .processed => .done (.processed (reportOn acks t.tried))

/-- The letters written, but for their times: one of each failure behind which the step went on, and
that of the message at which it broke off. -/
def writes (relay : Relay) (kept : Bool) (t : Tale) : List Store.Write :=
  (lettersOf relay kept t.tried).map (⟨·, none⟩) ++ t.ending.writes relay kept

/-- The tale of a step that tried the first messages of a batch, and made some calls more. -/
def ofBatch (relay : Relay) (batch : List Message) (tried : List (Message × Attempt))
    (more : List Call) (ending : Ending) : Tale where
  calls := pullCall relay (.answered (.ok batch)) ::
    (tried.filterMap (·.2.call? relay) ++ more)
  tried := tried
  ending := ending

/-- The last attempt makes the last call. -/
theorem ofBatch_concat (relay : Relay) (batch : List Message) (tried : List (Message × Attempt))
    (m : Message) (x : Attempt) (ending : Ending) :
    (ofBatch relay batch (tried ++ [(m, x)]) [] ending).calls =
      (ofBatch relay batch tried (x.call? relay).toList ending).calls := by
  simp only [ofBatch, List.append_nil, List.filterMap_append, List.filterMap_cons]
  cases x.call? relay <;> rfl

theorem batches_ofBatch (relay : Relay) (batch : List Message) (tried : List (Message × Attempt))
    (x : Attempt) (ending : Ending) :
    (ofBatch relay batch tried (x.call? relay).toList ending).calls.filterMap Call.batch? =
      [batch] := by
  have hnone : ∀ c ∈ tried.filterMap (·.2.call? relay) ++ (x.call? relay).toList,
      c.batch? = none := by
    intro c hc
    rcases List.mem_append.1 hc with hc | hc
    · obtain ⟨y, -, hy⟩ := List.mem_filterMap.1 hc
      exact Attempt.batch?_call? hy
    · exact Attempt.batch?_call? (Option.mem_toList.1 hc)
  rw [ofBatch, List.filterMap_cons_some (by rfl), List.filterMap_eq_nil_iff.2 hnone]

end Tale

/-- The step tried what the tale says and ended so, and the policies of the relay were followed. -/
structure Tells (svc : Services σ) (relay : Relay) (s : State σ) (t : Tale) : Prop where
  ended : (step svc relay s).1 = t.stepEnd relay.settings.ackPolicy
  calls : callsOf (stepEvents svc relay s) = t.calls
  tried : t.tried <+: triedBy t.calls
  /-- A step that was not stopped tried all that its calls brought. -/
  whole : t.ending = .idle ∨ t.ending = .processed → triedBy t.calls = t.tried
  survived : ∀ x ∈ t.tried, ∃ d, x.2.verdict relay.settings.failurePolicy x.1 = .ok d
  fatal : ∀ h e, t.ending = .broken h e → h.verdict relay s.store.isSome = .error e
  writes : (accountOf (stepEvents svc relay s)).writes.map Store.Write.undated =
    t.writes relay s.store.isSome
  ackCalls : (accountOf (stepEvents svc relay s)).ackCalls =
    oneCall (idsOf relay.settings.ackPolicy t.closed)

section
variable {svc : Services σ} {relay : Relay} {s : State σ}

/-- What the disk failed to keep is no letter: those recorded are the letters of what was tried. -/
theorem Tells.letters {t : Tale} (h : Tells svc relay s t) :
    (accountOf (stepEvents svc relay s)).letters.map DeadLetter.undated =
      lettersOf relay s.store.isSome t.tried := by
  have hlast : (t.ending.writes relay s.store.isSome).filterMap Store.Write.kept? = [] := by
    cases he : t.ending with
    | broken b e =>
      rw [Ending.writes]
      rcases Handling.verdict_eq_error (h.fatal b e he) with
        ⟨hp, -⟩ | ⟨reason, fault, hk, hf, -⟩
      · rw [Handling.write?, Attempt.keptReason?_abort hp]
        rfl
      · rw [Handling.write?, hk, hf]
        rfl
    | _ => rfl
  rw [Account.letters_undated, h.writes, Tale.writes, List.filterMap_append, hlast,
    List.append_nil, List.filterMap_map]
  exact List.filterMap_some

/-! ## Steps without a batch -/

/-- A step that pulled no message has tried nothing. -/
theorem tells_of_pull {answer : Awaited (Except QueueError (List Message))} {ending : Ending}
    (lines : List Log.Line) (tail : List Event)
    (hevents : stepEvents svc relay s = pullEvents relay answer lines ++ tail)
    (hended : (step svc relay s).1 = (Tale.mk [] [] ending).stepEnd relay.settings.ackPolicy)
    (hnone : (pullCall relay answer).messages = []) (htail : accountOf tail = {})
    (hcalls : callsOf tail = []) (hending : ∀ h e, ending ≠ .broken h e) :
    Tells svc relay s ⟨[pullCall relay answer], [], ending⟩ := by
  have htried : triedBy [pullCall relay answer] = [] := by
    rw [triedBy, List.flatMap_singleton, hnone]
    rfl
  have haccount : accountOf (stepEvents svc relay s) =
      accountOf (pullEvents relay answer lines) := by
    rw [hevents, accountOf_append, htail, Account.append_empty]
  refine
    { ended := hended
      calls := ?_
      tried := List.nil_prefix
      whole := fun _ => htried
      survived := by simp
      fatal := fun h e he => absurd he (hending h e)
      writes := ?_
      ackCalls := ?_ }
  · rw [hevents, callsOf_append, callsOf_pullEvents, hcalls]
    rfl
  · rw [haccount, pullEvents_account]
    cases ending with
    | broken h e => exact absurd rfl (hending h e)
    | _ => simp [Tale.writes, lettersOf, Ending.writes]
  · rw [haccount, pullEvents_account]
    cases ending <;> rfl

theorem tells_stopped (hseen : svc.cancelled s.world = true) :
    Tells svc relay s ⟨[], [], .stopped⟩ := by
  have hstep : step svc relay s = (.done .cancelled, s) := if_pos hseen
  have hevents : stepEvents svc relay s = [] := by
    apply stepEvents_of_journal
    rw [hstep, List.append_nil]
  refine
    { ended := by rw [hstep]; rfl
      calls := by rw [hevents]; rfl
      tried := List.nil_prefix
      whole := by simp
      survived := by simp
      fatal := by simp
      writes := ?_
      ackCalls := by rw [hevents]; rfl }
  rw [hevents]
  simp [Tale.writes, lettersOf, Ending.writes]

theorem tells_pulled {answer : Awaited (Except QueueError (List Message))} (ending : Ending)
    (hanswer : (pullReply svc relay s.world).answer = answer)
    (hstep : step svc relay s =
      ((Tale.mk [] [] ending).stepEnd relay.settings.ackPolicy, pulledState svc relay s))
    (hnone : (pullCall relay answer).messages = []) (hending : ∀ h e, ending ≠ .broken h e) :
    Tells svc relay s ⟨[pullCall relay answer], [], ending⟩ ∧
      (step svc relay s).2.world = (pullReply svc relay s.world).world := by
  have hw := pulledState_wrote svc relay s
  rw [hanswer] at hw
  refine ⟨tells_of_pull (pullReply svc relay s.world).lines [] ?_ ?_ hnone rfl rfl hending, ?_⟩
  · apply stepEvents_of_journal
    rw [hstep, List.append_nil]
    exact hw.journal
  · rw [hstep]
  · rw [hstep]
    rfl

/-- What the wait brings that follows so many misses. -/
def waitReply (svc : Services σ) (backoff : Backoff) (world : σ) : Reply σ (Awaited Unit) :=
  svc.pause (backoff.delay (svc.draw world).1) (svc.draw world).2

/-- How a step ends that waited. -/
def Ending.ofWait : Awaited Unit → Ending
  | .answered () => .idle
  | .abandoned => .stopped

theorem idle_waited (svc : Services σ) (s : State σ) (acks : AckPolicy) :
    (idle svc s).1 =
        (Tale.mk [] [] (.ofWait (waitReply svc s.backoff.miss s.world).answer)).stepEnd acks ∧
      (idle svc s).2.world = (waitReply svc s.backoff.miss s.world).world := by
  unfold idle waitReply
  dsimp only [State.note]
  cases (svc.pause (s.backoff.miss.delay (svc.draw s.world).1) (svc.draw s.world).2).answer with
  | answered u => exact ⟨rfl, rfl⟩
  | abandoned => exact ⟨rfl, rfl⟩

theorem tells_idle (hgoing : svc.cancelled s.world = false)
    (hanswer : (pullReply svc relay s.world).answer = .answered (.ok [])) :
    Tells svc relay s ⟨[pullCall relay (.answered (.ok []))], [],
        .ofWait (waitReply svc s.backoff.miss (pullReply svc relay s.world).world).answer⟩ ∧
      (step svc relay s).2.world =
        (waitReply svc s.backoff.miss (pullReply svc relay s.world).world).world := by
  have hstep : step svc relay s = _ := step_pulled hgoing
  have hw := pulledState_wrote svc relay s
  rw [hanswer] at hstep hw
  dsimp only at hstep
  obtain ⟨hended, hworld⟩ :=
    idle_waited svc (pulledState svc relay s) relay.settings.ackPolicy
  obtain ⟨outcome, count, delay, lines, -, -, hw'⟩ := idle_wrote svc (pulledState svc relay s)
  refine ⟨tells_of_pull (pullReply svc relay s.world).lines (.idled count delay :: notes lines)
    ?_ ?_ rfl ?_ ?_ ?_, ?_⟩
  · apply stepEvents_of_journal
    rw [hstep, hw'.journal, ← List.append_assoc]
    exact congrArg (· ++ _) hw.journal
  · rw [hstep]
    exact hended
  · exact (accountOf_cons _ _).trans (accountOf_notes lines)
  · exact callsOf_notes lines
  · intro h e
    cases (waitReply svc s.backoff.miss (pullReply svc relay s.world).world).answer <;> nofun
  · rw [hstep]
    exact hworld

/-! ## Where a step arrived -/

variable (svc relay s) in
/-- A step comes to a position of its batch behind what it tried. -/
structure Arrived (batch : List Message) (tried : List (Message × Attempt)) (p : Progress)
    (s₁ : State σ) : Prop where
  reached : Reaches svc relay s batch tried.length p s₁
  handled : ∃ done es lines, triedOf done = tried ∧
    Handled relay s.store.isSome batch done (batch.drop tried.length) es ∧
    p = ({} : Progress).after relay.settings.ackPolicy done ∧
    ({ s with backoff := s.backoff.reset } : State σ).Wrote
      (pullEvents relay (.answered (.ok batch)) lines ++ es) s₁

variable (svc relay) in
/-- The delivery of a message came to an attempt, and to a fault of the disk if that was to keep the
message and failed. -/
structure Judged (m : Message) (s : State σ) (x : Attempt) (fault? : Option Store.RecordFault) :
    Prop where
  answered : (deliver svc relay m s).1 =
    .answered (Handling.verdict relay s.store.isSome ⟨m, x, 0, fault?⟩)
  wrote : ∃ time events, Delivered relay s.store.isSome ⟨m, x, time, fault?⟩ events ∧
    s.Wrote events (deliver svc relay m s).2
  faultless : x.keptReason? relay s.store.isSome = none → fault? = none

variable (svc relay) in
/-- The insert of a message was given up. -/
structure GivenUp (m : Message) (s : State σ) (row : Row) : Prop where
  answered : (deliver svc relay m s).1 = .abandoned
  wrote : ∃ key lines, s.Wrote (askEvents relay m row key .abandoned lines)
    (deliver svc relay m s).2

/-! ### What a delivery comes to -/

theorem judged_undecodable (svc : Services σ) (relay : Relay) (s : State σ) {m : Message}
    {cause : BigQuery.DecodeError} (hrow : BigQuery.decodeRow m = .error cause) :
    Judged svc relay m s (.undecodable cause)
        (recordReply svc relay s.store.isSome m (.undecodable cause) s.world).1 ∧
      (deliver svc relay m s).2.world =
        (recordReply svc relay s.store.isSome m (.undecodable cause) s.world).2 := by
  obtain ⟨out, hd, hverdict, hworld, hwrote⟩ := deliver_undecodable svc relay s hrow
  have hout : (deliver svc relay m s).2 = out.2 := by rw [hd]
  rw [← hout] at hworld hwrote
  refine ⟨?_, hworld⟩
  exact
    { answered := by rw [hd]; exact congrArg _ hverdict
      wrote := ⟨_, _, .undecodable _ _ hrow, hwrote⟩
      faultless := fun hk => by rw [recordReply_faultless hk] }

theorem judged_decoded (svc : Services σ) (relay : Relay) (s : State σ) {m : Message} {row : Row}
    {answer : Except InsertError Unit} (hrow : BigQuery.decodeRow m = .ok row)
    (hanswer : (insertReply svc relay row s.world).answer = .answered answer) :
    Judged svc relay m s (.tried row answer) (recordReply svc relay s.store.isSome m
        (.tried row answer) (insertReply svc relay row s.world).world).1 ∧
      (deliver svc relay m s).2.world = (recordReply svc relay s.store.isSome m
        (.tried row answer) (insertReply svc relay row s.world).world).2 := by
  obtain ⟨s₁, hask, ⟨hgiven, -⟩ | ⟨answer', out, hgiven, hd, hc⟩⟩ :=
    deliver_decoded svc relay s hrow
  · cases hanswer.symm.trans hgiven
  obtain rfl := Awaited.answered.inj (hanswer.symm.trans hgiven)
  have hw := hask.wrote
  rw [hanswer] at hw
  obtain ⟨hverdict, hworld, hwrote⟩ := hc
  rw [hw.kept, hask.world] at hverdict hworld hwrote
  have hout : (deliver svc relay m s).2 = out.2 := by rw [hd]
  rw [← hout] at hworld hwrote
  refine ⟨?_, hworld⟩
  exact
    { answered := by rw [hd]; exact congrArg _ hverdict
      wrote := ⟨_, _, .tried _ _ _ _ _ hrow, hw.trans hwrote⟩
      faultless := fun hk => by rw [recordReply_faultless hk] }

theorem givenUp_decoded (svc : Services σ) (relay : Relay) (s : State σ) {m : Message} {row : Row}
    (hrow : BigQuery.decodeRow m = .ok row)
    (hanswer : (insertReply svc relay row s.world).answer = .abandoned) :
    GivenUp svc relay m s row ∧
      (deliver svc relay m s).2.world = (insertReply svc relay row s.world).world := by
  obtain ⟨s₁, hask, ⟨hgiven, hd⟩ | ⟨answer, out, hgiven, -⟩⟩ := deliver_decoded svc relay s hrow
  · have hw := hask.wrote
    rw [hanswer] at hw
    have hout : (deliver svc relay m s).2 = s₁ := by rw [hd]
    rw [hout]
    exact ⟨⟨by rw [hd], _, _, hout ▸ hw⟩, hask.world⟩
  · cases hanswer.symm.trans hgiven

section
variable {batch : List Message} {tried : List (Message × Attempt)} {p : Progress}
  {s₁ : State σ} {m : Message} {x : Attempt} {fault? : Option Store.RecordFault}

theorem Judged.verdict_eq {r : Except RelayError Delivery} {s₂ : State σ}
    (hx : Judged svc relay m s x fault?) (hd : deliver svc relay m s = (.answered r, s₂)) :
    Handling.verdict relay s.store.isSome ⟨m, x, 0, fault?⟩ = r := by
  have hanswered := hx.answered
  rw [hd] at hanswered
  exact (Awaited.answered.inj hanswered).symm

theorem Judged.not_abandoned {s₂ : State σ} (hx : Judged svc relay m s x fault?) :
    deliver svc relay m s ≠ (.abandoned, s₂) := by
  intro hd
  have hanswered := hx.answered
  rw [hd] at hanswered
  cases hanswered

theorem GivenUp.not_answered {row : Row} {r : Except RelayError Delivery} {s₂ : State σ}
    (hrow : GivenUp svc relay m s row) : deliver svc relay m s ≠ (.answered r, s₂) := by
  intro hd
  have hanswered := hrow.answered
  rw [hd] at hanswered
  cases hanswered

theorem arrived_pulled (hgoing : svc.cancelled s.world = false) (hne : batch ≠ [])
    (hanswer : (pullReply svc relay s.world).answer = .answered (.ok batch)) :
    Arrived svc relay s batch [] {}
      { pulledState svc relay s with backoff := s.backoff.reset } := by
  have hw := pulledState_wrote svc relay s
  rw [hanswer] at hw
  refine ⟨.pulled hgoing hne hanswer, [], [], (pullReply svc relay s.world).lines, rfl,
    ⟨rfl, by simp, .nil⟩, (Progress.after_nil ..).symm, ?_⟩
  rw [List.append_nil]
  exact ⟨hw.journal, hw.store, hw.stats, rfl⟩

theorem Arrived.next {d : Delivery} (h : Arrived svc relay s batch tried p s₁)
    (hm : batch[tried.length]? = some m) (hgoing : svc.cancelled s₁.world = false)
    (hx : Judged svc relay m s₁ x fault?)
    (hv : Handling.verdict relay s₁.store.isSome ⟨m, x, 0, fault?⟩ = .ok d) :
    Arrived svc relay s batch (tried ++ [(m, x)]) (p.count relay.settings.ackPolicy m d)
      (deliver svc relay m s₁).2 := by
  obtain ⟨done, es, lines, rfl, hh, hp, hw⟩ := h.handled
  obtain ⟨time, events, hd, hw'⟩ := hx.wrote
  rw [drop_of_getElem? hm] at hh
  have hdeliver : deliver svc relay m s₁ = (.answered (.ok d), (deliver svc relay m s₁).2) := by
    rw [← hv, ← hx.answered]
  obtain ⟨hh', hp', hw''⟩ := hh.next (h := ⟨m, x, time, fault?⟩) hp hw hd
    hv hw'
  have hlen : (triedOf done ++ [(m, x)]).length = (triedOf done).length + 1 := by simp
  rw [← hlen] at hh'
  refine ⟨?_, _, _, lines, by simp [triedOf], hh', hp', hw''⟩
  rw [hlen]
  exact .next h.reached hm hgoing hdeliver

/-! ## Steps with a batch -/

theorem Handling.write?_undated {kept : Bool} (h : Handling) :
    (h.write? relay kept).map Store.Write.undated =
      Handling.write? relay kept { h with time := 0 } := by
  rw [write?, Option.map_map]
  rfl

theorem triedBy_ofBatch (relay : Relay) {done : List Handling} (rest : List Message)
    (hat : ∀ x ∈ done, x.attempt.At x.message) (more : List Call)
    (hmore : more.flatMap Call.messages = []) (ending : Ending) :
    triedBy (Tale.ofBatch relay (done.map (·.message) ++ rest) (triedOf done) more ending).calls =
      triedOf done ++ attempts rest (more.filterMap Call.insertAnswer?) := by
  have hmessages : ((triedOf done).filterMap (·.2.call? relay)).flatMap Call.messages = [] := by
    rw [List.flatMap_eq_nil_iff]
    intro c hc
    obtain ⟨x, -, hx⟩ := List.mem_filterMap.1 hc
    rw [Call.messages, Attempt.batch?_call? hx]
    rfl
  have hanswers : ((triedOf done).filterMap (·.2.call? relay)).filterMap Call.insertAnswer? =
      done.filterMap (·.attempt.answer?) := by
    rw [List.filterMap_filterMap, triedOf, List.filterMap_map]
    congr 1
    funext x
    rcases hx : x.attempt with cause | ⟨row, answer⟩ <;>
      simp [hx, Attempt.call?, Attempt.answer?, insertCall, Call.insertAnswer?]
  rw [triedBy, Tale.ofBatch, List.flatMap_cons, List.flatMap_append, hmessages, hmore,
    List.filterMap_cons_none (by rfl), List.filterMap_append, hanswers]
  simpa [pullCall, Call.messages, Call.batch?, triedOf] using attempts_append hat rest _

/-- The calls of a step tell what it tried on its way. -/
theorem Arrived.triedBy_eq (h : Arrived svc relay s batch tried p s₁) (ending : Ending) :
    triedBy (Tale.ofBatch relay batch tried [] ending).calls =
      tried ++ attempts (batch.drop tried.length) [] := by
  obtain ⟨done, es, lines, rfl, hh, -⟩ := h.handled
  have htried := triedBy_ofBatch relay (batch.drop (triedOf done).length) hh.delivered.at [] rfl
    ending
  rwa [← hh.batch_eq] at htried

/-- The tale of a step that pulled a batch is that of the messages handled and of the end. -/
theorem tells_of_handled {done : List Handling} {rest : List Message} {es : List Event}
    {more : List Call} {ending : Ending} (lines : List Log.Line) (last : List Event)
    (hh : Handled relay s.store.isSome batch done rest es)
    (hevents : stepEvents svc relay s =
      pullEvents relay (.answered (.ok batch)) lines ++ es ++ last)
    (hended : (step svc relay s).1 =
      (Tale.mk [] (triedOf done) ending).stepEnd relay.settings.ackPolicy)
    (hwhole : ending = .idle ∨ ending = .processed → rest = [])
    (hmore : more.flatMap Call.messages = []) (hcalls : callsOf last = more)
    (hfatal : ∀ h e, ending = .broken h e → h.verdict relay s.store.isSome = .error e)
    (hwrites : (accountOf last).writes.map Store.Write.undated =
      ending.writes relay s.store.isSome)
    (hacks : (accountOf last).ackCalls = oneCall
      (idsOf relay.settings.ackPolicy (Tale.mk [] (triedOf done) ending).closed)) :
    Tells svc relay s (.ofBatch relay batch (triedOf done) more ending) := by
  have hat := hh.delivered.at
  have haccount : accountOf (stepEvents svc relay s) =
      { batches := [batch] } ++ accountAll relay s.store.isSome done ++ accountOf last := by
    rw [hevents, accountOf_append, accountOf_append, pullEvents_account, hh.delivered.account]
  have htried := triedBy_ofBatch relay rest hat more hmore ending
  rw [← hh.batch_eq] at htried
  refine
    { ended := hended
      calls := ?_
      tried := ⟨_, htried.symm⟩
      whole := fun he => ?_
      survived := fun y hy => ?_
      fatal := hfatal
      writes := ?_
      ackCalls := ?_ }
  · rw [hevents, callsOf_append, callsOf_append, callsOf_pullEvents, hh.delivered.calls, hcalls]
    simp [Tale.ofBatch, triedOf, List.filterMap_map]
  · rw [htried, hwhole he]
    exact List.append_nil _
  · obtain ⟨z, hz, rfl⟩ := List.mem_map.1 hy
    obtain ⟨d, hd⟩ := hh.survived z hz
    exact ⟨d, (Handling.verdict_eq_ok.1 hd).2⟩
  · have hall : (accountOf (stepEvents svc relay s)).writes =
        (accountAll relay s.store.isSome done).writes ++ (accountOf last).writes := by
      rw [haccount]
      rfl
    rw [hall, List.map_append, hwrites, accountAll_writes relay _ hh.survived]
    rfl
  · have hall : (accountOf (stepEvents svc relay s)).ackCalls = (accountOf last).ackCalls := by
      rw [haccount]
      simp [accountAll]
    exact hall.trans hacks

theorem Progress.after_idsOf (acks : AckPolicy) (done : List Handling) :
    (({} : Progress).after acks done).ackIds = idsOf acks (triedOf done) := by
  rw [Progress.after_ackIds, admittedIds_handled]
  rfl

/-- The loop went through the batch, and what it took is acknowledged. -/
theorem Arrived.processed (h : Arrived svc relay s batch tried p s₁)
    (hlen : tried.length = batch.length)
    (hack : (acknowledge svc relay p.ackIds s₁).1 = some (.ok ())) :
    Tells svc relay s (.ofBatch relay batch tried [] .processed) ∧
      (step svc relay s).2.world = (acknowledge svc relay p.ackIds s₁).2.world := by
  obtain ⟨done, es, lines, rfl, hh, hp, hw⟩ := h.handled
  have hrest : batch.drop (triedOf done).length = [] :=
    List.drop_eq_nil_iff.2 (Nat.le_of_eq hlen.symm)
  have hstep := h.reached.step_eq
  rw [hrest] at hh hstep
  obtain ⟨acked, hacked, hw'⟩ := acknowledge_wrote svc relay p.ackIds s₁
  have hfinish : step svc relay s = finish svc relay batch.length p s₁ := hstep
  have hreport : (⟨batch.length, p.inserted, p.failed, p.ackIds.length⟩ : BatchReport) =
      reportOn relay.settings.ackPolicy (triedOf done) := by
    rw [← reportOf_eq, hp, Progress.after_ackIds]
    exact reportOf_progress relay (by simp [hh.batch_eq])
  unfold finish at hfinish
  rw [hreport] at hfinish
  generalize acknowledge svc relay p.ackIds s₁ = out at hack hacked hw' hfinish ⊢
  obtain ⟨answer, s₂⟩ := out
  dsimp only at hack
  subst hack
  rw [hp, Progress.after_idsOf] at hacked
  have hnothing : accountOf [.finished (reportOn relay.settings.ackPolicy (triedOf done))] = {} :=
    rfl
  refine ⟨tells_of_handled lines
    (acked ++ [.finished (reportOn relay.settings.ackPolicy (triedOf done))])
    hh ?_ ?_ (fun _ => rfl) rfl ?_ (by simp) ?_ ?_, ?_⟩
  · apply stepEvents_of_journal
    rw [hfinish, ← List.append_assoc, ← List.append_assoc]
    have hjournal := (hw.trans hw').journal
    rw [← List.append_assoc] at hjournal
    exact congrArg (· ++ [_]) hjournal
  · rw [hfinish]
    rfl
  · rw [callsOf_append, hacked.calls]
    rfl
  · rw [accountOf_append, hacked.account, hnothing]
    rfl
  · rw [accountOf_append, hacked.account, hnothing]
    exact List.append_nil _
  · rw [hfinish]
    rfl

theorem Arrived.seen (h : Arrived svc relay s batch tried p s₁) (hlt : tried.length < batch.length)
    (hseen : svc.cancelled s₁.world = true) :
    Tells svc relay s (.ofBatch relay batch tried [] .stopped) ∧
      (step svc relay s).2.world = s₁.world := by
  obtain ⟨done, es, lines, rfl, hh, -, hw⟩ := h.handled
  have hstep := h.reached.seen hlt hseen
  refine ⟨tells_of_handled lines [.stoppedBefore (triedOf done).length batch.length]
    hh ?_ ?_ (by simp) rfl rfl (by simp) rfl rfl, ?_⟩
  · apply stepEvents_of_journal
    rw [hstep]
    exact (hw.trans (s₁.note_wrote rfl)).journal
  · rw [hstep]
    rfl
  · rw [hstep]
    rfl

theorem Arrived.lost {row : Row} (h : Arrived svc relay s batch tried p s₁)
    (hm : batch[tried.length]? = some m) (hgoing : svc.cancelled s₁.world = false)
    (hrow : GivenUp svc relay m s₁ row) :
    Tells svc relay s
        (.ofBatch relay batch tried [insertCall relay row .abandoned] .stopped) ∧
      (step svc relay s).2.world = (deliver svc relay m s₁).2.world := by
  obtain ⟨done, es, lines, rfl, hh, -, hw⟩ := h.handled
  obtain ⟨key, lines', hw'⟩ := hrow.wrote
  have hstep := h.reached.lost hm hgoing
    (show deliver svc relay m s₁ = (.abandoned, (deliver svc relay m s₁).2) by
      rw [← hrow.answered])
  have hnothing : accountOf [.stoppedDuring ((triedOf done).length + 1) batch.length] = {} := rfl
  refine ⟨tells_of_handled lines (askEvents relay m row key .abandoned lines' ++
      [.stoppedDuring ((triedOf done).length + 1) batch.length])
    hh ?_ ?_ (by simp) rfl ?_ (by simp) ?_ ?_, ?_⟩
  · apply stepEvents_of_journal
    rw [hstep]
    exact (hw.trans (hw'.trans ((deliver svc relay m s₁).2.note_wrote rfl))).journal
  · rw [hstep]
    rfl
  · rw [callsOf_append, callsOf_askEvents]
    rfl
  · rw [accountOf_append, askEvents_account, hnothing]
    rfl
  · rw [accountOf_append, askEvents_account, hnothing]
    rfl
  · rw [hstep]
    rfl

/-- A message is fatal, and what was taken before it is acknowledged. -/
theorem Arrived.broken {e : RelayError} (h : Arrived svc relay s batch tried p s₁)
    (hm : batch[tried.length]? = some m) (hgoing : svc.cancelled s₁.world = false)
    (hx : Judged svc relay m s₁ x fault?)
    (hv : Handling.verdict relay s₁.store.isSome ⟨m, x, 0, fault?⟩ = .error e)
    (hack : (acknowledge svc relay p.ackIds (deliver svc relay m s₁).2).1 = some (.ok ())) :
    Tells svc relay s (.ofBatch relay batch tried (x.call? relay).toList
        (.broken ⟨m, x, 0, fault?⟩ e)) ∧
      (step svc relay s).2.world =
        (acknowledge svc relay p.ackIds (deliver svc relay m s₁).2).2.world := by
  obtain ⟨done, es, lines, rfl, hh, hp, hw⟩ := h.handled
  obtain ⟨time, events, hd, hw'⟩ := hx.wrote
  have hdeliver : deliver svc relay m s₁ =
      (.answered (.error e), (deliver svc relay m s₁).2) := by
    rw [← hv, ← hx.answered]
  have hstep := h.reached.step_eq
  rw [drop_of_getElem? hm, deliverAll, if_neg (by simp [hgoing]), hdeliver] at hstep
  obtain ⟨acked, hacked, hw''⟩ := acknowledge_wrote svc relay p.ackIds (deliver svc relay m s₁).2
  have hbreak : step svc relay s = breakOff svc relay e p (deliver svc relay m s₁).2 := hstep
  unfold breakOff at hbreak
  generalize acknowledge svc relay p.ackIds (deliver svc relay m s₁).2 = out
    at hack hacked hw'' hbreak ⊢
  obtain ⟨answer, s₂⟩ := out
  dsimp only at hack
  subst hack
  have hflush := flush_wrote p.ackIds (.ok ()) s₂
  rw [hp, Progress.after_idsOf] at hacked
  rw [hw.kept] at hd hv
  have hwrites : (accountOf events).writes.map Store.Write.undated =
      (Handling.write? relay s.store.isSome ⟨m, x, 0, fault?⟩).toList := by
    rw [hd.account, Handling.account, ← Option.toList_map, Handling.write?_undated]
  refine ⟨tells_of_handled lines (events ++ (acked ++ flushEvents p.ackIds (.ok ())))
    hh ?_ ?_ (by simp) ?_ ?_ ?_ ?_ ?_, ?_⟩
  · apply stepEvents_of_journal
    rw [hbreak]
    exact (hw.trans (hw'.trans (hw''.trans hflush))).journal
  · rw [hbreak]
    rfl
  · rcases x with cause | ⟨row, answer⟩ <;> rfl
  · rw [callsOf_append, callsOf_append, hacked.calls, callsOf_flushEvents, hd.calls]
    exact List.append_nil _
  · intro h' e' he
    cases he
    exact hv
  · rw [accountOf_append, accountOf_append, hacked.account, flushEvents_account]
    simpa [Ending.writes] using hwrites
  · rw [accountOf_append, accountOf_append, hacked.account, flushEvents_account, hd.account]
    exact List.append_nil _
  · rw [hbreak]
    change (if _ then s₂ else s₂.note _).world = s₂.world
    by_cases hids : p.ackIds.isEmpty = true
    · rw [if_pos hids]
    · rw [if_neg hids]
      rfl

end

end

end RowRelay.Relay
