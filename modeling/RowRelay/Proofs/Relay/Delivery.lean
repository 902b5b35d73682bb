import RowRelay.Proofs.Relay.Journal

/-!
# What a delivery leaves behind

An `Attempt` is all that a message's fate hangs on: whether a row could be read in it, and what its
insert was answered. `Attempt.verdict` says what the relay makes of it under each failure policy,
`Attempt.reason?` why a message is not in the table.

A message that is given up goes on a disk that may fail. `Handling` is an attempt with what the disk
made of it, and `Handling.verdict` what the relay makes of both: an error of the store stops it as a
fatal attempt does.

`Delivered relay kept h events`: the handling `h` writes exactly `events`; `kept` says whether there
is a store for letters. `deliver_wrote` is the one statement about `deliver`: what it writes is that
of a handling, with the verdict on it as the answer, or that of an insert which was given up. What
the journal tells of a delivery is read off its handling (`Delivered.account`).
-/

set_option autoImplicit false

namespace RowRelay.Relay

open BigQuery (TableRef Row IdempotencyKey InsertError DecodeError)
open PubSub (Message)

/-! ## Attempts -/

/-- What came of trying to move a message. -/
inductive Attempt where
  /-- No row could be read. -/
  | undecodable (cause : DecodeError)
  /-- The insert of the row was answered. -/
  | tried (row : Row) (answer : Except InsertError Unit)

namespace Attempt

/-- What comes of a message whose insert, if there is one, is answered so. -/
def of (m : Message) (answer : Except InsertError Unit) : Attempt :=
  match BigQuery.decodeRow m with
  | .error cause => .undecodable cause
  | .ok row => .tried row answer

/-- The attempt is one at this message. -/
def At (m : Message) : Attempt → Prop
  | .undecodable cause => BigQuery.decodeRow m = .error cause
  | .tried row _ => BigQuery.decodeRow m = .ok row

def row? : Attempt → Option Row
  | .undecodable _ => none
  | .tried row _ => some row

def answer? : Attempt → Option (Except InsertError Unit)
  | .undecodable _ => none
  | .tried _ answer => some answer

def isInserted : Attempt → Bool
  | .tried _ (.ok ()) => true
  | _ => false

/-- Whether the row was refused and nothing else went wrong. -/
def isRejected : Attempt → Bool
  | .tried _ (.error cause) => cause.isRowLevel
  | _ => false

/-- Why the message is not in the table, unless it is. -/
def reason? : Attempt → Option String
  | .undecodable cause => some cause.message
  | .tried _ (.error cause) => some cause.message
  | .tried _ (.ok ()) => none

/-- The error with which the message stops a relay that keeps no failures. -/
def fatal? (m : Message) : Attempt → Option RelayError
  | .undecodable cause => some (.decode m.messageId cause)
  | .tried _ (.error cause) =>
    if cause.isRowLevel then none else some (.insert m.messageId cause)
  | .tried _ (.ok ()) => none

/-- What the relay makes of the attempt. -/
def verdict (policy : FailurePolicy) (m : Message) (a : Attempt) : Except RelayError Delivery :=
  match a.reason? with
  | none => .ok .inserted
  | some reason =>
    match policy, a.fatal? m with
    | .abort, some e => .error e
    | _, _ => .ok (.failed reason)

/-- Whether the id of the message is acknowledged. -/
def isAdmitted (policy : AckPolicy) (a : Attempt) : Bool :=
  policy = .afterAttempt || a.isInserted

theorem of_eq {m : Message} {a : Attempt} (h : a.At m) {answer : Except InsertError Unit}
    (ha : ∀ x, a.answer? = some x → x = answer) : of m answer = a := by
  cases a with
  | undecodable cause => simp [of, show BigQuery.decodeRow m = .error cause from h]
  | tried row x =>
    rw [of, show BigQuery.decodeRow m = .ok row from h, ha x rfl]

theorem reason?_isSome (a : Attempt) : a.reason?.isSome = !a.isInserted := by
  rcases a with cause | ⟨row, cause | ⟨⟨⟩⟩⟩ <;> rfl

theorem isInserted_iff {a : Attempt} : a.isInserted = true ↔ a.reason? = none := by
  rcases a with cause | ⟨row, cause | ⟨⟨⟩⟩⟩ <;> simp [isInserted, reason?]

/-- An attempt that is survived where nothing is kept was answered: the row is in the table, or it
was refused. -/
theorem tried_of_not_fatal {m : Message} {a : Attempt} (h : a.fatal? m = none) :
    a.isInserted = true ∨ a.isRejected = true := by
  rcases a with cause | ⟨row, cause | ⟨⟨⟩⟩⟩
  · simp [fatal?] at h
  · right
    simpa [fatal?, isRejected] using h
  · exact .inl rfl

theorem verdict_inserted {policy : FailurePolicy} {m : Message} {a : Attempt}
    (h : a.verdict policy m = .ok .inserted) : a.isInserted = true := by
  rw [isInserted_iff]
  unfold verdict at h
  split at h
  · assumption
  · split at h <;> cases h

theorem verdict_failed {policy : FailurePolicy} {m : Message} {a : Attempt} {reason : String}
    (h : a.verdict policy m = .ok (.failed reason)) : a.reason? = some reason := by
  unfold verdict at h
  split at h
  · cases h
  · split at h <;> cases h
    assumption

/-- An error is the message's own, and arises only where failures are not kept. -/
theorem verdict_error {policy : FailurePolicy} {m : Message} {a : Attempt} {e : RelayError}
    (h : a.verdict policy m = .error e) : policy = .abort ∧ a.fatal? m = some e := by
  unfold verdict at h
  split at h
  · cases h
  · split at h
    · cases h
      exact ⟨rfl, by assumption⟩
    · cases h

theorem not_fatal_of_verdict {m : Message} {a : Attempt} {d : Delivery}
    (h : a.verdict .abort m = .ok d) : a.fatal? m = none := by
  rcases a with cause | ⟨row, cause | ⟨⟨⟩⟩⟩
  · simp [verdict, reason?, fatal?] at h
  · by_cases hc : cause.isRowLevel = true
    · simp [fatal?, hc]
    · simp [verdict, reason?, fatal?, hc] at h
  · rfl

end Attempt

/-! ## Handlings -/

/-- A message, what came of it, the time at which it was given up, if it was, and the step at which
the disk failed to keep it, if it did. -/
structure Handling where
  message : Message
  attempt : Attempt
  time : Int64
  fault? : Option Store.RecordFault

/-- Why a message is written to the disk, where failures are kept and there is a store. -/
def Attempt.keptReason? (relay : Relay) (kept : Bool) (a : Attempt) : Option String :=
  if relay.settings.failurePolicy = .deadLetter ∧ kept = true then a.reason? else none

namespace Handling

section
variable (relay : Relay) (kept : Bool)

/-- The letter that is written. -/
def write? (h : Handling) : Option Store.Write :=
  (h.attempt.keptReason? relay kept).map fun reason =>
    ⟨.ofMessage h.message reason h.time, h.fault?⟩

/-- What the relay makes of the handling. -/
def verdict (h : Handling) : Except RelayError Delivery :=
  match h.attempt.keptReason? relay kept, h.fault? with
  | some _, some fault => .error (.store fault.error)
  | _, _ => h.attempt.verdict relay.settings.failurePolicy h.message

/-- What the journal tells about a handling. -/
def account (h : Handling) : Account where
  decodings := (h.attempt.row?.map (h.message.messageId, ·)).toList
  insertCalls := (h.attempt.row?.map (⟨relay.table, ·, relay.settings.insertRetries⟩)).toList
  insertAnswers := (h.attempt.answer?.map .answered).toList
  writes := (h.write? relay kept).toList

end

section
variable {relay : Relay} {kept : Bool} {h : Handling}

/-- Where nothing is kept the disk decides nothing. -/
theorem verdict_of_keptReason?_eq_none (hk : h.attempt.keptReason? relay kept = none) :
    h.verdict relay kept = h.attempt.verdict relay.settings.failurePolicy h.message := by
  rw [verdict, hk]

/-- A message that is survived is judged by its attempt, and the disk kept what it was given. -/
theorem verdict_eq_ok {d : Delivery} :
    h.verdict relay kept = .ok d ↔
      (h.attempt.keptReason? relay kept = none ∨ h.fault? = none) ∧
        h.attempt.verdict relay.settings.failurePolicy h.message = .ok d := by
  unfold verdict
  cases h.attempt.keptReason? relay kept <;> cases h.fault? <;> simp

/-- An error is the message's own where failures are not kept, else the disk's. -/
theorem verdict_eq_error {e : RelayError} (hv : h.verdict relay kept = .error e) :
    (relay.settings.failurePolicy = .abort ∧ h.attempt.fatal? h.message = some e) ∨
      ∃ reason fault, h.attempt.keptReason? relay kept = some reason ∧ h.fault? = some fault ∧
        e = .store fault.error := by
  unfold verdict at hv
  split at hv
  · next reason fault hreason hfault =>
    exact .inr ⟨reason, fault, hreason, hfault, (Except.error.inj hv).symm⟩
  · exact .inl (Attempt.verdict_error hv)

end

end Handling

theorem Attempt.keptReason?_abort {relay : Relay} (hp : relay.settings.failurePolicy = .abort)
    (kept : Bool) (a : Attempt) : a.keptReason? relay kept = none := by
  simp [keptReason?, hp]

theorem Attempt.keptReason?_deadLetter {relay : Relay}
    (hp : relay.settings.failurePolicy = .deadLetter) (a : Attempt) :
    a.keptReason? relay true = a.reason? := by
  simp [keptReason?, hp]

/-! ## The events of a delivery -/

section
variable (relay : Relay) (kept : Bool)

/-- A row was read, and its insert was asked for. -/
def askEvents (m : Message) (row : Row) (key : IdempotencyKey)
    (answer : Awaited (Except InsertError Unit)) (lines : List Log.Line) : List Event :=
  .decoded m.messageId row ::
    .inserted relay.table row key relay.settings.insertRetries answer :: notes lines

/-- A message was given up, and is kept if there is a store and the disk does not fail. -/
def giveUpEvents (m : Message) (reason : String) (time : Int64)
    (fault? : Option Store.RecordFault) : List Event :=
  .gaveUp m.messageId reason ::
    if kept then [.recorded (.ofMessage m reason time) fault?] else []

/-- What follows an attempt: nothing if the row is in the table, or if the attempt stops the
relay. -/
def failureEvents (h : Handling) : List Event :=
  match h.attempt.reason? with
  | none => []
  | some reason =>
    match relay.settings.failurePolicy with
    | .deadLetter => giveUpEvents kept h.message reason h.time h.fault?
    | .abort => if h.attempt.isRejected then [.notInserted h.message.messageId reason] else []

/-- The handling of a message writes the events. -/
inductive Delivered : Handling → List Event → Prop
  | undecodable {m : Message} {cause : DecodeError} (time : Int64)
      (fault? : Option Store.RecordFault) :
      BigQuery.decodeRow m = .error cause →
      Delivered ⟨m, .undecodable cause, time, fault?⟩
        (failureEvents relay kept ⟨m, .undecodable cause, time, fault?⟩)
  | tried {m : Message} {row : Row} (key : IdempotencyKey) (answer : Except InsertError Unit)
      (lines : List Log.Line) (time : Int64) (fault? : Option Store.RecordFault) :
      BigQuery.decodeRow m = .ok row →
      Delivered ⟨m, .tried row answer, time, fault?⟩
        (askEvents relay m row key (.answered answer) lines ++
          failureEvents relay kept ⟨m, .tried row answer, time, fault?⟩)

variable {relay kept}

theorem askEvents_account (m : Message) (row : Row) (key : IdempotencyKey)
    (answer : Awaited (Except InsertError Unit)) (lines : List Log.Line) :
    accountOf (askEvents relay m row key answer lines) =
      { decodings := [(m.messageId, row)]
        insertCalls := [⟨relay.table, row, relay.settings.insertRetries⟩]
        insertAnswers := [answer] } := by
  rw [askEvents, accountOf_cons, accountOf_cons (.inserted _ _ _ _ _), accountOf_notes]
  rfl

/-- What follows an attempt is no call and no answer. -/
theorem failureEvents_account (h : Handling) :
    accountOf (failureEvents relay kept h) = { writes := (h.write? relay kept).toList } := by
  unfold failureEvents giveUpEvents Handling.write? Attempt.keptReason?
  cases h.attempt.reason? with
  | none => simp
  | some reason =>
    cases relay.settings.failurePolicy with
    | abort => cases h.attempt.isRejected <;> rfl
    | deadLetter => cases kept <;> rfl

theorem Delivered.at {h : Handling} {events : List Event} (hd : Delivered relay kept h events) :
    h.attempt.At h.message := by
  cases hd <;> assumption

theorem Delivered.account {h : Handling} {events : List Event}
    (hd : Delivered relay kept h events) : accountOf events = h.account relay kept := by
  cases hd with
  | undecodable time fault? _ => exact failureEvents_account _
  | tried key answer lines time fault? _ =>
    rw [accountOf_append, askEvents_account, failureEvents_account]
    rfl

end

/-! ## Giving up -/

variable {σ : Type}

section
variable (svc : Services σ) (relay : Relay) (kept : Bool) (m : Message) (a : Attempt) (world : σ)

/-- What the disk makes of an attempt in a world, and the world behind it. -/
def recordReply : Option Store.RecordFault × σ :=
  match a.keptReason? relay kept with
  | some reason => svc.record (.ofMessage m reason (svc.now world)) world
  | none => (none, world)

/-- The handling that an attempt comes to in a world. -/
def handling : Handling :=
  ⟨m, a, svc.now world, (recordReply svc relay kept m a world).1⟩

end

theorem recordReply_faultless {relay : Relay} {kept : Bool} {a : Attempt}
    (hk : a.keptReason? relay kept = none) (svc : Services σ) (m : Message) (world : σ) :
    recordReply svc relay kept m a world = (none, world) := by
  rw [recordReply, hk]

/-- Behind an attempt the relay gave its verdict on the handling and wrote what the handling
writes. -/
structure Concluded (svc : Services σ) (relay : Relay) (m : Message) (a : Attempt) (s : State σ)
    (out : Except RelayError Delivery × State σ) : Prop where
  answer : out.1 = (handling svc relay s.store.isSome m a s.world).verdict relay s.store.isSome
  world : out.2.world = (recordReply svc relay s.store.isSome m a s.world).2
  wrote : s.Wrote (failureEvents relay s.store.isSome
    (handling svc relay s.store.isSome m a s.world)) out.2

section
variable (svc : Services σ) {relay : Relay} {m : Message} {a : Attempt} {s s' : State σ}

/-- Where nothing is kept the relay gives its verdict on the attempt, in the same world. -/
theorem concluded_of_keptReason?_eq_none {v : Except RelayError Delivery}
    (hk : a.keptReason? relay s.store.isSome = none)
    (hv : v = a.verdict relay.settings.failurePolicy m)
    (hs : s.Wrote (failureEvents relay s.store.isSome ⟨m, a, svc.now s.world, none⟩) s')
    (hworld : s'.world = s.world) : Concluded svc relay m a s (v, s') := by
  have hreply := recordReply_faultless hk svc m s.world
  have hhandling : handling svc relay s.store.isSome m a s.world =
      ⟨m, a, svc.now s.world, none⟩ := by
    rw [handling, hreply]
  exact
    { answer := by rw [hhandling, Handling.verdict_of_keptReason?_eq_none hk, hv]
      world := by rw [hreply, hworld]
      wrote := hhandling ▸ hs }

theorem giveUp_concludes (hp : relay.settings.failurePolicy = .deadLetter) {reason : String}
    (hr : a.reason? = some reason) (s : State σ) :
    Concluded svc relay m a s (giveUp svc m reason s) := by
  obtain ⟨world, store, backoff, stats, journal⟩ := s
  have hv : a.verdict relay.settings.failurePolicy m = .ok (.failed reason) := by
    simp [Attempt.verdict, hr, hp]
  cases store with
  | none =>
    refine concluded_of_keptReason?_eq_none svc (by simp [Attempt.keptReason?]) hv.symm ?_ rfl
    have hevents : failureEvents relay false ⟨m, a, svc.now world, none⟩ =
        [.gaveUp m.messageId reason] := by
      simp [failureEvents, hr, hp, giveUpEvents]
    exact hevents ▸ State.note_wrote _ rfl
  | some store =>
    have hkept : a.keptReason? relay true = some reason :=
      (Attempt.keptReason?_deadLetter hp a).trans hr
    have hreply : recordReply svc relay true m a world =
        svc.record (.ofMessage m reason (svc.now world)) world := by
      simp [recordReply, hkept]
    have hhandling : handling svc relay true m a world = ⟨m, a, svc.now world,
        (svc.record (.ofMessage m reason (svc.now world)) world).1⟩ := by
      rw [handling, hreply]
    have hevents : failureEvents relay true (handling svc relay true m a world) =
        giveUpEvents true m reason (svc.now world)
          (svc.record (.ofMessage m reason (svc.now world)) world).1 := by
      rw [hhandling]
      simp [failureEvents, hr, hp]
    refine ⟨?_, ?_, ?_⟩
    · change _ = (handling svc relay true m a world).verdict relay true
      rw [hhandling, Handling.verdict, hkept]
      simp only [giveUp, State.note]
      cases (svc.record (.ofMessage m reason (svc.now world)) world).1 with
      | none => exact hv.symm
      | some fault => rfl
    · change _ = (recordReply svc relay true m a world).2
      rw [hreply]
      simp only [giveUp, State.note]
      cases (svc.record (.ofMessage m reason (svc.now world)) world).1 <;> rfl
    · change State.Wrote _ (failureEvents relay true (handling svc relay true m a world)) _
      rw [hevents]
      simp only [giveUp, State.note]
      cases (svc.record (.ofMessage m reason (svc.now world)) world).1 <;>
        exact ⟨List.append_assoc .., rfl, rfl, rfl⟩

theorem insertFailed_concludes (relay : Relay) (m : Message) (row : Row) (cause : InsertError)
    (s : State σ) :
    Concluded svc relay m (.tried row (.error cause)) s (insertFailed svc relay m cause s) := by
  unfold insertFailed
  cases hp : relay.settings.failurePolicy with
  | deadLetter => exact giveUp_concludes svc hp rfl s
  | abort =>
    have hk := Attempt.keptReason?_abort hp s.store.isSome (.tried row (.error cause))
    by_cases hc : cause.isRowLevel = true
    · rw [if_pos hc]
      refine concluded_of_keptReason?_eq_none svc hk ?_ ?_ rfl
      · simp [Attempt.verdict, Attempt.reason?, Attempt.fatal?, hp, hc]
      · simpa [failureEvents, Attempt.reason?, Attempt.isRejected, hp, hc] using s.note_wrote rfl
    · rw [if_neg hc]
      refine concluded_of_keptReason?_eq_none svc hk ?_ ?_ rfl
      · simp [Attempt.verdict, Attempt.reason?, Attempt.fatal?, hp, hc]
      · simpa [failureEvents, Attempt.reason?, Attempt.isRejected, hp, hc] using .refl s

end

/-! ## The delivery -/

/-- A message without a row is judged where it stands. -/
theorem deliver_undecodable (svc : Services σ) (relay : Relay) (s : State σ) {m : Message}
    {cause : DecodeError} (hrow : BigQuery.decodeRow m = .error cause) :
    ∃ out, deliver svc relay m s = (.answered out.1, out.2) ∧
      Concluded svc relay m (.undecodable cause) s out := by
  unfold deliver
  simp only [hrow]
  cases hp : relay.settings.failurePolicy with
  | deadLetter => exact ⟨giveUp svc m cause.message s, rfl, giveUp_concludes svc hp rfl s⟩
  | abort =>
    refine ⟨(.error (.decode m.messageId cause), s), rfl, concluded_of_keptReason?_eq_none svc
      (Attempt.keptReason?_abort hp ..) ?_ ?_ rfl⟩
    · simp [Attempt.verdict, Attempt.reason?, Attempt.fatal?, hp]
    · simpa [failureEvents, Attempt.reason?, Attempt.isRejected, hp] using .refl s

/-- What the insert of a row brings that is asked for in a world, under a key of its own. -/
def insertReply (svc : Services σ) (relay : Relay) (row : Row) (world : σ) :
    Reply σ (Awaited (Except InsertError Unit)) :=
  svc.insert relay.table row (svc.newKey world).1 relay.settings.insertRetries
    (svc.newKey world).2

/-- Behind the insert of a row: its answer is written, and nothing was made of it yet. -/
structure Asked (svc : Services σ) (relay : Relay) (m : Message) (row : Row) (s s' : State σ) :
    Prop where
  world : s'.world = (insertReply svc relay row s.world).world
  wrote : s.Wrote (askEvents relay m row (svc.newKey s.world).1
    (insertReply svc relay row s.world).answer (insertReply svc relay row s.world).lines) s'

/-- A message with a row is judged by what its insert was answered, or given up with it. -/
theorem deliver_decoded (svc : Services σ) (relay : Relay) (s : State σ) {m : Message} {row : Row}
    (hrow : BigQuery.decodeRow m = .ok row) :
    ∃ s₁, Asked svc relay m row s s₁ ∧
      ((insertReply svc relay row s.world).answer = .abandoned ∧
        deliver svc relay m s = (.abandoned, s₁) ∨
      ∃ answer out, (insertReply svc relay row s.world).answer = .answered answer ∧
        deliver svc relay m s = (.answered out.1, out.2) ∧
        Concluded svc relay m (.tried row answer) s₁ out) := by
  unfold deliver
  simp only [hrow]
  generalize hreply : insertReply svc relay row s.world = reply
  have hnote : svc.insert relay.table row
      (svc.newKey (s.note (.decoded m.messageId row)).world).1 relay.settings.insertRetries
      (svc.newKey (s.note (.decoded m.messageId row)).world).2 = reply := hreply
  rw [hnote]
  -- the key is drawn from the world, which the journal does not show
  have hask : Asked svc relay m row s
      ((s.note (.decoded m.messageId row)).settle reply (.inserted relay.table row
        (svc.newKey s.world).1 relay.settings.insertRetries reply.answer)) :=
    ⟨by rw [hreply]; rfl,
      by rw [hreply]; exact (s.note_wrote rfl).trans (State.settle_wrote _ _ rfl)⟩
  refine ⟨_, hask, ?_⟩
  cases hanswer : reply.answer with
  | abandoned => exact .inl ⟨rfl, rfl⟩
  | answered answer =>
    rcases answer with cause | ⟨⟨⟩⟩
    · exact .inr ⟨.error cause, insertFailed svc relay m cause _, rfl, rfl,
        insertFailed_concludes svc relay m row cause _⟩
    · exact .inr ⟨.ok (), (.ok .inserted, _), rfl, rfl, concluded_of_keptReason?_eq_none svc
        (ite_self _) rfl (.refl _) rfl⟩

/-- **A delivery** writes what the handling of its message writes and is answered by the verdict on
it, or its insert was given up. -/
theorem deliver_wrote (svc : Services σ) (relay : Relay) (m : Message) (s : State σ) :
    (∃ a time fault? events, Delivered relay s.store.isSome ⟨m, a, time, fault?⟩ events ∧
      (deliver svc relay m s).1 =
        .answered (Handling.verdict relay s.store.isSome ⟨m, a, time, fault?⟩) ∧
      s.Wrote events (deliver svc relay m s).2) ∨
    (∃ row key lines, BigQuery.decodeRow m = .ok row ∧
      (deliver svc relay m s).1 = .abandoned ∧
      s.Wrote (askEvents relay m row key .abandoned lines) (deliver svc relay m s).2) := by
  cases hrow : BigQuery.decodeRow m with
  | error cause =>
    obtain ⟨out, hd, hc⟩ := deliver_undecodable svc relay s hrow
    rw [hd]
    exact .inl ⟨.undecodable cause, _, _, _, .undecodable _ _ hrow, congrArg _ hc.answer, hc.wrote⟩
  | ok row =>
    obtain ⟨s₁, hask, ⟨hanswer, hd⟩ | ⟨answer, out, hanswer, hd, hc⟩⟩ :=
      deliver_decoded svc relay s hrow
    · rw [hd]
      exact .inr ⟨row, _, _, rfl, rfl, hanswer ▸ hask.wrote⟩
    · have hw := hask.wrote.trans (hask.wrote.kept ▸ hc.wrote)
      have hv := hask.wrote.kept ▸ hc.answer
      rw [hanswer] at hw
      rw [hd]
      exact .inl ⟨.tried row answer, _, _, _, .tried _ answer _ _ _ hrow, congrArg _ hv, hw⟩

end RowRelay.Relay
