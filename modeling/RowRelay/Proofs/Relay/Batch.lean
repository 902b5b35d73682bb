import Mathlib.Data.List.Basic
import RowRelay.Proofs.Relay.Round
import RowRelay.Relay.Script

/-!
# What a batch comes to

`attempts batch answers` gives every message of a batch what came of it, the inserts answered one
after the other from a list. It knows nothing of the loop; the theorems here say that the loop does
what it says.

* `processed_batch_exact`: a step that processed a batch inserted every decodable message and no
  other, counted all of them, acknowledged once and last, and kept a letter of each failure
  (`ProcessedExactly`).
* `fatal_message_stops_batch`: under `abort` the first message that is fatal ends the step with its
  own error; all before it was inserted and acknowledged as the policy says, and nothing behind it
  was looked at (`StoppedAt`).
-/

set_option autoImplicit false

namespace RowRelay

open BigQuery (Row InsertError DecodeError)
open PubSub (Message QueueError)

/-- A letter without its time. -/
def DeadLetter.undated (l : DeadLetter) : DeadLetter :=
  { l with failedAt := 0 }

/-- A write of a letter without its time. -/
def Store.Write.undated (w : Store.Write) : Store.Write :=
  { w with letter := w.letter.undated }

namespace Relay

variable {σ : Type}

/-- Two messages, the second of which carries no row. -/
def samplePair : List Message :=
  [⟨"a1", "m1", "e30=", none, []⟩, ⟨"a2", "m2", "", none, []⟩]

/-- A relay between places without names. -/
def sampleRelay (settings : RelaySettings) : Relay :=
  ⟨"", ⟨"", "", ""⟩, settings⟩

/-- A relay that has done nothing yet, and a script of one pull, which brings the pair. -/
def sampleState (store : Option Store) : State Script :=
  .start {} store { pulls := [{ answer := .ok samplePair }] }

/-- The row that a message carries, if it carries one. -/
def rowOf? (m : Message) : Option Row :=
  (BigQuery.decodeRow m).toOption

/-- What came of messages in their order, when these were the answers to their inserts. -/
def attempts : List Message → List (Except InsertError Unit) → List (Message × Attempt)
  | [], _ => []
  | m :: ms, answers =>
    match BigQuery.decodeRow m, answers with
    | .error cause, answers => (m, .undecodable cause) :: attempts ms answers
    | .ok row, answer :: answers => (m, .tried row answer) :: attempts ms answers
    | .ok _, [] => []

/-! ## The messages handled -/

theorem Attempt.row?_eq {m : Message} {a : Attempt} (h : a.At m) : a.row? = rowOf? m := by
  cases a with
  | undecodable cause =>
    rw [rowOf?, show BigQuery.decodeRow m = .error cause from h]
    rfl
  | tried row answer =>
    rw [rowOf?, show BigQuery.decodeRow m = .ok row from h]
    rfl

theorem Attempt.row?_isSome {a : Attempt} : a.row?.isSome ↔ a.answer?.isSome := by
  cases a <;> exact Iff.rfl

theorem Attempt.isInserted_eq (a : Attempt) :
    a.isInserted = (a.answer?.map Except.isOk).getD false := by
  rcases a with cause | ⟨row, cause | ⟨⟨⟩⟩⟩ <;> rfl

section
variable {relay : Relay} {kept : Bool} {done : List Handling} {events : List Event}

theorem DeliveredAll.at (h : DeliveredAll relay kept done events) :
    ∀ x ∈ done, x.attempt.At x.message := by
  induction h with
  | nil => simp
  | cons hd _ ih =>
    intro x hx
    rcases List.mem_cons.1 hx with rfl | hx
    · exact hd.at
    · exact ih x hx

theorem attempts_append (hat : ∀ x ∈ done, x.attempt.At x.message) (rest : List Message)
    (more : List (Except InsertError Unit)) :
    attempts (done.map (·.message) ++ rest) (done.filterMap (·.attempt.answer?) ++ more) =
      done.map (fun x => (x.message, x.attempt)) ++ attempts rest more := by
  induction done with
  | nil => rfl
  | cons x done ih =>
    have ih' := ih fun y hy => hat y (List.mem_cons_of_mem _ hy)
    obtain ⟨m, a, time, fault?⟩ := x
    have hm : a.At m := hat _ List.mem_cons_self
    cases a with
    | undecodable cause =>
      have hrow : BigQuery.decodeRow m = .error cause := hm
      simp only [List.map_cons, List.cons_append, attempts, hrow]
      rw [← ih']
      rfl
    | tried row answer =>
      have hrow : BigQuery.decodeRow m = .ok row := hm
      have hanswers : (Handling.mk m (.tried row answer) time fault? :: done).filterMap
          (·.attempt.answer?) = answer :: done.filterMap (·.attempt.answer?) := rfl
      rw [hanswers]
      simp only [List.map_cons, List.cons_append, attempts, hrow]
      rw [← ih']

theorem attempts_handled (hat : ∀ x ∈ done, x.attempt.At x.message) :
    attempts (done.map (·.message)) (done.filterMap (·.attempt.answer?)) =
      done.map fun x => (x.message, x.attempt) := by
  simpa [attempts] using attempts_append hat [] []

variable (relay kept)

theorem accountAll_insertCalls (hat : ∀ x ∈ done, x.attempt.At x.message) :
    (accountAll relay kept done).insertCalls = ((done.map (·.message)).filterMap rowOf?).map
      (⟨relay.table, ·, relay.settings.insertRetries⟩) := by
  rw [List.filterMap_map, List.map_filterMap]
  exact List.filterMap_congr fun x hx => by rw [Attempt.row?_eq (hat x hx)]; rfl

theorem accountAll_decodings (hat : ∀ x ∈ done, x.attempt.At x.message) :
    (accountAll relay kept done).decodings = (done.map (·.message)).filterMap
      fun m => (rowOf? m).map (m.messageId, ·) := by
  rw [List.filterMap_map]
  exact List.filterMap_congr fun x hx => by rw [Attempt.row?_eq (hat x hx)]; rfl

theorem accountAll_insertAnswers :
    (accountAll relay kept done).insertAnswers =
      (done.filterMap (·.attempt.answer?)).map .answered := by
  rw [List.map_filterMap]
  rfl

theorem countP_isInserted (done : List Handling) :
    done.countP (·.attempt.isInserted) =
      (done.filterMap (·.attempt.answer?)).countP Except.isOk := by
  rw [List.countP_filterMap]
  exact congrArg (List.countP · done) (funext fun x => x.attempt.isInserted_eq)

theorem admittedIds_handled (policy : AckPolicy) (done : List Handling) :
    admittedIds policy done =
      ((done.map fun x => (x.message, x.attempt)).filter (·.2.isAdmitted policy)).map
        (·.1.ackId) := by
  rw [List.filter_map, List.map_map]
  rfl

/-- Letters are recorded by writes that do not fail. -/
theorem Account.letters_undated (a : Account) :
    a.letters.map DeadLetter.undated =
      (a.writes.map Store.Write.undated).filterMap Store.Write.kept? := by
  rw [letters, List.map_filterMap, List.filterMap_map]
  refine List.filterMap_congr fun w _ => ?_
  obtain ⟨letter, _ | fault⟩ := w <;> rfl

/-- Nothing that was written of messages survived has failed. -/
theorem fault?_of_survived (hs : ∀ x ∈ done, x.Survived relay kept) :
    ∀ w ∈ (accountAll relay kept done).writes, w.fault? = none := by
  intro w hw
  obtain ⟨x, hx, hxw⟩ := List.mem_filterMap.1 hw
  obtain ⟨d, hd⟩ := hs x hx
  obtain ⟨reason, hreason, rfl⟩ := Option.map_eq_some_iff.1 hxw
  exact (Handling.verdict_eq_ok.1 hd).1.resolve_left (by simp [hreason])

/-- What was written of the messages handled is a letter of each failure. -/
theorem accountAll_writes (hs : ∀ x ∈ done, x.Survived relay kept) :
    (accountAll relay kept done).writes.map Store.Write.undated =
      (if relay.settings.failurePolicy = .deadLetter ∧ kept = true then
        (done.map fun x => (x.message, x.attempt)).filterMap fun x =>
          x.2.reason?.map (DeadLetter.ofMessage x.1 · 0)
      else []).map (⟨·, none⟩) := by
  simp only [accountAll, List.map_filterMap, Handling.write?, Attempt.keptReason?]
  by_cases hp : relay.settings.failurePolicy = .deadLetter ∧ kept = true
  · simp only [if_pos hp, List.filterMap_map, List.map_filterMap]
    refine List.filterMap_congr fun x hx => ?_
    obtain ⟨d, hd⟩ := hs x hx
    have hfault := (Handling.verdict_eq_ok.1 hd).1
    rw [Attempt.keptReason?, if_pos hp] at hfault
    cases hr : x.attempt.reason? with
    | none => simp [hr]
    | some reason =>
      have hnone : x.fault? = none := hfault.resolve_left (by simp [hr])
      simp [hr, hnone, Store.Write.undated, DeadLetter.undated, DeadLetter.ofMessage]
  · simp [if_neg hp]

/-- The letters of the messages handled. -/
theorem accountAll_letters (hs : ∀ x ∈ done, x.Survived relay kept) :
    (accountAll relay kept done).letters.map DeadLetter.undated =
      if relay.settings.failurePolicy = .deadLetter ∧ kept = true then
        (done.map fun x => (x.message, x.attempt)).filterMap fun x =>
          x.2.reason?.map (DeadLetter.ofMessage x.1 · 0)
      else [] := by
  rw [Account.letters_undated, accountAll_writes relay kept hs, List.filterMap_map]
  exact List.filterMap_some

end

/-! ## A batch that was processed -/

/-- What a step did with a batch of which it gave the report: `answers` are those of its inserts, in
their order. -/
structure ProcessedExactly (relay : Relay) (kept : Bool) (events : List Event)
    (report : BatchReport) (batch : List Message) (answers : List (Except InsertError Unit)) :
    Prop where
  batch_ne : batch ≠ []
  pulled : (accountOf events).batches = [batch]
  /-- One insert for each message with a row, in the order of the batch, and no other. -/
  insertCalls : (accountOf events).insertCalls =
    (batch.filterMap rowOf?).map (⟨relay.table, ·, relay.settings.insertRetries⟩)
  insertAnswers : (accountOf events).insertAnswers = answers.map .answered
  received : report.received = batch.length
  inserted : report.inserted = answers.countP Except.isOk
  total : report.inserted + report.failed = batch.length
  /-- The call that acknowledges comes after all inserts, and there is none without ids. -/
  acknowledged : ∃ ids before after, events = before ++ after ∧
    ids = (match relay.settings.ackPolicy with
      | .afterAttempt => batch.map (·.ackId)
      | .afterInsert =>
        ((attempts batch answers).filter (·.2.isInserted)).map (·.1.ackId)) ∧
    report.acknowledged = ids.length ∧
    (accountOf before).ackCalls = [] ∧ (accountOf after).insertCalls = [] ∧
    (ids = [] → (accountOf after).ackCalls = []) ∧
    (ids ≠ [] → ∃ rest, after = .acknowledged relay.subscription ids (some (.ok ())) :: rest ∧
      (accountOf rest).ackCalls = [])
  /-- Where failures are kept there is a letter for each, in the order of the batch. -/
  letters : relay.settings.failurePolicy = .deadLetter → kept = true →
    (accountOf events).letters.length = report.failed ∧
    (accountOf events).letters.map DeadLetter.undated =
      (attempts batch answers).filterMap fun x => x.2.reason?.map (DeadLetter.ofMessage x.1 · 0)
  noLetters : relay.settings.failurePolicy = .abort → (accountOf events).letters = []

section
variable {relay : Relay} {kept : Bool} {done : List Handling} {events : List Event}

/-- The ids admitted are all ids, or those of the messages in the table. -/
theorem admittedIds_eq (policy : AckPolicy) (done : List Handling) :
    admittedIds policy done = match policy with
      | .afterAttempt => (done.map (·.message)).map (·.ackId)
      | .afterInsert =>
        ((done.map fun x => (x.message, x.attempt)).filter (·.2.isInserted)).map (·.1.ackId) := by
  rw [admittedIds_handled]
  cases policy with
  | afterAttempt => simp [Attempt.isAdmitted]
  | afterInsert => simp [Attempt.isAdmitted]

/-- Every failure leaves its letter. -/
theorem letters_length (hp : relay.settings.failurePolicy = .deadLetter) (hk : kept = true)
    (hs : ∀ x ∈ done, x.Survived relay kept) :
    (accountAll relay kept done).letters.length = done.countP (!·.attempt.isInserted) := by
  rw [← List.length_map (f := DeadLetter.undated), accountAll_letters relay kept hs,
    if_pos ⟨hp, hk⟩, List.filterMap_map, List.length_filterMap_eq_countP]
  exact congrArg (List.countP · done) (funext fun x => by simp [Attempt.reason?_isSome])

end

/-- What the journal tells of a batch that was handled, acknowledged and reported on. -/
theorem processed_account {relay : Relay} {kept : Bool} {batch : List Message}
    {done : List Handling} {events : List Event} (lines : List Log.Line)
    (hh : Handled relay kept batch done [] events) (acked : List Event) (report : BatchReport) :
    accountOf (pullEvents relay (.answered (.ok batch)) lines ++ events ++ acked ++
      [.finished report]) =
      { batches := [batch] } ++ accountAll relay kept done ++ accountOf acked := by
  have hfinished : accountOf [.finished report] = {} := rfl
  rw [accountOf_append, accountOf_append, accountOf_append, pullEvents_account,
    hh.delivered.account, hfinished, Account.append_empty]

/-- A batch all of which was handled, acknowledged and reported on, was processed exactly. -/
theorem processedExactly_of_handled {relay : Relay} {kept : Bool} {batch : List Message}
    {done : List Handling} {events acked : List Event} (lines : List Log.Line) (hb : batch ≠ [])
    (hh : Handled relay kept batch done [] events)
    (hacked : Acked relay (admittedIds relay.settings.ackPolicy done) (some (.ok ())) acked) :
    ProcessedExactly relay kept (pullEvents relay (.answered (.ok batch)) lines ++ events ++
      acked ++ [.finished (reportOf relay done)]) (reportOf relay done) batch
      (done.filterMap (·.attempt.answer?)) := by
  have hat := hh.delivered.at
  have hbatch : batch = done.map (·.message) := by simpa using hh.batch_eq
  have hfinished : accountOf [.finished (reportOf relay done)] = {} := rfl
  have hall := processed_account lines hh acked (reportOf relay done)
  have hattempts : attempts batch (done.filterMap (·.attempt.answer?)) =
      done.map fun x => (x.message, x.attempt) := hbatch ▸ attempts_handled hat
  have hacked' := hacked.account
  refine
    { batch_ne := hb
      pulled := by rw [hall, hacked']; simp [accountAll]
      insertCalls := ?_
      insertAnswers := ?_
      received := by simp [reportOf, hbatch]
      inserted := countP_isInserted done
      total := ?_
      acknowledged := ?_
      letters := fun hp hk => ⟨?_, ?_⟩
      noLetters := fun hp => ?_ }
  · rw [hall, hacked', hbatch, ← accountAll_insertCalls relay kept hat]
    simp
  · rw [hall, hacked', ← accountAll_insertAnswers relay kept]
    simp
  · have hcount := done.length_eq_countP_add_countP (·.attempt.isInserted)
    rw [hbatch, List.length_map, hcount]
    simp [reportOf]
  · refine ⟨_, pullEvents relay (.answered (.ok batch)) lines ++ events,
      acked ++ [.finished (reportOf relay done)], by simp, ?_, rfl, ?_, ?_, ?_, ?_⟩
    · rw [admittedIds_eq, hattempts, hbatch]
    · rw [accountOf_append, pullEvents_account, hh.delivered.account]
      rfl
    · rw [accountOf_append, hacked', hfinished]
      rfl
    · intro hnil
      rw [accountOf_append, hacked', if_pos hnil]
      rfl
    · intro hne
      obtain ⟨lines', rfl⟩ := hacked.sent_of_ne hne
      refine ⟨notes lines' ++ [.finished (reportOf relay done)], rfl, ?_⟩
      rw [accountOf_append, accountOf_notes]
      rfl
  · rw [hall, hacked']
    simpa [reportOf, Account.letters] using letters_length hp hk hh.survived
  · rw [hall, hacked', hattempts]
    simpa [hp, hk, Account.letters] using accountAll_letters relay kept hh.survived
  · rw [hall, hacked']
    simp [accountAll, Account.letters, Handling.write?, Attempt.keptReason?_abort hp]

/-- **A processed batch is handled exactly.** -/
theorem processed_batch_exact {svc : Services σ} {relay : Relay} {s : State σ}
    {report : BatchReport} (h : (step svc relay s).1 = .done (.processed report)) :
    ∃ batch answers,
      ProcessedExactly relay s.store.isSome (stepEvents svc relay s) report batch answers ∧
      (step svc relay s).2.store =
        s.store.map (·.recordAll (accountOf (stepEvents svc relay s)).letters) := by
  have hround := step_round svc relay s
  have hr := hround.round
  rw [h] at hr
  generalize hevents : stepEvents svc relay s = events at hr
  generalize (step svc relay s).2.stats = stats at hr
  cases hr with
  | idle count delay lines lines' ho => rcases ho with ho | ho <;> cases ho
  | processed lines hb hh hacked =>
    refine ⟨_, _, processedExactly_of_handled lines hb hh hacked, ?_⟩
    rw [hround.store, hevents]
    refine congrArg (s.store.map ·) (funext fun store => Store.writeAll_eq_recordAll ?_ store)
    rw [processed_account lines hh, hacked.account]
    simpa using fault?_of_survived relay _ hh.survived

/-- The pair is processed where failures are kept: one row is inserted, one letter recorded. -/
theorem processed_batch_exact_of_pair :
    let relay := sampleRelay { failurePolicy := .deadLetter }
    let s := sampleState (some (.create {}))
    (step Script.services relay s).1 = .done (.processed ⟨2, 1, 1, 2⟩) ∧
    ∃ batch answers,
      ProcessedExactly relay true (stepEvents Script.services relay s) ⟨2, 1, 1, 2⟩ batch answers ∧
      (step Script.services relay s).2.store =
        s.store.map (·.recordAll (accountOf (stepEvents Script.services relay s)).letters) := by
  intro relay s
  have h : (step Script.services relay s).1 = .done (.processed ⟨2, 1, 1, 2⟩) := rfl
  exact ⟨h, processed_batch_exact h⟩

/-! ## A batch that was broken off -/

/-- The error with which the message at position `k` stops a relay that keeps no failures. -/
def fatalAt? (batch : List Message) (script : Nat → Except InsertError Unit) (k : Nat) :
    Option RelayError :=
  batch[k]?.bind fun m => (Attempt.of m (script k)).fatal? m

/-- Position `k` is the first one that is fatal. -/
def FirstFatal (batch : List Message) (script : Nat → Except InsertError Unit) (k : Nat)
    (e : RelayError) : Prop :=
  fatalAt? batch script k = some e ∧ ∀ i < k, fatalAt? batch script i = none

theorem FirstFatal.unique {batch : List Message} {script : Nat → Except InsertError Unit}
    {k k' : Nat} {e e' : RelayError} (h : FirstFatal batch script k e)
    (h' : FirstFatal batch script k' e') : k = k' ∧ e = e' := by
  have hk : k = k' := by
    rcases Nat.lt_trichotomy k k' with hlt | heq | hlt
    · exact absurd (h'.2 k hlt) (by simp [h.1])
    · exact heq
    · exact absurd (h.2 k' hlt) (by simp [h'.1])
  subst hk
  exact ⟨rfl, Option.some.inj (h.1.symm.trans h'.1)⟩

/-- The ids of the first `k` messages that the policy admits, when their inserts were answered by
the script. -/
def admittedBefore (policy : AckPolicy) (batch : List Message)
    (script : Nat → Except InsertError Unit) (k : Nat) : List String :=
  match policy with
  | .afterAttempt => (batch.take k).map (·.ackId)
  | .afterInsert => ((batch.take k).zipIdx.filter fun x => (script x.2).isOk).map (·.1.ackId)

/-- The step broke off at position `k` of the batch with the error, its inserts answered by the
script. -/
structure StoppedAt (relay : Relay) (r : StepEnd) (events : List Event) (batch : List Message)
    (script : Nat → Except InsertError Unit) (k : Nat) (e : RelayError) : Prop where
  /-- The error is reported whatever the acknowledgement brings, if it brings anything. -/
  ended : r = .failed e ∨ r = .unanswered ∧ .acknowledged relay.subscription
    (admittedBefore relay.settings.ackPolicy batch script k) none ∈ events
  /-- All messages before have a row. -/
  decodable : ∀ m ∈ batch.take k, (rowOf? m).isSome
  decodings : (accountOf events).decodings =
    (batch.take (k + 1)).filterMap fun m => (rowOf? m).map (m.messageId, ·)
  insertCalls : (accountOf events).insertCalls =
    ((batch.take (k + 1)).filterMap rowOf?).map (⟨relay.table, ·, relay.settings.insertRetries⟩)
  /-- At most one call acknowledges, after all inserts. -/
  acknowledged : ∃ before after, events = before ++ after ∧
    (accountOf before).ackCalls = [] ∧ (accountOf after).insertCalls = [] ∧
    (accountOf after).ackCalls =
      if admittedBefore relay.settings.ackPolicy batch script k = [] then []
      else [admittedBefore relay.settings.ackPolicy batch script k]

/-- A step that pulled the batch stops at the first fatal message, having counted nothing, and fails
at no message when none is fatal. -/
structure StopsAtFatal (relay : Relay) (r : StepEnd) (events : List Event) (stats stats' : Stats)
    (batch : List Message) (script : Nat → Except InsertError Unit) : Prop where
  stopped : ∀ k e, FirstFatal batch script k e →
    StoppedAt relay r events batch script k e ∧ stats' = stats
  otherwise : (∀ k e, ¬ FirstFatal batch script k e) → ∀ id,
    (∀ cause, r ≠ .failed (.decode id cause)) ∧ ∀ cause, r ≠ .failed (.insert id cause)

theorem getElem?_filterMap {α β : Type} {f : α → Option β} {l : List α}
    (h : ∀ x ∈ l, (f x).isSome) (i : Nat) : (l.filterMap f)[i]? = l[i]?.bind f := by
  induction l generalizing i with
  | nil => rfl
  | cons x l ih =>
    obtain ⟨y, hy⟩ := Option.isSome_iff_exists.1 (h x List.mem_cons_self)
    rw [List.filterMap_cons_some hy]
    cases i with
    | zero => simp [hy]
    | succ i => simpa using ih (fun z hz => h z (List.mem_cons_of_mem _ hz)) i

theorem length_filterMap_of_isSome {α β : Type} {f : α → Option β} {l : List α}
    (h : ∀ x ∈ l, (f x).isSome) : (l.filterMap f).length = l.length := by
  rw [List.length_filterMap_eq_countP, List.countP_eq_length]
  exact h

section
variable {done : List Handling} {script : Nat → Except InsertError Unit}

/-- A message that is not fatal had its insert answered. -/
theorem Attempt.answer?_isSome {m : Message} {a : Attempt} (h : a.fatal? m = none) :
    a.answer?.isSome := by
  cases a with
  | undecodable cause => cases h
  | tried row answer => rfl

/-- Where nothing is kept no message that was survived is fatal. -/
theorem Handled.not_fatal {relay : Relay} {kept : Bool} {batch rest : List Message}
    {events : List Event} (hh : Handled relay kept batch done rest events)
    (hp : relay.settings.failurePolicy = .abort) :
    ∀ x ∈ done, x.attempt.fatal? x.message = none := by
  intro x hx
  obtain ⟨d, hd⟩ := hh.survived x hx
  exact Attempt.not_fatal_of_verdict (hp ▸ (Handling.verdict_eq_ok.1 hd).2)

variable (hat : ∀ x ∈ done, x.attempt.At x.message)
  (hs : ∀ x ∈ done, x.attempt.fatal? x.message = none)
  (hscript : ∀ i a, (done.filterMap (·.attempt.answer?))[i]? = some a → a = script i)
include hs hscript

theorem answer?_of_script {i : Nat} {x : Handling} (hx : done[i]? = some x) :
    x.attempt.answer? = some (script i) := by
  obtain ⟨a, ha⟩ := Option.isSome_iff_exists.1
    (Attempt.answer?_isSome (hs x (List.mem_of_getElem? hx)))
  have hi : (done.filterMap (·.attempt.answer?))[i]? = some a := by
    rw [getElem?_filterMap fun y hy => Attempt.answer?_isSome (hs y hy), hx]
    exact ha
  rw [ha, hscript i a hi]

include hat in
theorem attempt_of_script {i : Nat} {x : Handling} (hx : done[i]? = some x) :
    Attempt.of x.message (script i) = x.attempt := by
  refine Attempt.of_eq (hat x (List.mem_of_getElem? hx)) fun a ha => ?_
  rw [answer?_of_script hs hscript hx] at ha
  exact (Option.some.inj ha).symm

theorem admittedIds_of_script (policy : AckPolicy) (rest : List Message) :
    admittedIds policy done =
      admittedBefore policy (done.map (·.message) ++ rest) script done.length := by
  have htake : (done.map (·.message) ++ rest).take done.length = done.map (·.message) := by
    rw [← done.length_map (f := (·.message)), List.take_left]
  cases policy with
  | afterAttempt =>
    rw [admittedBefore, htake]
    simp [admittedIds, Attempt.isAdmitted]
  | afterInsert =>
    rw [admittedBefore, htake]
    have hfilter : done.zipIdx.filter (fun x => (script x.2).isOk) =
        done.zipIdx.filter (fun x => x.1.attempt.isInserted) := by
      refine List.filter_congr fun x hx => ?_
      rw [Attempt.isInserted_eq,
        answer?_of_script hs hscript (List.mem_zipIdx_iff_getElem?.1 hx)]
      rfl
    have hdone : done.filter (fun x => x.attempt.isInserted) =
        (done.zipIdx.filter (fun x => x.1.attempt.isInserted)).map Prod.fst := by
      conv_lhs => rw [← List.zipIdx_map_fst 0 done]
      rw [List.filter_map]
      rfl
    have hzip : (done.map (·.message)).zipIdx =
        done.zipIdx.map (Prod.map (·.message) id) := List.zipIdx_map ..
    rw [hzip, List.filter_map, List.map_map]
    change _ = (done.zipIdx.filter (fun x => (script x.2).isOk)).map _
    rw [hfilter]
    simp only [admittedIds, Attempt.isAdmitted, Bool.false_or, decide_false, hdone,
      List.map_map, reduceCtorEq]
    rfl

include hat in
theorem fatalAt?_of_script (rest : List Message) {i : Nat} (hi : i < done.length) :
    fatalAt? (done.map (·.message) ++ rest) script i = none := by
  have hx : done[i]? = some done[i] := List.getElem?_eq_getElem hi
  have hmessage : (done.map (·.message) ++ rest)[i]? = some done[i].message := by
    rw [List.getElem?_append_left (by simpa using hi), List.getElem?_map, hx]
    rfl
  rw [fatalAt?, hmessage, Option.bind_some, attempt_of_script hat hs hscript hx]
  exact hs _ (List.getElem_mem hi)

end

section
variable {relay : Relay} {kept : Bool} {batch rest : List Message} {done : List Handling}
  {h : Handling} {events last acked tail : List Event} {r : StepEnd} {e : RelayError}
  {answer : Option (Except QueueError Unit)} {script : Nat → Except InsertError Unit}

/-- A journal that goes on with acknowledging tells the batch and the answers of its inserts. -/
theorem pulled_account (lines : List Log.Line) (pulled : List Message)
    (hall : DeliveredAll relay kept done events)
    (htail : ∃ calls, accountOf tail = { ackCalls := calls }) :
    (accountOf (pullEvents relay (.answered (.ok pulled)) lines ++ events ++ tail)).batches =
        [pulled] ∧
      (accountOf (pullEvents relay (.answered (.ok pulled)) lines ++ events ++
        tail)).insertAnswers = (done.filterMap (·.attempt.answer?)).map .answered := by
  obtain ⟨calls, htail⟩ := htail
  rw [accountOf_append, accountOf_append, pullEvents_account, hall.account, htail,
    ← accountAll_insertAnswers relay kept]
  simp [accountAll]

theorem script_of_answered {answers : List (Except InsertError Unit)}
    (hscript : ∀ (i : Nat) a, (answers.map Awaited.answered)[i]? = some a →
      a = Awaited.answered (script i)) :
    ∀ (i : Nat) a, answers[i]? = some a → a = script i := by
  intro i a ha
  refine Awaited.answered.inj (hscript i _ ?_)
  rw [List.getElem?_map, ha]
  rfl

/-- A batch that was handled to its end has no fatal message. -/
theorem not_firstFatal_of_handled (hp : relay.settings.failurePolicy = .abort)
    (hh : Handled relay kept batch done [] events)
    (hscript : ∀ i a, (done.filterMap (·.attempt.answer?))[i]? = some a → a = script i) :
    ∀ k e, ¬ FirstFatal batch script k e := by
  rintro k e ⟨hk, -⟩
  rw [hh.batch_eq] at hk
  by_cases hlt : k < done.length
  · rw [fatalAt?_of_script hh.delivered.at (hh.not_fatal hp) hscript [] hlt] at hk
    cases hk
  · rw [fatalAt?, List.getElem?_eq_none (by simpa using hlt)] at hk
    cases hk

/-- The inserts that the relay went on after were answered by the script, and so was the one it
broke off at. -/
theorem script_concat (hs : ∀ x ∈ done, x.attempt.fatal? x.message = none)
    (hscript : ∀ i a, ((done ++ [h]).filterMap (·.attempt.answer?))[i]? = some a → a = script i) :
    (∀ i a, (done.filterMap (·.attempt.answer?))[i]? = some a → a = script i) ∧
      ∀ a, h.attempt.answer? = some a → a = script done.length := by
  rw [List.filterMap_append] at hscript
  refine ⟨fun i a ha => hscript i a ?_, fun a ha => hscript done.length a ?_⟩
  · rw [List.getElem?_append_left (List.getElem?_eq_some_iff.1 ha).choose, ha]
  · have hlen := length_filterMap_of_isSome fun x hx => Attempt.answer?_isSome (hs x hx)
    rw [List.getElem?_append_right (Nat.le_of_eq hlen), hlen]
    simp [ha]

/-- Where a batch was broken off is its first fatal message. -/
theorem firstFatal_of_broken (hp : relay.settings.failurePolicy = .abort)
    (hh : Handled relay kept batch done (h.message :: rest) events)
    (hd : Delivered relay kept h last)
    (hv : h.verdict relay kept = .error e)
    (hscript : ∀ i a, ((done ++ [h]).filterMap (·.attempt.answer?))[i]? = some a → a = script i) :
    FirstFatal batch script done.length e := by
  have hs := hh.not_fatal hp
  obtain ⟨hdone, hlast⟩ := script_concat hs hscript
  rw [hh.batch_eq]
  refine ⟨?_, fun i hi => fatalAt?_of_script hh.delivered.at hs hdone _ hi⟩
  have hmessage : (done.map (·.message) ++ h.message :: rest)[done.length]? = some h.message := by
    rw [List.getElem?_append_right (by simp)]
    simp
  rw [fatalAt?, hmessage, Option.bind_some, Attempt.of_eq hd.at hlast]
  rw [Handling.verdict_of_keptReason?_eq_none (Attempt.keptReason?_abort hp ..)] at hv
  exact (Attempt.verdict_error hv).2

theorem stoppedAt_of_broken (hp : relay.settings.failurePolicy = .abort) (lines : List Log.Line)
    (hh : Handled relay kept batch done (h.message :: rest) events)
    (hd : Delivered relay kept h last)
    (hacked : Acked relay (admittedIds relay.settings.ackPolicy done) answer acked)
    (htail : accountOf tail = {}) (hr : r = .failed e ∨ r = .unanswered ∧ answer = none)
    (hscript : ∀ i a, ((done ++ [h]).filterMap (·.attempt.answer?))[i]? = some a → a = script i) :
    StoppedAt relay r (pullEvents relay (.answered (.ok batch)) lines ++ events ++ last ++ acked ++
      tail) batch script done.length e := by
  have hs := hh.not_fatal hp
  have hall := hh.delivered.concat hd
  have htake : batch.take (done.length + 1) = (done ++ [h]).map (·.message) := by
    rw [hh.batch_eq, List.take_append, List.length_map]
    simp [List.take_of_length_le]
  have hids : admittedIds relay.settings.ackPolicy done =
      admittedBefore relay.settings.ackPolicy batch script done.length := by
    rw [hh.batch_eq]
    exact admittedIds_of_script hs (script_concat hs hscript).1 _ _
  have haccount : accountOf (pullEvents relay (.answered (.ok batch)) lines ++ events ++ last ++
      acked ++ tail) = { batches := [batch] } ++ accountAll relay kept (done ++ [h]) ++
        accountOf acked := by
    rw [accountOf_append, accountOf_append, List.append_assoc _ events, accountOf_append,
      pullEvents_account, hall.account, htail, Account.append_empty]
  refine
    { ended := ?_
      decodable := ?_
      decodings := ?_
      insertCalls := ?_
      acknowledged := ?_ }
  · refine hr.imp_right fun ⟨hr, hanswer⟩ => ⟨hr, ?_⟩
    subst hanswer
    rw [← hids]
    obtain ⟨lines', rfl⟩ := hacked.sent_of_none
    simp
  · intro m hm
    rw [hh.batch_eq, ← done.length_map (f := (·.message)), List.take_left] at hm
    obtain ⟨x, hx, rfl⟩ := List.mem_map.1 hm
    rw [← Attempt.row?_eq (hh.delivered.at x hx)]
    exact Attempt.row?_isSome.2 (Attempt.answer?_isSome (hs x hx))
  · rw [haccount, hacked.account, htake, ← accountAll_decodings relay kept
      hall.at]
    simp
  · rw [haccount, hacked.account, htake, ← accountAll_insertCalls relay kept
      hall.at]
    simp
  · refine ⟨pullEvents relay (.answered (.ok batch)) lines ++ events ++ last, acked ++ tail,
      by simp, ?_, ?_, ?_⟩
    · rw [List.append_assoc, accountOf_append, pullEvents_account, hall.account]
      rfl
    · rw [accountOf_append, htail, hacked.account]
      rfl
    · rw [accountOf_append, htail, hacked.account, hids]
      simp

section
variable {pulled : List Message} {stats stats' : Stats} {lines : List Log.Line}

theorem stops_of_handled (hp : relay.settings.failurePolicy = .abort)
    (hh : Handled relay kept pulled done [] events)
    (htail : ∃ calls, accountOf tail = { ackCalls := calls })
    (hr : ∀ id, (∀ cause, r ≠ .failed (.decode id cause)) ∧
      ∀ cause, r ≠ .failed (.insert id cause))
    (hbatch : (accountOf (pullEvents relay (.answered (.ok pulled)) lines ++ events ++
      tail)).batches = [batch])
    (hscript : ∀ (i : Nat) a, (accountOf (pullEvents relay (.answered (.ok pulled)) lines ++
      events ++ tail)).insertAnswers[i]? = some a → a = Awaited.answered (script i)) :
    StopsAtFatal relay r (pullEvents relay (.answered (.ok pulled)) lines ++ events ++ tail)
      stats stats' batch script := by
  obtain ⟨hb, ha⟩ := pulled_account lines pulled hh.delivered htail
  rw [ha] at hscript
  obtain rfl : pulled = batch := List.singleton_inj.1 (hb.symm.trans hbatch)
  have hnone := not_firstFatal_of_handled hp hh (script_of_answered hscript)
  exact ⟨fun k e hk => absurd hk (hnone k e), fun _ => hr⟩

theorem stops_of_broken (hp : relay.settings.failurePolicy = .abort)
    (hh : Handled relay kept pulled done (h.message :: rest) events)
    (hd : Delivered relay kept h last)
    (hv : h.verdict relay kept = .error e)
    (hacked : Acked relay (admittedIds relay.settings.ackPolicy done) answer acked)
    (htail : accountOf tail = {}) (hr : r = .failed e ∨ r = .unanswered ∧ answer = none)
    (hbatch : (accountOf (pullEvents relay (.answered (.ok pulled)) lines ++ events ++ last ++
      acked ++ tail)).batches = [batch])
    (hscript : ∀ (i : Nat) a, (accountOf (pullEvents relay (.answered (.ok pulled)) lines ++
      events ++ last ++ acked ++ tail)).insertAnswers[i]? = some a →
        a = Awaited.answered (script i)) :
    StopsAtFatal relay r (pullEvents relay (.answered (.ok pulled)) lines ++ events ++ last ++
      acked ++ tail) stats stats batch script := by
  have hend : ∃ calls, accountOf (acked ++ tail) = { ackCalls := calls } := by
    rw [accountOf_append, htail, hacked.account]
    exact ⟨_, rfl⟩
  obtain ⟨hb, ha⟩ := pulled_account lines pulled (hh.delivered.concat hd) hend
  simp only [← List.append_assoc] at hb ha
  rw [ha] at hscript
  obtain rfl : pulled = batch := List.singleton_inj.1 (hb.symm.trans hbatch)
  have hanswers := script_of_answered hscript
  have hfirst := firstFatal_of_broken hp hh hd hv hanswers
  refine ⟨fun k e' hk => ?_, fun hnone => absurd hfirst (hnone _ e)⟩
  obtain ⟨rfl, rfl⟩ := hfirst.unique hk
  exact ⟨stoppedAt_of_broken hp lines hh hd hacked htail hr hanswers, rfl⟩

end

end

/-- **The first fatal message stops the batch.** -/
theorem fatal_message_stops_batch {svc : Services σ} {relay : Relay} {s : State σ}
    {batch : List Message} {script : Nat → Except InsertError Unit}
    (hp : relay.settings.failurePolicy = .abort)
    (hbatch : (accountOf (stepEvents svc relay s)).batches = [batch])
    (hscript : ∀ (i : Nat) a, (accountOf (stepEvents svc relay s)).insertAnswers[i]? = some a →
      a = Awaited.answered (script i))
    (hgo : ∀ index total, Event.stoppedBefore index total ∉ stepEvents svc relay s) :
    StopsAtFatal relay (step svc relay s).1 (stepEvents svc relay s) s.stats
      (step svc relay s).2.stats batch script := by
  have hround := (step_round svc relay s).round
  generalize stepEvents svc relay s = events at hbatch hscript hgo hround ⊢
  generalize (step svc relay s).1 = r at hround ⊢
  generalize (step svc relay s).2.stats = stats at hround ⊢
  cases hround with
  | stopped => cases hbatch
  | pullGivenUp lines =>
    rw [pullEvents_account] at hbatch
    cases hbatch
  | pullFailed cause lines =>
    rw [pullEvents_account] at hbatch
    cases hbatch
  | idle count delay lines lines' ho =>
    have htail : ∀ n d, accountOf (.idled n d :: notes lines') = {} := fun n d =>
      (accountOf_cons _ _).trans (accountOf_notes lines')
    rw [accountOf_append, pullEvents_account, htail] at hbatch
    obtain rfl : [] = batch := List.singleton_inj.1 hbatch
    exact ⟨fun k e hk => absurd hk.1 (by simp [fatalAt?]), fun _ id => ⟨by simp, by simp⟩⟩
  | @cut pulled done rest es last p lines hh hend =>
    cases hend with
    | stoppedBefore m rest => exact absurd (by simp) (hgo done.length pulled.length)
    | @stoppedDuring m row rest key lines' hrow =>
      -- the insert that was given up has no answer
      have habandoned : Awaited.abandoned ∈ (accountOf (pullEvents relay (.answered (.ok pulled))
          lines ++ es ++ (askEvents relay m row key .abandoned lines' ++
            [.stoppedDuring (done.length + 1) pulled.length]))).insertAnswers := by
        rw [accountOf_append, accountOf_append (askEvents ..), askEvents_account]
        simp
      obtain ⟨i, hi⟩ := List.mem_iff_getElem?.1 habandoned
      cases hscript i _ hi
  | broken lines hh hd hv hacked =>
    exact stops_of_broken hp hh hd hv hacked (flushEvents_account _ _) (.inl rfl) hbatch hscript
  | brokenUnanswered lines hh hd hv hacked =>
    rw [← List.append_nil (_ ++ _)] at hbatch hscript ⊢
    exact stops_of_broken hp hh hd hv hacked rfl (.inr ⟨rfl, rfl⟩) hbatch hscript
  | processed lines hb hh hacked =>
    rw [List.append_assoc] at hbatch hscript ⊢
    refine stops_of_handled hp hh ?_ (by simp) hbatch hscript
    rw [accountOf_append, hacked.account]
    exact ⟨_, rfl⟩
  | refused lines hh hacked =>
    exact stops_of_handled hp hh ⟨_, hacked.account⟩ (by simp) hbatch hscript
  | unanswered lines hh hacked =>
    exact stops_of_handled hp hh ⟨_, hacked.account⟩ (by simp) hbatch hscript

/-- The pair is broken off at its second message where nothing is kept. -/
theorem fatal_message_stops_pair :
    let relay := sampleRelay { ackPolicy := .afterInsert }
    let s := sampleState none
    let script := fun _ => .ok ()
    FirstFatal samplePair script 1 (.decode "m2" (.json ⟨.unfinishedValue, ⟨1, 0⟩⟩)) ∧
    StopsAtFatal relay (step Script.services relay s).1 (stepEvents Script.services relay s) s.stats
      (step Script.services relay s).2.stats samplePair script := by
  intro relay s script
  have hanswers : (accountOf (stepEvents Script.services relay s)).insertAnswers =
      [.answered (.ok ())] := rfl
  have hgo : (stepEvents Script.services relay s).all
      (fun e => match e with | .stoppedBefore .. => false | _ => true) := rfl
  refine ⟨⟨rfl, fun i hi => ?_⟩, fatal_message_stops_batch rfl rfl ?_ ?_⟩
  · obtain rfl : i = 0 := by omega
    rfl
  · intro i a ha
    rw [hanswers] at ha
    simpa using List.mem_of_getElem? ha
  · intro index total hmem
    simpa using List.all_eq_true.1 hgo _ hmem

end Relay

end RowRelay
