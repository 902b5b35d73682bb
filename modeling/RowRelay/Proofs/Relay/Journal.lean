import RowRelay.Proofs.DeadLetter.Store
import RowRelay.Relay.Step

/-!
# Reading a journal

`accountOf journal` is what a journal tells about the calls that were made, each kind in the order
of the events: the batches pulled, the rows read, the inserts asked for and their answers, the ids
of every acknowledge call, and the letters written to the disk, with what became of them. It is read
event by event, so it splits over `++` (`accountOf_append`) and passes over the lines that services
logged (`accountOf_notes`). That the services get these calls and no others is shown of whole runs
(`run_calls`).

`State.Wrote s events s'` says what came between two states in the middle of a step: the journal
grew by the events, and the store went through exactly the writes among them. The calls that only
write into the journal are put in this form here (`note_wrote`, `settle_wrote`).
-/

set_option autoImplicit false

namespace RowRelay

open BigQuery (TableRef Row InsertError)
open PubSub (Message QueueError)

namespace Relay

/-- An insert that was asked for. -/
structure InsertCall where
  table : TableRef
  row : Row
  retries : UInt32

/-! ## Events -/

namespace Event

def batch? : Event → Option (List Message)
  | .pulled _ _ _ (.answered (.ok batch)) => some batch
  | _ => none

def decoding? : Event → Option (String × Row)
  | .decoded messageId row => some (messageId, row)
  | _ => none

def insertCall? : Event → Option InsertCall
  | .inserted table row _ retries _ => some ⟨table, row, retries⟩
  | _ => none

def insertAnswer? : Event → Option (Awaited (Except InsertError Unit))
  | .inserted _ _ _ _ answer => some answer
  | _ => none

def ackCall? : Event → Option (List String)
  | .acknowledged _ ackIds _ => some ackIds
  | _ => none

def write? : Event → Option Store.Write
  | .recorded letter fault? => some ⟨letter, fault?⟩
  | _ => none

end Event

/-- The lines that a service logged, as events. -/
def notes (lines : List Log.Line) : List Event :=
  lines.map .noted

/-! ## Accounts -/

/-- What a journal tells about calls. -/
structure Account where
  /-- The batches that pulls brought, the empty ones too. -/
  batches : List (List Message) := []
  decodings : List (String × Row) := []
  insertCalls : List InsertCall := []
  insertAnswers : List (Awaited (Except InsertError Unit)) := []
  /-- The ids of every acknowledge call. -/
  ackCalls : List (List String) := []
  writes : List Store.Write := []

/-- The letters that were recorded without a fault. -/
def Account.letters (a : Account) : List DeadLetter :=
  a.writes.filterMap Store.Write.kept?

/-- One account after the other. -/
instance : Append Account where
  append a b := ⟨a.batches ++ b.batches, a.decodings ++ b.decodings,
    a.insertCalls ++ b.insertCalls, a.insertAnswers ++ b.insertAnswers,
    a.ackCalls ++ b.ackCalls, a.writes ++ b.writes⟩

def accountOf (journal : List Event) : Account where
  batches := journal.filterMap Event.batch?
  decodings := journal.filterMap Event.decoding?
  insertCalls := journal.filterMap Event.insertCall?
  insertAnswers := journal.filterMap Event.insertAnswer?
  ackCalls := journal.filterMap Event.ackCall?
  writes := journal.filterMap Event.write?

namespace Account

@[simp] theorem append_fields (a b : Account) :
    (a ++ b).batches = a.batches ++ b.batches ∧ (a ++ b).decodings = a.decodings ++ b.decodings ∧
      (a ++ b).insertCalls = a.insertCalls ++ b.insertCalls ∧
      (a ++ b).insertAnswers = a.insertAnswers ++ b.insertAnswers ∧
      (a ++ b).ackCalls = a.ackCalls ++ b.ackCalls ∧ (a ++ b).writes = a.writes ++ b.writes :=
  ⟨rfl, rfl, rfl, rfl, rfl, rfl⟩

@[simp] theorem append_letters (a b : Account) : (a ++ b).letters = a.letters ++ b.letters :=
  List.filterMap_append

@[simp] theorem append_empty (a : Account) : a ++ ({} : Account) = a := by
  change Account.mk _ _ _ _ _ _ = a
  simp

@[simp] theorem empty_append (a : Account) : ({} : Account) ++ a = a := rfl

end Account

@[simp] theorem accountOf_nil : accountOf [] = {} := rfl

theorem accountOf_append (j k : List Event) : accountOf (j ++ k) = accountOf j ++ accountOf k := by
  change Account.mk _ _ _ _ _ _ = Account.mk _ _ _ _ _ _
  simp [accountOf]

theorem accountOf_cons (e : Event) (j : List Event) :
    accountOf (e :: j) = accountOf [e] ++ accountOf j :=
  accountOf_append [e] j

@[simp] theorem accountOf_notes (lines : List Log.Line) : accountOf (notes lines) = {} := by
  induction lines with
  | nil => rfl
  | cons l lines ih => exact (accountOf_cons (.noted l) _).trans ih

/-! ## Writing -/

variable {σ : Type}

/-- Between two states the events were written, in the journal and on the disk; nothing was
counted. -/
structure State.Wrote (s : State σ) (events : List Event) (s' : State σ) : Prop where
  journal : s'.journal = s.journal ++ events
  store : s'.store = s.store.map (·.writeAll (accountOf events).writes)
  stats : s'.stats = s.stats
  backoff : s'.backoff = s.backoff

namespace State

theorem Wrote.refl (s : State σ) : s.Wrote [] s :=
  ⟨by simp, by cases s.store <;> rfl, rfl, rfl⟩

theorem Wrote.trans {s₁ s₂ s₃ : State σ} {es fs : List Event} (h₁ : s₁.Wrote es s₂)
    (h₂ : s₂.Wrote fs s₃) : s₁.Wrote (es ++ fs) s₃ := by
  refine ⟨?_, ?_, h₂.stats.trans h₁.stats, h₂.backoff.trans h₁.backoff⟩
  · rw [h₂.journal, h₁.journal, List.append_assoc]
  · rw [h₂.store, h₁.store, Option.map_map]
    simp [Function.comp_def, Store.writeAll_append, accountOf_append]

/-- Whether there is a store does not change. -/
theorem Wrote.kept {s s' : State σ} {es : List Event} (h : s.Wrote es s') :
    s'.store.isSome = s.store.isSome := by
  rw [h.store, Option.isSome_map]

/-- Counting the same on both sides makes no difference. -/
theorem Wrote.counted {s s' : State σ} {es : List Event} (h : s.Wrote es s') (f : Stats → Stats) :
    ({ s with stats := f s.stats } : State σ).Wrote es { s' with stats := f s'.stats } :=
  ⟨h.journal, h.store, congrArg f h.stats, h.backoff⟩

theorem note_wrote (s : State σ) {e : Event} (h : (accountOf [e]).writes = []) :
    s.Wrote [e] (s.note e) :=
  ⟨rfl, by cases hs : s.store <;> simp [note, hs, h], rfl, rfl⟩

theorem settle_wrote {α : Type} (s : State σ) (r : Reply σ α) {e : Event}
    (h : (accountOf [e]).writes = []) : s.Wrote (e :: notes r.lines) (s.settle r e) := by
  refine ⟨rfl, ?_, rfl, rfl⟩
  rw [accountOf_cons, accountOf_notes, Account.append_empty, h]
  cases hs : s.store <;> simp [settle, hs]

end State

end Relay

end RowRelay
