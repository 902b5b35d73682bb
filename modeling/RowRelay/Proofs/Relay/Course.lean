import RowRelay.Proofs.Relay.Batch

/-!
# What comes of messages, whatever their batches

`course relay kept ms answers` is what a relay makes of messages that come one after the other:
their inserts are answered in order, and so are the letters written where failures are kept. It is
those that the relay goes on after, and the one it stops at. It knows of no batches, and what comes
of batches one after the other is what comes of all their messages (`course_append`).

`effectsOf journal` is what a journal tells of the outside as far as batches do not show: it joins
the ids of all calls that acknowledge. So the effects of courses add up (`Course.effects_andThen`).
-/

set_option autoImplicit false

namespace RowRelay.Relay

open BigQuery (InsertError)
open PubSub (Message)

/-! ## Answers -/

/-- The answers to inserts, and what the disk makes of letters, in the order in which they are asked
for. -/
structure Answers where
  inserts : Nat → Except InsertError Unit
  writes : Nat → Option Store.RecordFault

/-- The answers left behind the insert of a message. -/
def Answers.behindInsert (answers : Answers) (m : Message) : Answers :=
  if (rowOf? m).isSome then { answers with inserts := fun i => answers.inserts (i + 1) }
  else answers

section
variable (relay : Relay) (kept : Bool)

/-- The answers left once a message was given up, if it was. -/
def Answers.behindWrite (answers : Answers) (h : Handling) : Answers :=
  if (h.attempt.keptReason? relay kept).isSome then
    { answers with writes := fun i => answers.writes (i + 1) }
  else answers

/-! ## Courses -/

/-- What comes of messages one after the other; when it was is left open. -/
structure Course where
  handled : List Handling
  /-- The message at which the relay stops. -/
  stopper : Option Handling
  left : Answers

/-- One course and another behind it, of which nothing comes once the relay stopped. -/
def Course.andThen (c d : Course) : Course :=
  match c.stopper with
  | some _ => c
  | none => ⟨c.handled ++ d.handled, d.stopper, d.left⟩

/-- The error with which the relay stops. -/
def Course.stop? (c : Course) : Option RelayError :=
  c.stopper.bind fun h =>
    match h.verdict relay kept with
    | .error e => some e
    | .ok _ => none

/-- A message with the next answers. -/
def handlingOf (m : Message) (answers : Answers) : Handling :=
  ⟨m, .of m (answers.inserts 0), 0, answers.writes 0⟩

/-- The answers left behind a message. -/
def Answers.behind (answers : Answers) (m : Message) : Answers :=
  (answers.behindInsert m).behindWrite relay kept (handlingOf m answers)

/-- What comes of a message. -/
def courseOf (m : Message) (answers : Answers) : Course :=
  match (handlingOf m answers).verdict relay kept with
  | .ok _ => ⟨[handlingOf m answers], none, answers.behind relay kept m⟩
  | .error _ => ⟨[], some (handlingOf m answers), answers.behind relay kept m⟩

def course : List Message → Answers → Course
  | [], answers => ⟨[], none, answers⟩
  | m :: ms, answers =>
    let c := courseOf relay kept m answers
    c.andThen (course ms c.left)

end

section
variable {relay : Relay} {kept : Bool}

theorem Course.andThen_of_some {c : Course} {h : Handling} (hc : c.stopper = some h) (d : Course) :
    c.andThen d = c := by
  rw [andThen, hc]

theorem Course.andThen_of_none {c : Course} (hc : c.stopper = none) (d : Course) :
    c.andThen d = ⟨c.handled ++ d.handled, d.stopper, d.left⟩ := by
  rw [andThen, hc]

theorem course_cons_of_ok {m : Message} {answers : Answers} {d : Delivery}
    (hv : (handlingOf m answers).verdict relay kept = .ok d) (ms : List Message) :
    course relay kept (m :: ms) answers =
      ⟨handlingOf m answers :: (course relay kept ms (answers.behind relay kept m)).handled,
        (course relay kept ms (answers.behind relay kept m)).stopper,
        (course relay kept ms (answers.behind relay kept m)).left⟩ := by
  simp [course, courseOf, hv, Course.andThen]

theorem course_cons_of_error {m : Message} {answers : Answers} {e : RelayError}
    (hv : (handlingOf m answers).verdict relay kept = .error e) (ms : List Message) :
    course relay kept (m :: ms) answers =
      ⟨[], some (handlingOf m answers), answers.behind relay kept m⟩ := by
  simp [course, courseOf, hv, Course.andThen]

/-- The relay stops with an error wherever it stops, and else all messages were handled. -/
theorem course_not_stopped (ms : List Message) :
    ∀ {answers : Answers}, (course relay kept ms answers).stop? relay kept = none →
      (course relay kept ms answers).stopper = none ∧
      (course relay kept ms answers).handled.length = ms.length := by
  induction ms with
  | nil => exact fun _ => ⟨rfl, rfl⟩
  | cons m ms ih =>
    intro answers h
    cases hv : (handlingOf m answers).verdict relay kept with
    | error e =>
      rw [course_cons_of_error hv] at h
      simp [Course.stop?, hv] at h
    | ok d =>
      rw [course_cons_of_ok hv] at h ⊢
      obtain ⟨hstopper, hlen⟩ := ih h
      exact ⟨hstopper, congrArg (· + 1) hlen⟩

theorem course_append (ms ns : List Message) (answers : Answers) :
    course relay kept (ms ++ ns) answers = (course relay kept ms answers).andThen
      (course relay kept ns (course relay kept ms answers).left) := by
  induction ms generalizing answers with
  | nil => rfl
  | cons m ms ih =>
    rw [List.cons_append, course, course]
    obtain ⟨done, _ | h, left⟩ := courseOf relay kept m answers
    · simp only [Course.andThen, ih]
      obtain ⟨done', _ | h', left'⟩ := course relay kept ms left
      · simp only [List.append_assoc]
      · rfl
    · rfl

end

/-! ## Effects -/

/-- What a relay does to the outside, but for the times of letters and for which calls acknowledge
which ids. -/
structure Effects where
  insertCalls : List InsertCall := []
  /-- The letters written, with what the disk made of each. -/
  writes : List Store.Write := []
  ackIds : List String := []

namespace Effects

/-- The letters that were recorded. -/
def letters (e : Effects) : List DeadLetter :=
  e.writes.filterMap Store.Write.kept?

/-- One after the other. -/
instance : Append Effects where
  append a b := ⟨a.insertCalls ++ b.insertCalls, a.writes ++ b.writes, a.ackIds ++ b.ackIds⟩

@[simp] theorem append_fields (a b : Effects) :
    (a ++ b).insertCalls = a.insertCalls ++ b.insertCalls ∧
      (a ++ b).writes = a.writes ++ b.writes ∧ (a ++ b).ackIds = a.ackIds ++ b.ackIds :=
  ⟨rfl, rfl, rfl⟩

@[simp] theorem append_empty (a : Effects) : a ++ ({} : Effects) = a := by
  change Effects.mk _ _ _ = a
  simp

end Effects

/-- The effects that an account tells of. -/
def Account.effects (a : Account) : Effects :=
  ⟨a.insertCalls, a.writes.map Store.Write.undated, a.ackCalls.flatten⟩

/-- The letters recorded are those of the account without their times. -/
theorem Account.effects_letters (a : Account) :
    a.effects.letters = a.letters.map DeadLetter.undated := by
  rw [letters_undated]
  rfl

theorem Account.effects_append (a b : Account) : (a ++ b).effects = a.effects ++ b.effects := by
  change Effects.mk _ _ _ = Effects.mk _ _ _
  simp [effects]

/-- The effects that a journal tells of. -/
def effectsOf (journal : List Event) : Effects :=
  (accountOf journal).effects

theorem effectsOf_append (j k : List Event) : effectsOf (j ++ k) = effectsOf j ++ effectsOf k := by
  rw [effectsOf, accountOf_append, Account.effects_append]
  rfl

namespace Handling

/-- Two handlings differ in their times alone, and in what they say of the disk where it was asked
for nothing. -/
structure Alike (relay : Relay) (kept : Bool) (h h' : Handling) : Prop where
  message : h.message = h'.message
  attempt : h.attempt = h'.attempt
  fault {reason : String} :
    h'.attempt.keptReason? relay kept = some reason → h.fault? = h'.fault?

section
variable {relay : Relay} {kept : Bool} {h h' : Handling}

theorem Alike.verdict (ha : Alike relay kept h h') :
    h.verdict relay kept = h'.verdict relay kept := by
  unfold Handling.verdict
  rw [ha.attempt, ha.message]
  cases hk : h'.attempt.keptReason? relay kept with
  | none => rfl
  | some reason => rw [ha.fault hk]

theorem Alike.effects (ha : Alike relay kept h h') :
    (h.account relay kept).effects = (h'.account relay kept).effects := by
  have hwrites : (h.write? relay kept).map Store.Write.undated =
      (h'.write? relay kept).map Store.Write.undated := by
    rw [write?, write?, ha.attempt]
    cases hk : h'.attempt.keptReason? relay kept with
    | none => rfl
    | some reason =>
      rw [ha.fault hk, ha.message]
      rfl
  simp only [Account.effects, account, ← Option.toList_map, hwrites, ha.attempt]

end

end Handling

namespace Course

section
variable (relay : Relay) (kept : Bool)

/-- How the loop over the messages ends. -/
def loopEnd (p : Progress) (c : Course) : BatchEnd :=
  match c.stop? relay kept with
  | some e => .broken e (p.after relay.settings.ackPolicy c.handled)
  | none => .delivered (p.after relay.settings.ackPolicy c.handled)

/-- What is done before anything is acknowledged. -/
def delivered (c : Course) : Effects :=
  (accountAll relay kept (c.handled ++ c.stopper.toList)).effects

def effects (c : Course) : Effects :=
  c.delivered relay kept ++ { ackIds := admittedIds relay.settings.ackPolicy c.handled }

theorem effects_andThen {c : Course} (hc : c.stopper = none) (d : Course) :
    (c.andThen d).effects relay kept = c.effects relay kept ++ d.effects relay kept := by
  rw [andThen_of_none hc]
  change Effects.mk _ _ _ = Effects.mk _ _ _
  simp [effects, delivered, Account.effects, accountAll, admittedIds, hc]

end

end Course

end RowRelay.Relay
