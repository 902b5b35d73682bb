import RowRelay.Proofs.Relay.Position

/-!
# What a relay does to the world

A relay changes the world through its services alone. A relation between a world and a later one
that all their calls keep (`Services.Keeps`) therefore holds between the worlds of a run
(`step_keeps`, `steps_keeps`), and outside of deliveries it is enough that the other calls keep it
(`Services.KeepsQuiet`).

Services over a world of which others see a part (`Services.Over`) make a relay do the same as
these (`run_over`).
-/

set_option autoImplicit false

namespace RowRelay.Relay

open PubSub (Message)

variable {σ τ : Type}

/-! ## Relations between worlds -/

/-- The calls that neither insert nor hand out a key keep a relation between the worlds before and
behind them. -/
structure Services.KeepsQuiet (svc : Services σ) (R : σ → σ → Prop) : Prop where
  refl (w : σ) : R w w
  trans {w₁ w₂ w₃ : σ} : R w₁ w₂ → R w₂ w₃ → R w₁ w₃
  pull (subscription : String) (most : UInt32) (immediately : Bool) (w : σ) :
    R w (svc.pull subscription most immediately w).world
  acknowledge (subscription : String) (ids : List String) (w : σ) :
    R w (svc.acknowledge subscription ids w).world
  pause (delay : Duration) (w : σ) : R w (svc.pause delay w).world
  record (letter : DeadLetter) (w : σ) : R w (svc.record letter w).2
  draw (w : σ) : R w (svc.draw w).2

/-- All calls keep a relation between the worlds before and behind them. -/
structure Services.Keeps (svc : Services σ) (R : σ → σ → Prop) : Prop
    extends svc.KeepsQuiet R where
  insert (table : BigQuery.TableRef) (row : BigQuery.Row) (key : BigQuery.IdempotencyKey)
    (retries : UInt32) (w : σ) : R w (svc.insert table row key retries w).world
  newKey (w : σ) : R w (svc.newKey w).2

section
variable {svc : Services σ} {R : σ → σ → Prop} {relay : Relay} {s : State σ}

section
variable (hsvc : svc.KeepsQuiet R)
include hsvc

theorem acknowledge_keeps (relay : Relay) (ids : List String) (s : State σ) :
    R s.world (acknowledge svc relay ids s).2.world := by
  unfold acknowledge
  split
  · exact hsvc.refl _
  · exact hsvc.acknowledge ..

theorem recordReply_keeps (relay : Relay) (kept : Bool) (m : Message) (x : Attempt) (w : σ) :
    R w (recordReply svc relay kept m x w).2 := by
  unfold recordReply
  split
  · exact hsvc.record ..
  · exact hsvc.refl _

theorem pulledState_keeps (relay : Relay) (s : State σ) :
    R s.world (pulledState svc relay s).world :=
  hsvc.pull ..

theorem afterLoop_keeps (relay : Relay) (total : Nat) (out : BatchEnd × State σ) :
    R out.2.world (afterLoop svc relay total out).2.world := by
  obtain ⟨p | ⟨e, p⟩ | _, s⟩ := out
  · have hacked := acknowledge_keeps hsvc relay p.ackIds s
    change R s.world (finish svc relay total p s).2.world
    unfold finish
    generalize acknowledge svc relay p.ackIds s = out at hacked ⊢
    obtain ⟨_ | (cause | ⟨⟨⟩⟩), s'⟩ := out <;> exact hacked
  · have hacked := acknowledge_keeps hsvc relay p.ackIds s
    change R s.world (breakOff svc relay e p s).2.world
    unfold breakOff
    generalize acknowledge svc relay p.ackIds s = out at hacked ⊢
    obtain ⟨_ | outcome, s'⟩ := out
    · exact hacked
    · cases p.ackIds.isEmpty <;> exact hacked
  · exact hsvc.refl _

theorem NoBatch.keeps {out : StepEnd × State σ} (h : NoBatch svc relay s out) :
    R s.world out.2.world := by
  have hpulled := pulledState_keeps hsvc relay s
  cases h with
  | stopped => exact hsvc.refl _
  | pullGivenUp => exact hpulled
  | pullFailed => exact hpulled
  | idle =>
    have hpaused := hsvc.trans (hsvc.draw (pulledState svc relay s).world)
      (hsvc.pause ((pulledState svc relay s).backoff.miss.delay
        (svc.draw (pulledState svc relay s).world).1) _)
    refine hsvc.trans hpulled ?_
    unfold Relay.idle
    dsimp only [State.note]
    split <;> exact hpaused

end

variable (hsvc : svc.Keeps R)
include hsvc

theorem deliver_keeps (relay : Relay) (m : Message) (s : State σ) :
    R s.world (deliver svc relay m s).2.world := by
  cases hrow : BigQuery.decodeRow m with
  | error cause =>
    obtain ⟨out, hd, hc⟩ := deliver_undecodable svc relay s hrow
    rw [hd, hc.world]
    exact recordReply_keeps hsvc.toKeepsQuiet ..
  | ok row =>
    have hinsert : R s.world (insertReply svc relay row s.world).world :=
      hsvc.trans (hsvc.newKey _) (hsvc.insert ..)
    obtain ⟨s₁, hask, ⟨-, hd⟩ | ⟨answer, out, -, hd, hc⟩⟩ := deliver_decoded svc relay s hrow
    · rw [hd, hask.world]
      exact hinsert
    · rw [hd, hc.world, hask.world]
      exact hsvc.trans hinsert (recordReply_keeps hsvc.toKeepsQuiet ..)

theorem deliverAll_keeps (total : Nat) (ms : List Message) :
    ∀ (index : Nat) (p : Progress) (s : State σ),
      R s.world (deliverAll svc relay total index ms p s).2.world := by
  induction ms with
  | nil => exact fun _ _ _ => hsvc.refl _
  | cons m ms ih =>
    intro index p s
    have hd := deliver_keeps hsvc relay m s
    unfold deliverAll
    split
    · exact hsvc.refl _
    · generalize deliver svc relay m s = out at hd ⊢
      obtain ⟨(e | d) | _, s'⟩ := out
      · exact hd
      · exact hsvc.trans hd (ih ..)
      · exact hd

section
variable {batch : List Message} {index : Nat} {p : Progress} {s' : State σ}

theorem Reaches.keeps (h : Reaches svc relay s batch index p s') : R s.world s'.world := by
  induction h with
  | pulled => exact pulledState_keeps hsvc.toKeepsQuiet relay s
  | @next _ _ s₁ _ m _ _ _ _ hd ih =>
    have := deliver_keeps hsvc relay m s₁
    rw [hd] at this
    exact hsvc.trans ih this

/-- Before a position the messages at all earlier ones were delivered. -/
theorem Reaches.keeps_between {earlier : Nat} (h : Reaches svc relay s batch index p s')
    (hlt : earlier < index) :
    ∃ p₁ s₁ m, Reaches svc relay s batch earlier p₁ s₁ ∧ batch[earlier]? = some m ∧
      R (deliver svc relay m s₁).2.world s'.world := by
  induction h with
  | pulled => cases hlt
  | @next index p s₁ s₂ m d hbefore hm hgoing hd ih =>
    have hdeliver := deliver_keeps hsvc relay m s₁
    rcases Nat.lt_succ_iff_lt_or_eq.1 hlt with hlt | rfl
    · obtain ⟨p₂, s₃, m₂, hreached, hm₂, hkeeps⟩ := ih hlt
      rw [hd] at hdeliver
      exact ⟨p₂, s₃, m₂, hreached, hm₂, hsvc.trans hkeeps hdeliver⟩
    · refine ⟨p, s₁, m, hbefore, hm, ?_⟩
      rw [hd]
      exact hsvc.refl _

theorem Reaches.keeps_behind {m : Message} (h : Reaches svc relay s batch index p s')
    (hm : batch[index]? = some m) (hgoing : svc.cancelled s'.world = false) :
    R (deliver svc relay m s').2.world (step svc relay s).2.world := by
  rw [h.step_eq, drop_of_getElem? hm, deliverAll, if_neg (by simp [hgoing])]
  refine hsvc.trans ?_ (afterLoop_keeps hsvc.toKeepsQuiet ..)
  obtain ⟨(e | d) | _, s''⟩ := deliver svc relay m s'
  · exact hsvc.refl _
  · exact deliverAll_keeps hsvc ..
  · exact hsvc.refl _

end

theorem step_keeps (relay : Relay) (s : State σ) : R s.world (step svc relay s).2.world := by
  rcases step_stops svc relay s with hno | ⟨batch, index, p, s', out, hreached, hstops, hstep⟩
  · exact hno.keeps hsvc.toKeepsQuiet
  · rw [hreached.step_eq]
    exact hsvc.trans (hreached.keeps hsvc)
      (hsvc.trans (deliverAll_keeps hsvc ..) (afterLoop_keeps hsvc.toKeepsQuiet ..))

theorem steps_keeps (relay : Relay) (n : Nat) :
    ∀ s : State σ, R s.world (steps svc relay n s).2.world := by
  induction n with
  | zero => exact fun _ => hsvc.refl _
  | succ n ih =>
    intro s
    refine hsvc.trans (step_keeps hsvc relay s) ?_
    rcases steps_succ svc relay s with hgoes | ⟨r, s', hworld, hends⟩
    · rw [hgoes]
      exact ih _
    · rw [hends, ← hworld]
      exact hsvc.refl _

theorem steps_keeps_behind (relay : Relay) (n : Nat) (s : State σ) :
    R (step svc relay s).2.world (steps svc relay (n + 1) s).2.world := by
  rcases steps_succ svc relay s with hgoes | ⟨r, s', hworld, hends⟩
  · rw [hgoes]
    exact steps_keeps hsvc relay n _
  · rw [hends, ← hworld]
    exact hsvc.refl _

end

/-! ## Part of a world -/

/-- A reply as it is seen in a part of the world. -/
def seenReply {α : Type} (f : τ → σ) (r : Reply τ α) : Reply σ α :=
  ⟨r.answer, r.lines, f r.world⟩

/-- A state as it is seen in a part of the world. -/
def State.seen (f : τ → σ) (s : State τ) : State σ :=
  ⟨f s.world, s.store, s.backoff, s.stats, s.journal⟩

/-- Whatever comes with a state, the state as it is seen. -/
def seenOut {α : Type} (f : τ → σ) (out : α × State τ) : α × State σ :=
  (out.1, out.2.seen f)

section
variable (f : τ → σ) (s : State τ)

theorem seen_world : (s.seen f).world = f s.world := rfl

theorem seen_note (e : Event) : (s.seen f).note e = (s.note e).seen f := rfl

theorem seen_settle {α : Type} (r : Reply τ α) (e : Event) :
    (s.seen f).settle (seenReply f r) e = (s.settle r e).seen f := rfl

theorem seenReply_answer {α : Type} (r : Reply τ α) : (seenReply f r).answer = r.answer := rfl

end

/-- Services over a world do what others do over the part of it that they see. -/
structure Services.Over (svc' : Services τ) (svc : Services σ) (f : τ → σ) : Prop where
  cancelled (w : τ) : svc.cancelled (f w) = svc'.cancelled w
  pull (subscription : String) (most : UInt32) (immediately : Bool) (w : τ) :
    svc.pull subscription most immediately (f w) =
      seenReply f (svc'.pull subscription most immediately w)
  insert (table : BigQuery.TableRef) (row : BigQuery.Row) (key : BigQuery.IdempotencyKey)
    (retries : UInt32) (w : τ) :
    svc.insert table row key retries (f w) = seenReply f (svc'.insert table row key retries w)
  acknowledge (subscription : String) (ids : List String) (w : τ) :
    svc.acknowledge subscription ids (f w) = seenReply f (svc'.acknowledge subscription ids w)
  pause (delay : Duration) (w : τ) : svc.pause delay (f w) = seenReply f (svc'.pause delay w)
  record (letter : DeadLetter) (w : τ) :
    svc.record letter (f w) = ((svc'.record letter w).1, f (svc'.record letter w).2)
  newKey (w : τ) : svc.newKey (f w) = ((svc'.newKey w).1, f (svc'.newKey w).2)
  draw (w : τ) : svc.draw (f w) = ((svc'.draw w).1, f (svc'.draw w).2)
  now (w : τ) : svc.now (f w) = svc'.now w

section
variable {svc' : Services τ} {svc : Services σ} {f : τ → σ} (hover : svc'.Over svc f)
  (relay : Relay)
include hover

theorem giveUp_over (m : Message) (reason : String) (s : State τ) :
    giveUp svc m reason (s.seen f) = seenOut f (giveUp svc' m reason s) := by
  obtain ⟨world, store, backoff, stats, journal⟩ := s
  cases store with
  | none => rfl
  | some store =>
    simp only [giveUp, State.note, State.seen, hover.now, hover.record]
    cases (svc'.record (.ofMessage m reason (svc'.now world)) world).1 <;> rfl

theorem insertFailed_over (m : Message) (cause : BigQuery.InsertError) (s : State τ) :
    insertFailed svc relay m cause (s.seen f) =
      seenOut f (insertFailed svc' relay m cause s) := by
  unfold insertFailed
  cases relay.settings.failurePolicy with
  | deadLetter => exact giveUp_over hover ..
  | abort => cases cause.isRowLevel <;> rfl

theorem deliver_over (m : Message) (s : State τ) :
    deliver svc relay m (s.seen f) = seenOut f (deliver svc' relay m s) := by
  unfold deliver
  cases BigQuery.decodeRow m with
  | error cause =>
    cases relay.settings.failurePolicy with
    | abort => rfl
    | deadLetter =>
      simp only [giveUp_over hover]
      rfl
  | ok row =>
    simp only [seen_note, seen_world, hover.newKey, hover.insert, seenReply_answer, seen_settle]
    generalize svc'.insert .. = reply
    rcases reply.answer with (cause | ⟨⟨⟩⟩) | _
    · simp only [insertFailed_over hover]
      rfl
    · rfl
    · rfl

theorem deliverAll_over (total : Nat) (ms : List Message) :
    ∀ (index : Nat) (p : Progress) (s : State τ),
      deliverAll svc relay total index ms p (s.seen f) =
        seenOut f (deliverAll svc' relay total index ms p s) := by
  induction ms with
  | nil => exact fun _ _ _ => rfl
  | cons m ms ih =>
    intro index p s
    simp only [deliverAll, seen_world, hover.cancelled, deliver_over hover]
    split
    · rfl
    · obtain ⟨(e | d) | _, s'⟩ := deliver svc' relay m s
      · rfl
      · exact ih ..
      · rfl

theorem acknowledge_over (ids : List String) (s : State τ) :
    acknowledge svc relay ids (s.seen f) = seenOut f (acknowledge svc' relay ids s) := by
  simp only [acknowledge, seen_world, hover.acknowledge, seen_settle, seenReply_answer]
  split <;> rfl

theorem afterLoop_over (total : Nat) (out : BatchEnd × State τ) :
    afterLoop svc relay total (seenOut f out) = seenOut f (afterLoop svc' relay total out) := by
  obtain ⟨p | ⟨e, p⟩ | _, s⟩ := out
  · change finish svc relay total p (s.seen f) = seenOut f (finish svc' relay total p s)
    simp only [finish, acknowledge_over hover]
    obtain ⟨_ | (cause | ⟨⟨⟩⟩), s'⟩ := acknowledge svc' relay p.ackIds s <;> rfl
  · change breakOff svc relay e p (s.seen f) = seenOut f (breakOff svc' relay e p s)
    simp only [breakOff, acknowledge_over hover]
    obtain ⟨_ | outcome, s'⟩ := acknowledge svc' relay p.ackIds s
    · rfl
    · cases p.ackIds.isEmpty <;> rfl
  · rfl

theorem process_over (batch : List Message) (s : State τ) :
    process svc relay batch (s.seen f) = seenOut f (process svc' relay batch s) := by
  rw [process_eq, process_eq, ← afterLoop_over hover, ← deliverAll_over hover]
  rfl

theorem idle_over (s : State τ) : idle svc (s.seen f) = seenOut f (idle svc' s) := by
  simp only [idle, State.seen, State.note, hover.draw, hover.pause, seenReply]
  generalize svc'.pause .. = reply
  cases reply.answer <;> rfl

theorem step_over (s : State τ) : step svc relay (s.seen f) = seenOut f (step svc' relay s) := by
  simp only [step, seen_world, hover.cancelled, hover.pull, seen_settle, seenReply_answer]
  split
  · rfl
  · generalize svc'.pull .. = reply
    rcases reply.answer with (e | _ | ⟨m, ms⟩) | _
    · rfl
    · exact idle_over hover _
    · exact process_over hover relay (m :: ms) _
    · rfl

theorem steps_over (n : Nat) :
    ∀ s : State τ, steps svc relay n (s.seen f) = seenOut f (steps svc' relay n s) := by
  induction n with
  | zero => exact fun _ => rfl
  | succ n ih =>
    intro s
    simp only [steps, step_over hover]
    obtain ⟨(_ | report | _) | e | _, s'⟩ := step svc' relay s
    · exact ih s'
    · exact ih s'
    · rfl
    · rfl
    · rfl

/-- **A run** is the same over a world as over the part of it that the services see. -/
theorem run_over (n : Nat) (s : State τ) :
    run svc relay n (s.seen f) = seenOut f (run svc' relay n s) :=
  steps_over hover relay n
    (s.note (.started relay.subscription relay.table relay.settings.batchSize))

end

end RowRelay.Relay
