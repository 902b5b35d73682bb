import RowRelay.Proofs.Relay.Batch

/-!
# How far the loop over a batch gets

`Reaches svc relay s batch i p s'`: a step from `s` pulls the batch and comes to the message at
position `i`, or to the end of the batch, with the progress `p` and in the state `s'`. It is built
up delivery by delivery (`Reaches.next`) and knows nothing of the loop.

The loop does what it says: wherever a position is reached, the step goes on from there
(`Reaches.step_eq`), and every step stops at a position that it reached, or had no batch at all
(`step_stops`). What was written up to a position is that of messages handled (`Reaches.handled`).
-/

set_option autoImplicit false

namespace RowRelay.Relay

open PubSub (Message QueueError)

variable {σ : Type}

/-! ## Positions -/

section
variable (svc : Services σ) (relay : Relay)

/-- What the pull of a step brings. -/
def pullReply (world : σ) : Reply σ (Awaited (Except QueueError (List Message))) :=
  svc.pull relay.subscription relay.settings.batchSize relay.settings.returnImmediately world

/-- The state behind the pull of a step. -/
def pulledState (s : State σ) : State σ :=
  s.settle (pullReply svc relay s.world) (.pulled relay.subscription relay.settings.batchSize
    relay.settings.returnImmediately (pullReply svc relay s.world).answer)

variable (s : State σ) (batch : List Message)

inductive Reaches : (index : Nat) → Progress → State σ → Prop
  | pulled :
      svc.cancelled s.world = false → batch ≠ [] →
      (pullReply svc relay s.world).answer = .answered (.ok batch) →
      Reaches 0 {} { pulledState svc relay s with backoff := s.backoff.reset }
  | next {index : Nat} {p : Progress} {s₁ s₂ : State σ} {m : Message} {d : Delivery} :
      Reaches index p s₁ → batch[index]? = some m → svc.cancelled s₁.world = false →
      deliver svc relay m s₁ = (.answered (.ok d), s₂) →
      Reaches (index + 1) (p.count relay.settings.ackPolicy m d) s₂

/-- How the loop stops at a position that it reached. -/
inductive StopsAt (index : Nat) (p : Progress) (s' : State σ) : BatchEnd × State σ → Prop
  | delivered : index = batch.length → StopsAt index p s' (.delivered p, s')
  | cancelled :
      index < batch.length → svc.cancelled s'.world = true →
      StopsAt index p s' (.cancelled, s'.note (.stoppedBefore index batch.length))
  | abandoned {m : Message} {s'' : State σ} :
      batch[index]? = some m → svc.cancelled s'.world = false →
      deliver svc relay m s' = (.abandoned, s'') →
      StopsAt index p s' (.cancelled, s''.note (.stoppedDuring (index + 1) batch.length))
  | broken {m : Message} {s'' : State σ} {e : RelayError} :
      batch[index]? = some m → svc.cancelled s'.world = false →
      deliver svc relay m s' = (.answered (.error e), s'') →
      StopsAt index p s' (.broken e p, s'')

/-- What a step makes of the end of its loop. -/
def afterLoop (total : Nat) : BatchEnd × State σ → StepEnd × State σ
  | (.cancelled, s) => (.done .cancelled, s)
  | (.broken e p, s) => breakOff svc relay e p s
  | (.delivered p, s) => finish svc relay total p s

/-- The ways of a step that comes to no message. -/
inductive NoBatch : StepEnd × State σ → Prop
  | stopped : svc.cancelled s.world = true → NoBatch (.done .cancelled, s)
  | pullGivenUp :
      (pullReply svc relay s.world).answer = .abandoned →
      NoBatch (.done .cancelled, pulledState svc relay s)
  | pullFailed {e : QueueError} :
      (pullReply svc relay s.world).answer = .answered (.error e) →
      NoBatch (.failed (.queue e), pulledState svc relay s)
  | idle :
      (pullReply svc relay s.world).answer = .answered (.ok []) →
      NoBatch (idle svc (pulledState svc relay s))

end

section
variable {svc : Services σ} {relay : Relay} {s s' : State σ} {batch : List Message} {index : Nat}
  {p : Progress}

/-! ## What was written up to a position -/

theorem Handled.concat {kept : Bool} {done : List Handling} {h : Handling} {rest : List Message}
    {es events : List Event} {d : Delivery}
    (hh : Handled relay kept batch done (h.message :: rest) es)
    (hd : Delivered relay kept h events)
    (hv : h.verdict relay kept = .ok d) :
    Handled relay kept batch (done ++ [h]) rest (es ++ events) := by
  refine ⟨?_, fun x hx => ?_, hh.delivered.concat hd⟩
  · rw [hh.batch_eq]
    simp
  · rcases List.mem_append.1 hx with hx | hx
    · exact hh.survived x hx
    · obtain rfl := List.mem_singleton.1 hx
      exact ⟨d, hv⟩

theorem Progress.after_append (policy : AckPolicy) (p : Progress) (done done' : List Handling) :
    p.after policy (done ++ done') = (p.after policy done).after policy done' := by
  simp [after, admittedIds, Nat.add_assoc]

theorem pulledState_wrote (svc : Services σ) (relay : Relay) (s : State σ) :
    s.Wrote (pullEvents relay (pullReply svc relay s.world).answer
      (pullReply svc relay s.world).lines) (pulledState svc relay s) :=
  s.settle_wrote _ rfl

theorem Reaches.begun (h : Reaches svc relay s batch index p s') :
    svc.cancelled s.world = false ∧ batch ≠ [] ∧
      (pullReply svc relay s.world).answer = .answered (.ok batch) := by
  induction h with
  | pulled hgoing hne hanswer => exact ⟨hgoing, hne, hanswer⟩
  | next _ _ _ _ ih => exact ih

theorem Reaches.index_le (h : Reaches svc relay s batch index p s') : index ≤ batch.length := by
  cases h with
  | pulled => exact Nat.zero_le _
  | next _ hm _ _ => exact (List.getElem?_eq_some_iff.1 hm).choose

theorem drop_of_getElem? {m : Message} (hm : batch[index]? = some m) :
    batch.drop index = m :: batch.drop (index + 1) := by
  obtain ⟨hlt, rfl⟩ := List.getElem?_eq_some_iff.1 hm
  exact List.drop_eq_getElem_cons hlt

/-- Behind the next message, which is handled, the progress and the journal are those of all
messages handled. -/
theorem Handled.next {done : List Handling} {rest : List Message} {es events : List Event}
    {lines : List Log.Line} {backoff : Backoff} {s₁ s₂ : State σ} {h : Handling} {d : Delivery}
    (hh : Handled relay s.store.isSome batch done (h.message :: rest) es)
    (hp : p = ({} : Progress).after relay.settings.ackPolicy done)
    (hw : ({ s with backoff } : State σ).Wrote
      (pullEvents relay (.answered (.ok batch)) lines ++ es) s₁)
    (hd : Delivered relay s₁.store.isSome h events)
    (hv : h.verdict relay s₁.store.isSome = .ok d) (hw' : s₁.Wrote events s₂) :
    Handled relay s.store.isSome batch (done ++ [h]) rest (es ++ events) ∧
      p.count relay.settings.ackPolicy h.message d =
        ({} : Progress).after relay.settings.ackPolicy (done ++ [h]) ∧
      ({ s with backoff } : State σ).Wrote
        (pullEvents relay (.answered (.ok batch)) lines ++ (es ++ events)) s₂ := by
  rw [hw.kept] at hd hv
  refine ⟨hh.concat hd hv, ?_, ?_⟩
  · rw [Progress.after_append, ← hp, ← Progress.count_after hv, Progress.after_nil]
  · rw [← List.append_assoc]
    exact hw.trans hw'

/-- Up to a position the batch was pulled and the messages before it were handled. -/
theorem Reaches.handled (h : Reaches svc relay s batch index p s') :
    ∃ done es lines, Handled relay s.store.isSome batch done (batch.drop index) es ∧
      done.length = index ∧ p = ({} : Progress).after relay.settings.ackPolicy done ∧
      ({ s with backoff := s.backoff.reset } : State σ).Wrote
        (pullEvents relay (.answered (.ok batch)) lines ++ es) s' := by
  induction h with
  | pulled _ _ hanswer =>
    have hw := pulledState_wrote svc relay s
    rw [hanswer] at hw
    refine ⟨[], [], (pullReply svc relay s.world).lines, ⟨rfl, by simp, .nil⟩, rfl,
      (Progress.after_nil ..).symm, ?_⟩
    rw [List.append_nil]
    exact ⟨hw.journal, hw.store, hw.stats, rfl⟩
  | @next index p s₁ s₂ m d _ hm _ hd ih =>
    obtain ⟨done, es, lines, hh, hlen, hp, hw⟩ := ih
    rw [drop_of_getElem? hm] at hh
    rcases deliver_wrote svc relay m s₁ with ⟨a, time, fault?, events, hdelivered, hr, hw'⟩ |
      ⟨row, key, lines', -, hr, -⟩
    · rw [hd] at hr hw'
      obtain ⟨hh', hp', hw''⟩ := hh.next (h := ⟨m, a, time, fault?⟩) hp hw hdelivered
        (Awaited.answered.inj hr).symm hw'
      exact ⟨_, _, lines, hh', by simp [hlen], hp', hw''⟩
    · rw [hd] at hr
      cases hr

/-! ## The loop goes from position to position -/

/-- Wherever the loop gets, it goes on from there. -/
theorem Reaches.loop_eq (h : Reaches svc relay s batch index p s') :
    deliverAll svc relay batch.length 0 batch {}
        { pulledState svc relay s with backoff := s.backoff.reset } =
      deliverAll svc relay batch.length index (batch.drop index) p s' := by
  induction h with
  | pulled => rfl
  | next _ hm hgoing hd ih =>
    rw [ih, drop_of_getElem? hm, deliverAll, if_neg (by simp [hgoing]), hd]

theorem process_eq (svc : Services σ) (relay : Relay) (batch : List Message) (s : State σ) :
    process svc relay batch s = afterLoop svc relay batch.length
      (deliverAll svc relay batch.length 0 batch {} { s with backoff := s.backoff.reset }) := by
  unfold process
  generalize deliverAll svc relay batch.length 0 batch {} _ = out
  obtain ⟨_ | _ | _, s'⟩ := out <;> rfl

theorem step_pulled (hgoing : svc.cancelled s.world = false) :
    step svc relay s = match (pullReply svc relay s.world).answer with
      | .abandoned => (.done .cancelled, pulledState svc relay s)
      | .answered (.error e) => (.failed (.queue e), pulledState svc relay s)
      | .answered (.ok []) => idle svc (pulledState svc relay s)
      | .answered (.ok batch) => process svc relay batch (pulledState svc relay s) :=
  if_neg (by simp [hgoing])

theorem step_eq_process (hgoing : svc.cancelled s.world = false) (hne : batch ≠ [])
    (hanswer : (pullReply svc relay s.world).answer = .answered (.ok batch)) :
    step svc relay s = process svc relay batch (pulledState svc relay s) := by
  rw [step_pulled hgoing, hanswer]
  cases batch with
  | nil => exact absurd rfl hne
  | cons m ms => rfl

/-- Wherever a step gets, it goes on from there. -/
theorem Reaches.step_eq (h : Reaches svc relay s batch index p s') :
    step svc relay s = afterLoop svc relay batch.length
      (deliverAll svc relay batch.length index (batch.drop index) p s') := by
  obtain ⟨hgoing, hne, hanswer⟩ := h.begun
  rw [step_eq_process hgoing hne hanswer, process_eq, ← h.loop_eq]
  rfl

theorem Reaches.stops : ∀ {rest : List Message} {index : Nat} {p : Progress} {s' : State σ},
    rest = batch.drop index → Reaches svc relay s batch index p s' →
    ∃ index' p' s'', Reaches svc relay s batch index' p' s'' ∧
      StopsAt svc relay batch index' p' s''
        (deliverAll svc relay batch.length index rest p s') := by
  intro rest
  induction rest with
  | nil =>
    intro index p s' hrest h
    have hle : batch.length ≤ index := List.drop_eq_nil_iff.1 hrest.symm
    exact ⟨index, p, s', h, .delivered (Nat.le_antisymm h.index_le hle)⟩
  | cons m rest ih =>
    intro index p s' hrest h
    have hm : batch[index]? = some m := by
      rw [← List.head?_drop, ← hrest, List.head?_cons]
    obtain ⟨-, hrest'⟩ := List.cons.inj (hrest.trans (drop_of_getElem? hm))
    unfold deliverAll
    by_cases hc : svc.cancelled s'.world = true
    · rw [if_pos hc]
      exact ⟨index, p, s', h, .cancelled (List.getElem?_eq_some_iff.1 hm).choose hc⟩
    · rw [if_neg hc]
      have hgoing : svc.cancelled s'.world = false := by simpa using hc
      rcases hd : deliver svc relay m s' with ⟨(e | d) | _, s''⟩
      · exact ⟨index, p, s', h, .broken hm hgoing hd⟩
      · exact ih hrest' (.next h hm hgoing hd)
      · exact ⟨index, p, s', h, .abandoned hm hgoing hd⟩

/-- **Every step** has no batch, or it stops at a position of its batch that it reached. -/
theorem step_stops (svc : Services σ) (relay : Relay) (s : State σ) :
    NoBatch svc relay s (step svc relay s) ∨ ∃ batch index p s' out,
      Reaches svc relay s batch index p s' ∧ StopsAt svc relay batch index p s' out ∧
      step svc relay s = afterLoop svc relay batch.length out := by
  by_cases hc : svc.cancelled s.world = true
  · rw [step, if_pos hc]
    exact .inl (.stopped hc)
  · have hgoing : svc.cancelled s.world = false := by simpa using hc
    rcases hanswer : (pullReply svc relay s.world).answer with (e | _ | ⟨m, ms⟩) | _
    · rw [step_pulled hgoing, hanswer]
      exact .inl (.pullFailed hanswer)
    · rw [step_pulled hgoing, hanswer]
      exact .inl (.idle hanswer)
    · have h : Reaches svc relay s (m :: ms) 0 {} _ := .pulled hgoing (by simp) hanswer
      obtain ⟨index, p, s', hreached, hstops⟩ := h.stops rfl
      exact .inr ⟨m :: ms, index, p, s', _, hreached, hstops, h.step_eq⟩
    · rw [step_pulled hgoing, hanswer]
      exact .inl (.pullGivenUp hanswer)

theorem Reaches.unique {batch' : List Message} {p' : Progress} {s'' : State σ}
    (h : Reaches svc relay s batch index p s') (h' : Reaches svc relay s batch' index p' s'') :
    batch = batch' ∧ p = p' ∧ s' = s'' := by
  obtain rfl : batch = batch' := by
    simpa using h.begun.2.2.symm.trans h'.begun.2.2
  refine ⟨rfl, ?_⟩
  induction h generalizing p' s'' with
  | pulled => cases h' with | pulled => exact ⟨rfl, rfl⟩
  | next _ hm _ hd ih =>
    cases h' with
    | next h'' hm' _ hd' =>
      obtain ⟨rfl, rfl⟩ := ih h''
      obtain rfl := Option.some.inj (hm.symm.trans hm')
      obtain ⟨hr, rfl⟩ := Prod.mk.inj (hd.symm.trans hd')
      cases hr
      exact ⟨rfl, rfl⟩

/-! ## Steps one after the other -/

/-- A run ends with its first step, in the world that this left, or it goes on behind it. -/
theorem steps_succ (svc : Services σ) (relay : Relay) (s : State σ) :
    (∀ n, steps svc relay (n + 1) s = steps svc relay n (step svc relay s).2) ∨
    ∃ r s', s'.world = (step svc relay s).2.world ∧
      ∀ n, steps svc relay (n + 1) s = (some r, s') := by
  simp only [steps]
  obtain ⟨(_ | report | _) | e | _, s'⟩ := step svc relay s
  · exact .inl fun _ => rfl
  · exact .inl fun _ => rfl
  · exact .inr ⟨_, s'.note (.stopped s'.stats), rfl, fun _ => rfl⟩
  · exact .inr ⟨_, s', rfl, fun _ => rfl⟩
  · exact .inr ⟨_, s', rfl, fun _ => rfl⟩

theorem steps_succ_none {n : Nat} (h : steps svc relay (n + 1) s = (none, s')) :
    steps svc relay n (step svc relay s).2 = (none, s') ∧
      ∀ m, steps svc relay (m + 1) s = steps svc relay m (step svc relay s).2 := by
  rcases steps_succ svc relay s with hgoes | ⟨r, s₁, -, hends⟩
  · exact ⟨(hgoes n).symm.trans h, hgoes⟩
  · cases (hends n).symm.trans h

theorem steps_add {k : Nat} (n : Nat) : ∀ {s : State σ}, steps svc relay k s = (none, s') →
    steps svc relay (k + n) s = steps svc relay n s' := by
  induction k with
  | zero =>
    intro s h
    obtain rfl : s = s' := (Prod.mk.inj h).2
    rw [Nat.zero_add]
  | succ k ih =>
    intro s h
    obtain ⟨hrest, hgoes⟩ := steps_succ_none h
    rw [Nat.add_right_comm, hgoes, ih hrest]

end

end RowRelay.Relay
