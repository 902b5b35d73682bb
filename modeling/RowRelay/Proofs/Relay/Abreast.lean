import RowRelay.Proofs.Relay.Tale

/-!
# Two runs side by side

The same relay may run under other policies (`under`). `Abreast svc svc' relay R`: in worlds that
are related by `R`, the services of two runs answer every call of the relay alike, and related
worlds follow; an acknowledgement succeeds and relates the world after it to all that the world
before it was related to.

The disk is asked only where failures are kept, so what it makes of a message is compared apart from
the other calls (`GivesUpAlike`).

`step_abreast`: two steps from related worlds tell the same tale, or they part at a message that is
fatal in the first and not in the second (`Parted`). They do so delivery by delivery
(`deliver_abreast`), hence up to every position of the batch (`Reaches.abreast`).
-/

set_option autoImplicit false

namespace RowRelay.Relay

open BigQuery (Row)
open PubSub (Message)

variable {σ τ : Type}

/-- What a relay does about failures, and what it acknowledges. -/
structure Policies where
  failures : FailurePolicy
  acks : AckPolicy

/-- The relay under these policies. -/
def under (relay : Relay) (q : Policies) : Relay :=
  { relay with
    settings := { relay.settings with failurePolicy := q.failures, ackPolicy := q.acks } }

/-! ## Services that answer alike -/

section
variable (svc : Services σ) (svc' : Services τ) (relay : Relay) (R : σ → τ → Prop)

/-- Two replies bring the same answer, and related worlds. -/
structure Matches {α : Type} (R : σ → τ → Prop) (r : Reply σ α) (r' : Reply τ α) : Prop where
  answer : r.answer = r'.answer
  world : R r.world r'.world

/-- The services of two runs answer alike in related worlds whatever a relay asks behind a pull. -/
structure Abreast : Prop where
  cancelled {w : σ} {v : τ} : R w v → svc.cancelled w = svc'.cancelled v
  insert {w : σ} {v : τ} (row : Row) : R w v →
    Matches R (insertReply svc relay row w) (insertReply svc' relay row v)
  wait {w : σ} {v : τ} (backoff : Backoff) : R w v →
    Matches R (waitReply svc backoff w) (waitReply svc' backoff v)
  acknowledge {w : σ} {v : τ} (ids : List String) : R w v →
    (svc.acknowledge relay.subscription ids w).answer = some (.ok ()) ∧
    R (svc.acknowledge relay.subscription ids w).world v
  acknowledge' {w : σ} {v : τ} (ids : List String) : R w v →
    (svc'.acknowledge relay.subscription ids v).answer = some (.ok ()) ∧
    R w (svc'.acknowledge relay.subscription ids v).world

/-- The disk makes the same of what the two runs, each in its way, write to it about a message. -/
def GivesUpAlike (q q' : Policies) (kept kept' : Bool) : Prop :=
  ∀ (w : σ) (v : τ) (m : Message) (x : Attempt), R w v →
    (recordReply svc (relay.under q) kept m x w).1 =
      (recordReply svc' (relay.under q') kept' m x v).1 ∧
    R (recordReply svc (relay.under q) kept m x w).2
      (recordReply svc' (relay.under q') kept' m x v).2

/-- Two steps begin alike: both behind a request to stop, or with pulls that bring the same. -/
structure Begins (w : σ) (v : τ) : Prop where
  cancelled : svc.cancelled w = svc'.cancelled v
  stopped : svc.cancelled w = true → R w v
  pull : svc.cancelled w = false → Matches R (pullReply svc relay w) (pullReply svc' relay v)

end

section
variable {svc : Services σ} {svc' : Services τ} {relay : Relay} {R : σ → τ → Prop}
  {q q' : Policies} {s : State σ} {s' : State τ}

/-! ## Deliveries -/

/-- A message is tried by both runs with the same outcome, or given up by both. -/
theorem deliver_abreast (h : Abreast svc svc' relay R)
    (hg : GivesUpAlike svc svc' relay R q q' s.store.isSome s'.store.isSome)
    (hR : R s.world s'.world) (m : Message) :
    R (deliver svc (relay.under q) m s).2.world (deliver svc' (relay.under q') m s').2.world ∧
    ((∃ x fault?, Judged svc (relay.under q) m s x fault? ∧
        Judged svc' (relay.under q') m s' x fault?) ∨
      ∃ row, GivenUp svc (relay.under q) m s row ∧ GivenUp svc' (relay.under q') m s' row) := by
  cases hrow : BigQuery.decodeRow m with
  | error cause =>
    obtain ⟨hx, hworld⟩ := judged_undecodable svc (relay.under q) s hrow
    obtain ⟨hx', hworld'⟩ := judged_undecodable svc' (relay.under q') s' hrow
    obtain ⟨hfault, hR'⟩ := hg _ _ m (.undecodable cause) hR
    rw [hworld, hworld']
    exact ⟨hR', .inl ⟨_, _, hx, hfault ▸ hx'⟩⟩
  | ok row =>
    obtain ⟨hanswer, hafter⟩ := h.insert row hR
    cases hgiven : (insertReply svc (relay.under q) row s.world).answer with
    | abandoned =>
      obtain ⟨hx, hworld⟩ := givenUp_decoded svc (relay.under q) s hrow hgiven
      obtain ⟨hx', hworld'⟩ :=
        givenUp_decoded svc' (relay.under q') s' hrow (hanswer.symm.trans hgiven)
      rw [hworld, hworld']
      exact ⟨hafter, .inr ⟨row, hx, hx'⟩⟩
    | answered answer =>
      obtain ⟨hx, hworld⟩ := judged_decoded svc (relay.under q) s hrow hgiven
      obtain ⟨hx', hworld'⟩ :=
        judged_decoded svc' (relay.under q') s' hrow (hanswer.symm.trans hgiven)
      obtain ⟨hfault, hR'⟩ := hg _ _ m (.tried row answer) hafter
      rw [hworld, hworld']
      exact ⟨hR', .inl ⟨_, _, hx, hfault ▸ hx'⟩⟩

theorem acknowledge_abreast (q q' : Policies) (h : Abreast svc svc' relay R)
    (hR : R s.world s'.world) (ids ids' : List String) :
    (acknowledge svc (relay.under q) ids s).1 = some (.ok ()) ∧
    (acknowledge svc' (relay.under q') ids' s').1 = some (.ok ()) ∧
    R (acknowledge svc (relay.under q) ids s).2.world
      (acknowledge svc' (relay.under q') ids' s').2.world := by
  have hfirst : (acknowledge svc (relay.under q) ids s).1 = some (.ok ()) ∧
      R (acknowledge svc (relay.under q) ids s).2.world s'.world := by
    unfold acknowledge
    by_cases hids : ids.isEmpty = true
    · rw [if_pos hids]
      exact ⟨rfl, hR⟩
    · rw [if_neg hids]
      exact h.acknowledge ids hR
  refine ⟨hfirst.1, ?_⟩
  unfold acknowledge at hfirst ⊢
  by_cases hids : ids'.isEmpty = true
  · rw [if_pos hids]
    exact ⟨rfl, hfirst.2⟩
  · rw [if_neg hids]
    exact h.acknowledge' ids' hfirst.2

/-! ## Positions -/

/-- What the first run goes on after, the second goes on after too, and where both break off they do
so with the same error. -/
structure Tolerates (relay : Relay) (q q' : Policies) (kept kept' : Bool) : Prop where
  goes {m : Message} {x : Attempt} {fault? : Option Store.RecordFault} {d : Delivery} :
    (x.keptReason? (relay.under q) kept = none → fault? = none) →
    Handling.verdict (relay.under q) kept ⟨m, x, 0, fault?⟩ = .ok d →
    ∃ d', Handling.verdict (relay.under q') kept' ⟨m, x, 0, fault?⟩ = .ok d'
  breaks {m : Message} {x : Attempt} {fault? : Option Store.RecordFault} {e e' : RelayError} :
    (x.keptReason? (relay.under q) kept = none → fault? = none) →
    Handling.verdict (relay.under q) kept ⟨m, x, 0, fault?⟩ = .error e →
    Handling.verdict (relay.under q') kept' ⟨m, x, 0, fault?⟩ = .error e' → e = e'

theorem Arrived.kept {batch : List Message} {tried : List (Message × Attempt)} {p : Progress}
    {s₁ : State σ} (h : Arrived svc relay s batch tried p s₁) :
    s₁.store.isSome = s.store.isSome := by
  obtain ⟨done, es, lines, -, -, -, hw⟩ := h.handled
  exact hw.kept

/-- Where the first run gets in a batch, the second one gets too, and both tried the same on the
way. -/
theorem Reaches.abreast (h : Abreast svc svc' relay R)
    (hg : GivesUpAlike svc svc' relay R q q' s.store.isSome s'.store.isSome)
    (hf : Tolerates relay q q' s.store.isSome s'.store.isSome)
    (hbegin : Begins svc svc' relay R s.world s'.world)
    {batch : List Message} {index : Nat} {p : Progress} {s₁ : State σ}
    (hreached : Reaches svc (relay.under q) s batch index p s₁) :
    ∃ tried p' s₁', tried.length = index ∧
      Arrived svc (relay.under q) s batch tried p s₁ ∧
      Arrived svc' (relay.under q') s' batch tried p' s₁' ∧
      R s₁.world s₁'.world := by
  -- on the way of the first run; the second run keeps up as the worlds stay related
  induction hreached with
  | pulled hgoing hne hanswer =>
    obtain ⟨hsame, hworld⟩ := hbegin.pull hgoing
    exact ⟨[], {}, _, rfl, arrived_pulled hgoing hne hanswer,
      arrived_pulled (hbegin.cancelled.symm.trans hgoing) hne (hsame.symm.trans hanswer), hworld⟩
  | @next index p s₁ s₂ m d hbefore hm hgoing hd ih =>
    obtain ⟨tried, p', s₁', rfl, harrived, harrived', hR⟩ := ih
    rw [← harrived.kept, ← harrived'.kept] at hg hf
    obtain ⟨hworld, ⟨x, fault?, hx, hx'⟩ | ⟨row, hrow, -⟩⟩ := deliver_abreast h hg hR m
    · have hv := hx.verdict_eq hd
      obtain ⟨d', hv'⟩ := hf.goes hx.faultless hv
      have hnext := harrived.next hm hgoing hx hv
      rw [hd] at hnext hworld
      exact ⟨tried ++ [(m, x)], _, _, by simp, hnext,
        harrived'.next hm ((h.cancelled hR).symm.trans hgoing) hx' hv', hworld⟩
    · exact absurd hd hrow.not_answered

/-! ## Steps -/

variable (svc svc' relay R q q' s s') in
/-- The first step breaks off at a message behind which the second goes on. -/
structure Parted (batch : List Message) (tried : List (Message × Attempt)) (m : Message)
    (x : Attempt) (fault? : Option Store.RecordFault) (e : RelayError) (p : Progress)
    (s₁ : State σ) (p' : Progress) (s₁' : State τ) : Prop where
  arrived : Arrived svc (relay.under q) s batch tried p s₁
  arrived' : Arrived svc' (relay.under q') s' batch tried p' s₁'
  message : batch[tried.length]? = some m
  going : svc.cancelled s₁.world = false
  going' : svc'.cancelled s₁'.world = false
  judged : Judged svc (relay.under q) m s₁ x fault?
  judged' : Judged svc' (relay.under q') m s₁' x fault?
  fatal : Handling.verdict (relay.under q) s₁.store.isSome ⟨m, x, 0, fault?⟩ = .error e
  survived :
    ∃ d, Handling.verdict (relay.under q') s₁'.store.isSome ⟨m, x, 0, fault?⟩ = .ok d
  worlds : R (deliver svc (relay.under q) m s₁).2.world
    (deliver svc' (relay.under q') m s₁').2.world

variable (svc svc' relay R q q' s s') in
/-- Two steps told the same tale. -/
def SameTale : Prop :=
  R (step svc (relay.under q) s).2.world (step svc' (relay.under q') s').2.world ∧
    ∃ t, Tells svc (relay.under q) s t ∧ Tells svc' (relay.under q') s' t

theorem SameTale.of_tells {t : Tale} {w : σ} {v : τ}
    (ht : Tells svc (relay.under q) s t ∧ (step svc (relay.under q) s).2.world = w)
    (ht' : Tells svc' (relay.under q') s' t ∧ (step svc' (relay.under q') s').2.world = v)
    (hR : R w v) :
    SameTale svc svc' relay R q q' s s' := by
  refine ⟨?_, t, ht.1, ht'.1⟩
  rw [ht.2, ht'.2]
  exact hR

/-- Steps whose pulls bring no message tell the same tale. -/
theorem pull_abreast (h : Abreast svc svc' relay R) (hback : s.backoff = s'.backoff)
    (hgoing : svc.cancelled s.world = false) (hgoing' : svc'.cancelled s'.world = false)
    (hpull : Matches R (pullReply svc relay s.world) (pullReply svc' relay s'.world))
    (hnone : (pullCall relay (pullReply svc relay s.world).answer).messages = []) :
    SameTale svc svc' relay R q q' s s' := by
  obtain ⟨hsame, hR⟩ := hpull
  have hstep : step svc (relay.under q) s = _ := step_pulled hgoing
  have hstep' : step svc' (relay.under q') s' = _ := step_pulled hgoing'
  generalize hanswer : (pullReply svc (relay.under q) s.world).answer = answer at hstep
  generalize hanswer' : (pullReply svc' (relay.under q') s'.world).answer = answer' at hstep'
  obtain rfl : answer = answer' := hanswer.symm.trans (hsame.trans hanswer')
  rw [show (pullReply svc relay s.world).answer = answer from hanswer] at hnone
  rcases answer with (e | _ | ⟨m, ms⟩) | _
  · exact .of_tells (tells_pulled (.failed (.queue e)) hanswer hstep rfl (by simp))
      (tells_pulled (.failed (.queue e)) hanswer' hstep' rfl (by simp)) hR
  · have ht := tells_idle hgoing hanswer
    have ht' := tells_idle hgoing' hanswer'
    obtain ⟨hwait, hR'⟩ := h.wait s.backoff.miss hR
    rw [← hback] at ht'
    rw [show (waitReply svc s.backoff.miss
      (pullReply svc (relay.under q) s.world).world).answer = _ from hwait] at ht
    exact .of_tells ht ht' hR'
  · cases hnone
  · exact .of_tells (tells_pulled .stopped hanswer hstep rfl (by simp))
      (tells_pulled .stopped hanswer' hstep' rfl (by simp)) hR

/-- Where the first run stops in the batch the second one stops as well, or they part. -/
theorem StopsAt.abreast (h : Abreast svc svc' relay R)
    (hg : GivesUpAlike svc svc' relay R q q' s.store.isSome s'.store.isSome)
    (hf : Tolerates relay q q' s.store.isSome s'.store.isSome) {batch : List Message}
    {tried : List (Message × Attempt)} {p p' : Progress} {s₁ : State σ} {s₁' : State τ}
    {out : BatchEnd × State σ}
    (hstops : StopsAt svc (relay.under q) batch tried.length p s₁ out)
    (harrived : Arrived svc (relay.under q) s batch tried p s₁)
    (harrived' : Arrived svc' (relay.under q') s' batch tried p' s₁') (hR : R s₁.world s₁'.world) :
    SameTale svc svc' relay R q q' s s' ∨
      ∃ m x fault? e,
        Parted svc svc' relay R q q' s s' batch tried m x fault? e p s₁ p' s₁' := by
  have hsame := h.cancelled hR
  rw [← harrived.kept, ← harrived'.kept] at hg hf
  cases hstops with
  | delivered hlen =>
    obtain ⟨hack, hack', hR'⟩ := acknowledge_abreast q q' h hR p.ackIds p'.ackIds
    exact .inl (.of_tells (harrived.processed hlen hack) (harrived'.processed hlen hack') hR')
  | cancelled hlt hseen =>
    exact .inl (.of_tells (harrived.seen hlt hseen)
      (harrived'.seen hlt (hsame.symm.trans hseen)) hR)
  | @abandoned m s₂ hm hgoing hd =>
    obtain ⟨hR', ⟨x, fault?, hx, -⟩ | ⟨row, hrow, hrow'⟩⟩ := deliver_abreast h hg hR m
    · exact absurd hd hx.not_abandoned
    · exact .inl (.of_tells (harrived.lost hm hgoing hrow)
        (harrived'.lost hm (hsame.symm.trans hgoing) hrow') hR')
  | @broken m s₂ e hm hgoing hd =>
    obtain ⟨hR', ⟨x, fault?, hx, hx'⟩ | ⟨row, hrow, -⟩⟩ := deliver_abreast h hg hR m
    · have hgoing' := hsame.symm.trans hgoing
      have hv := hx.verdict_eq hd
      cases hv' : Handling.verdict (relay.under q') s₁'.store.isSome ⟨m, x, 0, fault?⟩ with
      | ok d =>
        exact .inr ⟨m, x, fault?, e, harrived, harrived', hm, hgoing, hgoing', hx, hx', hv,
          ⟨d, hv'⟩, hR'⟩
      | error e' =>
        obtain rfl := hf.breaks hx.faultless hv hv'
        obtain ⟨hack, hack', hR''⟩ := acknowledge_abreast q q' h hR' p.ackIds p'.ackIds
        exact .inl (.of_tells (harrived.broken hm hgoing hx hv hack)
          (harrived'.broken hm hgoing' hx' hv' hack') hR'')
    · exact absurd hd hrow.not_answered

/-- **Two steps side by side** tell the same tale, or part at a message. -/
theorem step_abreast (h : Abreast svc svc' relay R)
    (hg : GivesUpAlike svc svc' relay R q q' s.store.isSome s'.store.isSome)
    (hf : Tolerates relay q q' s.store.isSome s'.store.isSome) (hback : s.backoff = s'.backoff)
    (hbegin : Begins svc svc' relay R s.world s'.world) :
    SameTale svc svc' relay R q q' s s' ∨
      ∃ batch tried m x fault? e p s₁ p' s₁', Parted svc svc' relay R q q' s s'
        batch tried m x fault? e p s₁ p' s₁' := by
  by_cases hseen : svc.cancelled s.world = true
  · have hseen' := hbegin.cancelled.symm.trans hseen
    have hworld : (step svc (relay.under q) s).2.world = s.world := by
      rw [step, if_pos hseen]
    have hworld' : (step svc' (relay.under q') s').2.world = s'.world := by
      rw [step, if_pos hseen']
    exact .inl (.of_tells ⟨tells_stopped hseen, hworld⟩ ⟨tells_stopped hseen', hworld'⟩
      (hbegin.stopped hseen))
  have hgoing : svc.cancelled s.world = false := by simpa using hseen
  have hgoing' := hbegin.cancelled.symm.trans hgoing
  by_cases hnone : (pullCall relay (pullReply svc relay s.world).answer).messages = []
  · exact .inl (pull_abreast h hback hgoing hgoing' (hbegin.pull hgoing) hnone)
  obtain ⟨batch, hanswer, hne⟩ := pulled_of_messages hnone
  have hpulled : Reaches svc (relay.under q) s batch 0 {} _ := .pulled hgoing hne hanswer
  obtain ⟨index, p, s₁, hreached, hstops⟩ := hpulled.stops rfl
  obtain ⟨tried, p', s₁', rfl, harrived, harrived', hR⟩ := hreached.abreast h hg hf hbegin
  rcases hstops.abreast h hg hf harrived harrived' hR with hsame | ⟨m, x, fault?, e, hparted⟩
  · exact .inl hsame
  · exact .inr ⟨batch, tried, m, x, fault?, e, p, s₁, p', s₁', hparted⟩

end

end RowRelay.Relay
