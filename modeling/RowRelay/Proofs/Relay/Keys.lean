import RowRelay.Proofs.BigQuery.Attempts
import RowRelay.Proofs.Relay.Worlds

/-!
# Keys tell deliveries apart

`svc.watched sink net` inserts rows through a client and a network, and takes down every key that
was handed out and every request that was sent. `SentFor … k i m j r`: in step `k` of a run, the
delivery of the message `m` at position `i` of the batch sent `r` as request number `j`.

`keys_tell_deliveries`: if no key is handed out twice, two requests of a run carry one key exactly
when they were sent for the same delivery (`KeysTellDeliveries`). A delivery draws its key when it
begins (`deliver_record`), all that comes later finds it in the record, and so the key of a later
delivery is another one (`Delivers.before`).
-/

set_option autoImplicit false

namespace RowRelay.Relay

open BigQuery (Client IdempotencyKey Row insertRequest insertId?)
open Http (Network Request)
open PubSub (Message)

variable {σ : Type}

/-! ## Services that are watched -/

/-- The services, rows being inserted by a client through a network. -/
def Services.insertingThrough (svc : Services σ) (sink : Client) (net : Network σ) : Services σ :=
  { svc with
    insert := fun table row key retries world => sink.insert net table row key retries world }

/-- The same, with a record of the keys handed out and the requests sent. -/
def Services.watched (svc : Services σ) (sink : Client) (net : Network σ) :
    Services (Watched σ) where
  cancelled w := svc.cancelled w.world
  pull subscription most immediately w :=
    w.quietly (svc.pull subscription most immediately w.world)
  insert table row key retries w := sink.insert net.watched table row key retries w
  acknowledge subscription ids w := w.quietly (svc.acknowledge subscription ids w.world)
  pause delay w := w.quietly (svc.pause delay w.world)
  record letter w :=
    ((svc.record letter w.world).1, { w with world := (svc.record letter w.world).2 })
  newKey w := ((svc.newKey w.world).1,
    { w with world := (svc.newKey w.world).2, keys := w.keys ++ [(svc.newKey w.world).1] })
  draw w := ((svc.draw w.world).1, { w with world := (svc.draw w.world).2 })
  now w := svc.now w.world

theorem watched_over (svc : Services σ) (sink : Client) (net : Network σ) :
    (svc.watched sink net).Over (svc.insertingThrough sink net) Watched.world where
  cancelled _ := rfl
  pull _ _ _ _ := rfl
  insert table row key retries w :=
    (BigQuery.attempts_watched net sink ⟨table, insertRequest key row, retries.toNat⟩ _ w).symm
  acknowledge _ _ _ := rfl
  pause _ _ := rfl
  record _ _ := rfl
  newKey _ := rfl
  draw _ := rfl
  now _ := rfl

/-! ## Deliveries of a run -/

/-- Step `k` of a run comes to the message at position `i` and begins its delivery in the last
state. -/
def Delivers (svc : Services σ) (relay : Relay) (start : State σ) (k i : Nat) (m : Message)
    (s₁ : State σ) : Prop :=
  ∃ s batch p, steps svc relay k start = (none, s) ∧ Reaches svc relay s batch i p s₁ ∧
    batch[i]? = some m ∧ svc.cancelled s₁.world = false

section
variable {svc : Services σ} {relay : Relay} {start s₁ s₁' : State σ} {k k' i i' : Nat}
  {m m' : Message}

theorem Delivers.unique (h : Delivers svc relay start k i m s₁)
    (h' : Delivers svc relay start k i m' s₁') : m = m' ∧ s₁ = s₁' := by
  obtain ⟨s, batch, p, hsteps, hreached, hm, -⟩ := h
  obtain ⟨s', batch', p', hsteps', hreached', hm', -⟩ := h'
  obtain ⟨-, rfl⟩ := Prod.mk.inj (hsteps.symm.trans hsteps')
  obtain ⟨rfl, -, rfl⟩ := hreached.unique hreached'
  exact ⟨Option.some.inj (hm.symm.trans hm'), rfl⟩

variable {R : σ → σ → Prop} (hsvc : svc.Keeps R)
include hsvc

theorem Delivers.keeps_end (h : Delivers svc relay start k i m s₁) {n : Nat} (hk : k < n) :
    R (deliver svc relay m s₁).2.world (steps svc relay n start).2.world := by
  obtain ⟨s, batch, p, hsteps, hreached, hm, hgoing⟩ := h
  obtain ⟨rest, rfl⟩ : ∃ rest, n = k + (rest + 1) := ⟨n - k - 1, by omega⟩
  rw [steps_add _ hsteps]
  exact hsvc.trans (hreached.keeps_behind hsvc hm hgoing) (steps_keeps_behind hsvc relay rest s)

theorem Delivers.before (h : Delivers svc relay start k i m s₁)
    (h' : Delivers svc relay start k' i' m' s₁') (hlt : k < k' ∨ k = k' ∧ i < i') :
    R (deliver svc relay m s₁).2.world s₁'.world := by
  rcases hlt with hk | ⟨rfl, hi⟩
  · obtain ⟨s, batch, p, hsteps, hreached, -, -⟩ := h'
    have hend := h.keeps_end hsvc hk
    rw [hsteps] at hend
    exact hsvc.trans hend (hreached.keeps hsvc)
  · obtain ⟨s, batch, p, hsteps, hreached, hm, -⟩ := h
    obtain ⟨s', batch', p', hsteps', hreached', -, -⟩ := h'
    obtain ⟨-, rfl⟩ := Prod.mk.inj (hsteps.symm.trans hsteps')
    obtain ⟨p₂, s₂, m₂, hfirst, hm₂, hkeeps⟩ := hreached'.keeps_between hsvc hi
    obtain ⟨rfl, -, rfl⟩ := hreached.unique hfirst
    obtain rfl := Option.some.inj (hm.symm.trans hm₂)
    exact hkeeps

end

/-! ## Records -/

/-- The record may have grown. -/
def Grows (w w' : Watched σ) : Prop :=
  w.keys <+: w'.keys ∧ w.requests <+: w'.requests

/-- Nothing was taken down. -/
def SameRecord (w w' : Watched σ) : Prop :=
  w'.keys = w.keys ∧ w'.requests = w.requests

/-- What the delivery of a message takes down: nothing if it carries no row, and else a key and
requests that carry the key and the row. -/
inductive DeliveryRecord (sink : Client) (relay : Relay) (m : Message) (w w' : Watched σ) : Prop
  | undecodable {cause : BigQuery.DecodeError} :
      BigQuery.decodeRow m = .error cause → SameRecord w w' → DeliveryRecord sink relay m w w'
  | decoded {row : Row} (key : IdempotencyKey) (sent : List Request) :
      BigQuery.decodeRow m = .ok row → w'.keys = w.keys ++ [key] →
      w'.requests = w.requests ++ sent →
      (∀ r ∈ sent, sink.request ⟨relay.table, insertRequest key row,
        relay.settings.insertRetries.toNat⟩ = .ok r) →
      DeliveryRecord sink relay m w w'

section
variable (svc : Services σ) (sink : Client) (net : Network σ)

theorem watched_quiet : (svc.watched sink net).KeepsQuiet SameRecord where
  refl _ := ⟨rfl, rfl⟩
  trans h h' := ⟨h'.1.trans h.1, h'.2.trans h.2⟩
  pull _ _ _ _ := ⟨rfl, rfl⟩
  acknowledge _ _ _ := ⟨rfl, rfl⟩
  pause _ _ := ⟨rfl, rfl⟩
  record _ _ := ⟨rfl, rfl⟩
  draw _ := ⟨rfl, rfl⟩

theorem watched_grows : (svc.watched sink net).Keeps Grows where
  refl _ := ⟨List.prefix_rfl, List.prefix_rfl⟩
  trans h h' := ⟨h.1.trans h'.1, h.2.trans h'.2⟩
  pull _ _ _ _ := ⟨List.prefix_rfl, List.prefix_rfl⟩
  acknowledge _ _ _ := ⟨List.prefix_rfl, List.prefix_rfl⟩
  pause _ _ := ⟨List.prefix_rfl, List.prefix_rfl⟩
  record _ _ := ⟨List.prefix_rfl, List.prefix_rfl⟩
  draw _ := ⟨List.prefix_rfl, List.prefix_rfl⟩
  newKey _ := ⟨List.prefix_append _ _, List.prefix_rfl⟩
  insert table row key retries w := by
    obtain ⟨hkeys, sent, hrequests, -⟩ := BigQuery.attempts_sent net sink
      ⟨table, insertRequest key row, retries.toNat⟩ retries.toNat w
    exact ⟨hkeys ▸ List.prefix_rfl, hrequests ▸ List.prefix_append _ _⟩

theorem deliver_record (relay : Relay) (m : Message) (s : State (Watched σ)) :
    DeliveryRecord sink relay m s.world (deliver (svc.watched sink net) relay m s).2.world := by
  cases hrow : BigQuery.decodeRow m with
  | error cause =>
    obtain ⟨out, hd, hc⟩ := deliver_undecodable (svc.watched sink net) relay s hrow
    rw [hd, hc.world]
    exact .undecodable hrow (recordReply_keeps (watched_quiet svc sink net) ..)
  | ok row =>
    obtain ⟨hkeys, sent, hrequests, hsent⟩ := BigQuery.attempts_sent net sink
      ⟨relay.table, insertRequest ((svc.watched sink net).newKey s.world).1 row,
        relay.settings.insertRetries.toNat⟩ relay.settings.insertRetries.toNat
      ((svc.watched sink net).newKey s.world).2
    -- nothing is taken down behind the insert
    have hquiet : SameRecord (insertReply (svc.watched sink net) relay row s.world).world
        (deliver (svc.watched sink net) relay m s).2.world := by
      obtain ⟨s₁, hask, ⟨-, hd⟩ | ⟨answer, out, -, hd, hc⟩⟩ :=
        deliver_decoded (svc.watched sink net) relay s hrow
      · rw [hd, hask.world]
        exact ⟨rfl, rfl⟩
      · rw [hd, hc.world, ← hask.world]
        exact recordReply_keeps (watched_quiet svc sink net) ..
    exact .decoded _ sent hrow (hquiet.1.trans hkeys) (hquiet.2.trans hrequests) hsent

end

/-! ## Requests of a run -/

/-- The delivery at position `i` of step `k` sent the request, number `j` of the run. -/
def SentFor (svc : Services (Watched σ)) (relay : Relay) (start : State (Watched σ)) (k i : Nat)
    (m : Message) (j : Nat) (r : Request) : Prop :=
  ∃ s₁, Delivers svc relay start k i m s₁ ∧ s₁.world.requests.length ≤ j ∧
    (deliver svc relay m s₁).2.world.requests[j]? = some r

section
variable {svc : Services σ} {sink : Client} {net : Network σ} {relay : Relay}
  {s s' : State (Watched σ)} {batch : List Message} {index j : Nat} {p : Progress} {r : Request}

/-- Up to a delivery and in it, what was sent was sent for messages of the batch. -/
theorem sent_in_delivery {m : Message}
    (h : Reaches (svc.watched sink net) relay s batch index p s')
    (hm : batch[index]? = some m) (hgoing : (svc.watched sink net).cancelled s'.world = false)
    (hbefore : s'.world.requests[j]? = some r →
      ∃ i m, SentFor (svc.watched sink net) relay s 0 i m j r)
    (hsent : (deliver (svc.watched sink net) relay m s').2.world.requests[j]? = some r) :
    ∃ i m, SentFor (svc.watched sink net) relay s 0 i m j r := by
  by_cases hj : j < s'.world.requests.length
  · obtain ⟨-, hgrows⟩ := deliver_keeps (watched_grows svc sink net) relay m s'
    have hsame := List.prefix_iff_getElem?.1 hgrows j hj
    refine hbefore ?_
    rw [List.getElem?_eq_getElem hj, ← hsame, hsent]
  · exact ⟨index, m, s', ⟨s, batch, p, rfl, h, hm, hgoing⟩, Nat.le_of_not_lt hj, hsent⟩

theorem Reaches.sent (h : Reaches (svc.watched sink net) relay s batch index p s')
    (hj : s.world.requests.length ≤ j) (hsent : s'.world.requests[j]? = some r) :
    ∃ i m, SentFor (svc.watched sink net) relay s 0 i m j r := by
  induction h with
  | pulled =>
    obtain ⟨-, hsame⟩ := pulledState_keeps (watched_quiet svc sink net) relay s
    change (pulledState _ relay s).world.requests[j]? = some r at hsent
    rw [hsame, List.getElem?_eq_none hj] at hsent
    cases hsent
  | next hbefore hm hgoing hd ih =>
    refine sent_in_delivery hbefore hm hgoing ih ?_
    rw [hd]
    exact hsent

theorem step_sent (hj : s.world.requests.length ≤ j)
    (hsent : (step (svc.watched sink net) relay s).2.world.requests[j]? = some r) :
    ∃ i m, SentFor (svc.watched sink net) relay s 0 i m j r := by
  rcases step_stops (svc.watched sink net) relay s with
    hno | ⟨batch, index, p, s', out, hreached, hstops, hstep⟩
  · obtain ⟨-, hsame⟩ := hno.keeps (watched_quiet svc sink net)
    rw [hsame, List.getElem?_eq_none hj] at hsent
    cases hsent
  · obtain ⟨-, hsame⟩ := afterLoop_keeps (watched_quiet svc sink net) relay
      batch.length out
    rw [hstep, hsame] at hsent
    cases hstops with
    | delivered => exact hreached.sent hj hsent
    | cancelled => exact hreached.sent hj hsent
    | abandoned hm hgoing hd =>
      refine sent_in_delivery hreached hm hgoing (hreached.sent hj) ?_
      rw [hd]
      exact hsent
    | broken hm hgoing hd =>
      refine sent_in_delivery hreached hm hgoing (hreached.sent hj) ?_
      rw [hd]
      exact hsent

theorem SentFor.later {svc : Services (Watched σ)} {k i : Nat} {m : Message}
    (hgoes : ∀ n, steps svc relay (n + 1) s = steps svc relay n (step svc relay s).2)
    (h : SentFor svc relay (step svc relay s).2 k i m j r) :
    SentFor svc relay s (k + 1) i m j r := by
  obtain ⟨s₁, ⟨s', batch, p, hsteps, hrest⟩, hsent⟩ := h
  exact ⟨s₁, ⟨s', batch, p, (hgoes k).trans hsteps, hrest⟩, hsent⟩

/-- **What a run sends**, it sends for deliveries of its steps. -/
theorem steps_sent (n : Nat) : ∀ {s : State (Watched σ)}, s.world.requests.length ≤ j →
    (steps (svc.watched sink net) relay n s).2.world.requests[j]? = some r →
    ∃ k, k < n ∧ ∃ i m, SentFor (svc.watched sink net) relay s k i m j r := by
  induction n with
  | zero =>
    intro s hj hsent
    rw [steps, List.getElem?_eq_none hj] at hsent
    cases hsent
  | succ n ih =>
    intro s hj hsent
    rcases steps_succ (svc.watched sink net) relay s with hgoes | ⟨e, s', hworld, hends⟩
    · by_cases hfirst : j < (step (svc.watched sink net) relay s).2.world.requests.length
      · obtain ⟨-, hgrows⟩ := steps_keeps_behind (watched_grows svc sink net) relay n s
        have hsame := List.prefix_iff_getElem?.1 hgrows j hfirst
        refine ⟨0, Nat.succ_pos n, step_sent hj ?_⟩
        rw [List.getElem?_eq_getElem hfirst, ← hsame, hsent]
      · rw [hgoes] at hsent
        obtain ⟨k, hk, i, m, h⟩ := ih (Nat.le_of_not_lt hfirst) hsent
        exact ⟨k + 1, Nat.succ_lt_succ hk, i, m, h.later hgoes⟩
    · rw [hends, hworld] at hsent
      exact ⟨0, Nat.succ_pos n, step_sent hj hsent⟩

end

/-! ## Keys -/

/-- A run that has just begun, with nothing in its record. -/
def begun (relay : Relay) (store : Option Store) (w : σ) : State (Watched σ) :=
  (State.start relay.settings store { world := w }).note
    (.started relay.subscription relay.table relay.settings.batchSize)

section
variable (svc : Services σ) (sink : Client) (net : Network σ) (relay : Relay)
  (store : Option Store) (w : σ) (n : Nat)

/-- What the requests of a run of at most `n` steps tell about its deliveries. -/
structure KeysTellDeliveries : Prop where
  /-- The run is that of services which take nothing down. -/
  unwatched : run (svc.insertingThrough sink net) relay n (.start relay.settings store w) =
    seenOut Watched.world (steps (svc.watched sink net) relay n (begun relay store w))
  /-- The requests of the run are those of its deliveries. -/
  sent (j : Nat) (r : Request) :
    (steps (svc.watched sink net) relay n (begun relay store w)).2.world.requests[j]? = some r ↔
      ∃ k, k < n ∧ ∃ i m, SentFor (svc.watched sink net) relay (begun relay store w) k i m j r
  /-- A request carries a key and the row of its message. -/
  decodable {k i j : Nat} {m : Message} {r : Request} :
    SentFor (svc.watched sink net) relay (begun relay store w) k i m j r →
    ∃ row key, BigQuery.decodeRow m = .ok row ∧ r.body = (insertRequest key row).render ∧
      insertId? r.body = some key.text
  /-- All attempts of a delivery send the same. -/
  attempts {k i j j' : Nat} {m m' : Message} {r r' : Request} :
    SentFor (svc.watched sink net) relay (begun relay store w) k i m j r →
    SentFor (svc.watched sink net) relay (begun relay store w) k i m' j' r' →
    r.url = r'.url ∧ r.body = r'.body
  /-- Requests carry one key exactly if they are attempts of one delivery. -/
  insertIds {k k' i i' j j' : Nat} {m m' : Message} {r r' : Request} : k < n → k' < n →
    SentFor (svc.watched sink net) relay (begun relay store w) k i m j r →
    SentFor (svc.watched sink net) relay (begun relay store w) k' i' m' j' r' →
    (insertId? r.body = insertId? r'.body ↔ k = k' ∧ i = i')

end

section
variable {svc : Services σ} {sink : Client} {net : Network σ} {relay : Relay}
  {start : State (Watched σ)} {k k' i i' j j' n : Nat} {m m' : Message} {r r' : Request}

/-- A request was sent with the key that its delivery drew, and for the row of its message. -/
theorem SentFor.drawn (h : SentFor (svc.watched sink net) relay start k i m j r) :
    ∃ s₁ row key, Delivers (svc.watched sink net) relay start k i m s₁ ∧
      BigQuery.decodeRow m = .ok row ∧
      (deliver (svc.watched sink net) relay m s₁).2.world.keys = s₁.world.keys ++ [key] ∧
      sink.request ⟨relay.table, insertRequest key row,
        relay.settings.insertRetries.toNat⟩ = .ok r := by
  obtain ⟨s₁, hdelivers, hj, hsent⟩ := h
  cases deliver_record svc sink net relay m s₁ with
  | undecodable hrow hsame =>
    rw [hsame.2, List.getElem?_eq_none hj] at hsent
    cases hsent
  | decoded key sent hrow hkeys hrequests hrequest =>
    rw [hrequests, List.getElem?_append_right hj] at hsent
    exact ⟨s₁, _, key, hdelivers, hrow, hkeys, hrequest r (List.mem_of_getElem? hsent)⟩

/-- What a delivery sends stays in the record of the run. -/
theorem SentFor.kept (h : SentFor (svc.watched sink net) relay start k i m j r) (hk : k < n) :
    (steps (svc.watched sink net) relay n start).2.world.requests[j]? = some r := by
  obtain ⟨s₁, hdelivers, -, hsent⟩ := h
  obtain ⟨-, hgrows⟩ := hdelivers.keeps_end (watched_grows svc sink net) hk
  obtain ⟨hj, rfl⟩ := List.getElem?_eq_some_iff.1 hsent
  exact List.prefix_iff_getElem?.1 hgrows j hj

theorem SentFor.same (h : SentFor (svc.watched sink net) relay start k i m j r)
    (h' : SentFor (svc.watched sink net) relay start k i m' j' r') : r = r' := by
  obtain ⟨s₁, row, key, hdelivers, hrow, hkeys, hrequest⟩ := h.drawn
  obtain ⟨s₁', row', key', hdelivers', hrow', hkeys', hrequest'⟩ := h'.drawn
  obtain ⟨rfl, rfl⟩ := hdelivers.unique hdelivers'
  obtain rfl := Except.ok.inj (hrow.symm.trans hrow')
  obtain rfl := List.singleton_inj.1 (List.append_cancel_left (hkeys.symm.trans hkeys'))
  exact Except.ok.inj (hrequest.symm.trans hrequest')

/-- Of two deliveries the later one draws another key. -/
theorem Delivers.key_ne {s₁ s₁' : State (Watched σ)} {key key' : IdempotencyKey}
    (h : Delivers (svc.watched sink net) relay start k i m s₁)
    (h' : Delivers (svc.watched sink net) relay start k' i' m' s₁')
    (hlt : k < k' ∨ k = k' ∧ i < i') (hk' : k' < n)
    (hnodup : (steps (svc.watched sink net) relay n start).2.world.keys.Nodup)
    (hkeys : (deliver (svc.watched sink net) relay m s₁).2.world.keys =
      s₁.world.keys ++ [key])
    (hkeys' : (deliver (svc.watched sink net) relay m' s₁').2.world.keys =
      s₁'.world.keys ++ [key']) : key ≠ key' := by
  rintro rfl
  obtain ⟨hbefore, -⟩ := h.before (watched_grows svc sink net) h' hlt
  obtain ⟨hend, -⟩ := h'.keeps_end (watched_grows svc sink net) hk'
  have hmem : key ∈ s₁'.world.keys := hbefore.subset (by simp [hkeys])
  have hnodup' := hend.sublist.nodup hnodup
  rw [hkeys'] at hnodup'
  exact (List.nodup_append.1 hnodup').2.2 key hmem key (by simp) rfl

theorem insertId?_of_request {key : IdempotencyKey} {row : Row}
    (h : sink.request ⟨relay.table, insertRequest key row,
      relay.settings.insertRetries.toNat⟩ = .ok r) : insertId? r.body = some key.text := by
  rw [BigQuery.request_body h]
  exact BigQuery.insertId?_insertRequest key row

/-- Requests with one key were sent for one delivery. -/
theorem SentFor.delivery_eq (hk : k < n) (hk' : k' < n)
    (hnodup : (steps (svc.watched sink net) relay n start).2.world.keys.Nodup)
    (h : SentFor (svc.watched sink net) relay start k i m j r)
    (h' : SentFor (svc.watched sink net) relay start k' i' m' j' r')
    (heq : insertId? r.body = insertId? r'.body) : k = k' ∧ i = i' := by
  obtain ⟨s₁, row, key, hdelivers, -, hkeys, hrequest⟩ := h.drawn
  obtain ⟨s₁', row', key', hdelivers', -, hkeys', hrequest'⟩ := h'.drawn
  rw [insertId?_of_request hrequest, insertId?_of_request hrequest'] at heq
  have hkey : key = key' := congrArg IdempotencyKey.mk (Option.some.inj heq)
  by_contra hne
  have hlt : (k < k' ∨ k = k' ∧ i < i') ∨ (k' < k ∨ k' = k ∧ i' < i) := by omega
  rcases hlt with hlt | hlt
  · exact hdelivers.key_ne hdelivers' hlt hk' hnodup hkeys hkeys' hkey
  · exact hdelivers'.key_ne hdelivers hlt hk hnodup hkeys' hkeys hkey.symm

end

/-- **Keys tell deliveries apart**, where none is handed out twice. -/
theorem keys_tell_deliveries {svc : Services σ} {sink : Client} {net : Network σ} {relay : Relay}
    {store : Option Store} {w : σ} {n : Nat}
    (hnodup : (steps (svc.watched sink net) relay n (begun relay store w)).2.world.keys.Nodup) :
    KeysTellDeliveries svc sink net relay store w n where
  unwatched := steps_over (watched_over svc sink net) relay n (begun relay store w)
  sent j r := by
    refine ⟨steps_sent n (Nat.zero_le j), ?_⟩
    rintro ⟨k, hk, i, m, h⟩
    exact h.kept hk
  decodable h := by
    obtain ⟨s₁, row, key, -, hrow, -, hrequest⟩ := h.drawn
    exact ⟨row, key, hrow, BigQuery.request_body hrequest, insertId?_of_request hrequest⟩
  attempts h h' := by
    obtain rfl := h.same h'
    exact ⟨rfl, rfl⟩
  insertIds hk hk' h h' := by
    refine ⟨h.delivery_eq hk hk' hnodup h', ?_⟩
    rintro ⟨rfl, rfl⟩
    rw [h.same h']

/-- A network that is out of order until somebody has waited. -/
def sampleNetwork : Network Script where
  send _ s := ⟨.answered (.answered ⟨if s.clock.nanos = 0 then 503 else 200,
    Bytes.ofAscii "\x7b\x7d", true⟩), [], s⟩
  pause delay s := ⟨.answered (), [], s.wait delay⟩
  draw s := (s.jitter, s)

def sampleSink : Client :=
  ⟨⟨"http://localhost", none⟩, Client.retryPolicy (.ofMillis 1)⟩

/-- A script of one pull, which brings two messages that carry rows. -/
def sampleRows : Script :=
  let batch : List Message := [⟨"a1", "m1", "e30=", none, []⟩, ⟨"a2", "m2", "e30=", none, []⟩]
  { pulls := [{ answer := .ok batch }] }

/-- The record of one step over the script. -/
def sampleRecord : Watched Script :=
  (steps (Script.services.watched sampleSink sampleNetwork) (sampleRelay {}) 1
    (begun (sampleRelay {}) none sampleRows)).2.world

/-- Two messages are delivered with three requests, as the first one has to be sent again. -/
theorem keys_tell_deliveries_of_two :
    sampleRecord.keys.Nodup ∧ sampleRecord.requests.length = 3 ∧
    KeysTellDeliveries Script.services sampleSink sampleNetwork (sampleRelay {}) none sampleRows
      1 := by
  have hnodup : sampleRecord.keys.Nodup := by decide +kernel
  have hlength : sampleRecord.requests.length = 3 := by decide +kernel
  exact ⟨hnodup, hlength, keys_tell_deliveries hnodup⟩

end RowRelay.Relay
