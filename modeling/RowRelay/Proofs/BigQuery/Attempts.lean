import RowRelay.BigQuery.Client
import RowRelay.Proofs.Json.Reading

/-!
# The requests of an insert

`Watched` is a world with a record of the keys handed out and of the requests sent from it, and
`Network.watched` a network that keeps the record. It sends what the network sends that it watches
(`attempts_watched`), and all attempts of an insert send one and the same request (`insert_sent`).

`insertId? body` reads the key back from the body of a request (`insertId?_insertRequest`).
-/

set_option autoImplicit false

namespace RowRelay

open BigQuery (IdempotencyKey)

/-! ## Watched worlds -/

/-- A world and what happened in it: the keys handed out and the requests sent, in their order. -/
structure Watched (σ : Type) where
  world : σ
  keys : List IdempotencyKey := []
  requests : List Http.Request := []

variable {σ : Type}

namespace Watched

/-- What a call brings that hands out no key and sends no request. -/
def quietly {α : Type} (w : Watched σ) (r : Reply σ α) : Reply (Watched σ) α :=
  ⟨r.answer, r.lines, { w with world := r.world }⟩

/-- Sends a request and takes it down. -/
def send {α : Type} (w : Watched σ) (request : Http.Request) (r : Reply σ α) :
    Reply (Watched σ) α :=
  ⟨r.answer, r.lines, { w with world := r.world, requests := w.requests ++ [request] }⟩

/-- The reply without the record. -/
def unwatched {α : Type} (r : Reply (Watched σ) α) : Reply σ α :=
  ⟨r.answer, r.lines, r.world.world⟩

end Watched

/-- The network, its requests being taken down. -/
def Http.Network.watched (net : Http.Network σ) : Http.Network (Watched σ) where
  send request w := w.send request (net.send request w.world)
  pause delay w := w.quietly (net.pause delay w.world)
  draw w := ((net.draw w.world).1, { w with world := (net.draw w.world).2 })

namespace BigQuery

open Http (Endpoint Network Request)

/-! ## Attempts -/

/-- The request that every attempt of an insert sends, if one can be built. -/
def Client.request (c : Client) (i : Insertion) : Except Http.Failure Request :=
  Request.build (c.endpoint.url (insertPath i.table)) c.endpoint.token i.body

theorem request_body {c : Client} {i : Insertion} {r : Request} (h : c.request i = .ok r) :
    r.body = i.body.render := by
  unfold Client.request Request.build at h
  split at h
  · cases h
  · dsimp only at h
    split at h
    · cases h
    · split at h
      · cases h
      · split at h <;> cases h
        rfl

/-- Between two worlds no key was handed out, and only the one request was sent, if at all. -/
structure Sent (request : Except Http.Failure Request) (w w' : Watched σ) : Prop where
  keys : w'.keys = w.keys
  requests : ∃ sent, w'.requests = w.requests ++ sent ∧ ∀ r ∈ sent, request = .ok r

theorem Sent.trans {request : Except Http.Failure Request} {w₁ w₂ w₃ : Watched σ}
    (h : Sent request w₁ w₂) (h' : Sent request w₂ w₃) : Sent request w₁ w₃ := by
  obtain ⟨sent, hrequests, hsent⟩ := h.requests
  obtain ⟨sent', hrequests', hsent'⟩ := h'.requests
  refine ⟨h'.keys.trans h.keys, sent ++ sent', ?_, fun r hr => ?_⟩
  · rw [hrequests', hrequests, List.append_assoc]
  · rcases List.mem_append.1 hr with hr | hr
    · exact hsent r hr
    · exact hsent' r hr

theorem Sent.of_eq {request : Except Http.Failure Request} {w w' : Watched σ}
    (hkeys : w'.keys = w.keys) (hrequests : w'.requests = w.requests) : Sent request w w' :=
  ⟨hkeys, [], by rw [hrequests, List.append_nil], by simp⟩

section
variable (net : Network σ)

theorem post_sent (e : Endpoint) (path : String) (body : Json.Value) (w : Watched σ) :
    Sent (Request.build (e.url path) e.token body) w (e.post net.watched path body w).world := by
  unfold Endpoint.post
  cases hbuild : Request.build (e.url path) e.token body with
  | error failure => exact .of_eq rfl rfl
  | ok request => exact ⟨rfl, [request], rfl, by simp⟩

theorem post_watched (e : Endpoint) (path : String) (body : Json.Value) (w : Watched σ) :
    Watched.unwatched (e.post net.watched path body w) = e.post net path body w.world := by
  unfold Endpoint.post
  cases Request.build (e.url path) e.token body <;> rfl

variable (c : Client) (i : Insertion)

section
variable {next : String → Watched σ → Reply (Watched σ) (Awaited (Except InsertError Unit))}
  {plain : String → σ → Reply σ (Awaited (Except InsertError Unit))}

/-- An attempt sends the request, and what follows it may only send it again. -/
theorem attempt_sent (hnext : ∀ reason w, Sent (c.request i) w (next reason w).world)
    (w : Watched σ) : Sent (c.request i) w (c.attempt net.watched i next w).world := by
  have hpost := post_sent net c.endpoint (insertPath i.table) i.body w
  unfold Client.attempt
  dsimp only
  generalize c.endpoint.post net.watched (insertPath i.table) i.body w = sent at hpost ⊢
  cases sent.answer with
  | abandoned => exact hpost
  | answered delivery =>
    dsimp only
    cases Attempt.ofDelivery delivery with
    | done result => exact hpost
    | transient reason => exact hpost.trans (hnext reason sent.world)

theorem attempt_watched
    (hnext : ∀ reason w, Watched.unwatched (next reason w) = plain reason w.world)
    (w : Watched σ) :
    Watched.unwatched (c.attempt net.watched i next w) = c.attempt net i plain w.world := by
  unfold Client.attempt
  rw [← post_watched]
  generalize c.endpoint.post net.watched (insertPath i.table) i.body w = sent
  dsimp only [Watched.unwatched]
  cases sent.answer with
  | abandoned => rfl
  | answered delivery =>
    dsimp only
    cases Attempt.ofDelivery delivery with
    | done result => rfl
    | transient reason =>
      dsimp only
      rw [← hnext]
      rfl

end

section
variable {next : Watched σ → Reply (Watched σ) (Awaited (Except InsertError Unit))}
  {plain : σ → Reply σ (Awaited (Except InsertError Unit))}

theorem waitFor_sent (retry : Nat) (reason : String)
    (hnext : ∀ w, Sent (c.request i) w (next w).world) (w : Watched σ) :
    Sent (c.request i) w (c.waitFor net.watched i retry reason next w).world := by
  have hquiet : ∀ world, Sent (c.request i) w { w with world } := fun world => .of_eq rfl rfl
  unfold Client.waitFor
  dsimp only
  split
  · exact hquiet _
  · exact (hquiet _).trans (hnext _)

theorem waitFor_watched (retry : Nat) (reason : String)
    (hnext : ∀ w, Watched.unwatched (next w) = plain w.world) (w : Watched σ) :
    Watched.unwatched (c.waitFor net.watched i retry reason next w) =
      c.waitFor net i retry reason plain w.world := by
  unfold Client.waitFor
  dsimp only [Http.Network.watched, Watched.quietly]
  generalize net.pause _ _ = waited
  cases waited.answer with
  | abandoned => rfl
  | answered u =>
    dsimp only
    rw [← hnext { w with world := waited.world }]
    rfl

end

/-- **All attempts send the same request.** -/
theorem attempts_sent (left : Nat) :
    ∀ w : Watched σ, Sent (c.request i) w (c.attempts net.watched i left w).world := by
  induction left with
  | zero => exact attempt_sent net c i fun reason w => .of_eq rfl rfl
  | succ left ih => exact attempt_sent net c i fun reason => waitFor_sent net c i _ reason ih

theorem attempts_watched (left : Nat) :
    ∀ w : Watched σ, Watched.unwatched (c.attempts net.watched i left w) =
      c.attempts net i left w.world := by
  induction left with
  | zero => exact attempt_watched net c i fun reason w => rfl
  | succ left ih => exact attempt_watched net c i fun reason => waitFor_watched net c i _ reason ih

end

/-! ## The key in a request -/

/-- How the body of an insert begins, up to the key. -/
def insertOpening : Bytes :=
  Bytes.ofAscii "\x7b\"rows\":[\x7b\"insertId\":"

/-- The key that the body of an insert carries. -/
def insertId? (body : String) : Option String :=
  let bs := Utf8.ofString body
  match Json.word insertOpening (.ofBytes bs) with
  | .error _ => none
  | .ok c =>
    match Json.readString (Json.budget bs) c with
    | .error _ => none
    | .ok (id, _) => some id

/-- Behind the opening stands the key in quotes. -/
theorem insertRequest_bytes (key : IdempotencyKey) (row : Row) :
    ∃ rest, Utf8.ofString (insertRequest key row).render =
      insertOpening ++ (Utf8.encode (Json.writeString key.text) ++ rest) := by
  have hopening : Utf8.encode "\x7b\"rows\":[\x7b\"insertId\":".toList = insertOpening := rfl
  have hwrite : (insertRequest key row).write = "\x7b\"rows\":[\x7b\"insertId\":".toList ++
      (Json.writeString key.text ++ (',' :: Json.writeString "json" ++ ':' ::
        (Json.Value.object row).write ++ "\x7d]\x7d".toList)) := by
    simp [insertRequest, Json.Value.write, Json.writeMembers, Json.writeElements,
      Json.writeString, Json.writeChar]
  rw [Utf8.ofString, Json.Value.render, String.toList_ofList, hwrite, ← hopening]
  simp only [Utf8.encode, List.flatMap_append]
  exact ⟨_, rfl⟩

/-- **The key of an insert is read back** from the body of its request. -/
theorem insertId?_insertRequest (key : IdempotencyKey) (row : Row) :
    insertId? (insertRequest key row).render = some key.text := by
  obtain ⟨rest, hbytes⟩ := insertRequest_bytes key row
  obtain ⟨q, hword⟩ := Json.word_text insertOpening
    (Utf8.encode (Json.writeString key.text) ++ rest) ⟨1, 0⟩
  have hlen : (Utf8.encode (Json.writeString key.text)).length ≤
      Json.budget (Utf8.ofString (insertRequest key row).render) := by
    rw [Json.budget, hbytes]
    simp only [List.length_append]
    omega
  obtain ⟨q', hread⟩ := Json.readString_text (Json.stringText_write key.text) hlen
    Json.blanks_nil rest q
  simp only [insertId?, Json.Cursor.ofBytes, hbytes, List.nil_append] at hread ⊢
  simp only [hword, hread]

end BigQuery

end RowRelay
