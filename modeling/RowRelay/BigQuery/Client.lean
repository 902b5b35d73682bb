import RowRelay.Backoff
import RowRelay.BigQuery.Insert
import RowRelay.Http.Exchange

/-!
# Inserting through a network

A row is inserted in one or more attempts, all with the same key and body. An attempt that fails in
a way that may pass is made again after a wait, until the retries are used up; what cannot pass
ends the insert at once.
-/

set_option autoImplicit false

namespace RowRelay.BigQuery

open Http (Endpoint Network)

variable {σ : Type}

/-- Where inserts into a table go. -/
def insertPath (t : TableRef) : String :=
  s!"/bigquery/v2/projects/{t.projectId}/datasets/{t.datasetId}/tables/{t.tableId}/insertAll"

/-! ## One attempt -/

/-- What came of an attempt. -/
inductive Attempt where
  | done (result : Except InsertError Unit)
  /-- The attempt failed in a way that may pass. -/
  | transient (reason : String)

/-- Whether a failure on the way may pass. -/
def isTransient : Http.Failure → Bool
  | .undelivered _ => true
  | _ => false

/-- The result that a response tells of. -/
def Attempt.ofResponse (response : Http.Response) : Attempt :=
  if response.isTransient then .transient s!"HTTP {response.status}: {response.text}"
  else if !response.isSuccess then .done (.error (.status response.status response.text))
  else match response.read (Json.readAll responseShape.read) with
    | .error failure => .done (.error (.other failure.message))
    | .ok rows =>
      match rejection? rows with
      | some reason => .done (.error (.rejected reason))
      | none => .done (.ok ())

def Attempt.ofDelivery : Except Http.Failure Http.Response → Attempt
  | .ok response => .ofResponse response
  | .error failure =>
    if isTransient failure then .transient failure.message
    else .done (.error (.other failure.message))

/-! ## All attempts -/

/-- Where rows go, and how long to wait between attempts. -/
structure Client where
  endpoint : Endpoint
  policy : RetryPolicy

/-- The client of a relay, whose waits grow from a base to thirty-two seconds. -/
def Client.retryPolicy (base : Duration) : RetryPolicy :=
  .doubling base (.ofSecs 32)

/-- An insert under way: where to, what, and how often it may be tried again. -/
structure Insertion where
  table : TableRef
  body : Json.Value
  retries : Nat

/-- The line about a retry. -/
def Insertion.retryLine (i : Insertion) (reason : String) (retry : Nat) (delay : Duration) :
    Log.Line :=
  ⟨.warn, s!"insert into {i.table.render} failed ({reason}); " ++
    s!"retry {retry}/{i.retries} in {delay.describe}"⟩

section
variable (c : Client) (net : Network σ) (i : Insertion)

/-- Makes an attempt; `next` follows if it failed in a way that may pass. -/
def Client.attempt (next : String → σ → Reply σ (Awaited (Except InsertError Unit))) (world : σ) :
    Reply σ (Awaited (Except InsertError Unit)) :=
  let sent := c.endpoint.post net (insertPath i.table) i.body world
  match sent.answer with
  | .abandoned => ⟨.abandoned, sent.lines, sent.world⟩
  | .answered delivery =>
    match Attempt.ofDelivery delivery with
    | .done result => ⟨.answered result, sent.lines, sent.world⟩
    | .transient reason =>
      let rest := next reason sent.world
      ⟨rest.answer, sent.lines ++ rest.lines, rest.world⟩

/-- Waits for the given retry and goes on with `next`. -/
def Client.waitFor (retry : Nat) (reason : String)
    (next : σ → Reply σ (Awaited (Except InsertError Unit))) (world : σ) :
    Reply σ (Awaited (Except InsertError Unit)) :=
  let (jitter, world) := net.draw world
  let delay := c.policy.delay retry jitter
  let waited := net.pause delay world
  let lines := i.retryLine reason retry delay :: waited.lines
  match waited.answer with
  | .abandoned => ⟨.abandoned, lines, waited.world⟩
  | .answered () =>
    let rest := next waited.world
    ⟨rest.answer, lines ++ rest.lines, rest.world⟩

/-- Makes attempts until one is done or `left` more retries are used up. -/
def Client.attempts : (left : Nat) → σ → Reply σ (Awaited (Except InsertError Unit))
  | 0 => c.attempt net i fun reason world =>
    ⟨.answered (.error (.exhausted (i.retries + 1) reason)), [], world⟩
  | left + 1 => c.attempt net i fun reason =>
    c.waitFor net i (i.retries - left) reason (Client.attempts left)

end

/-- Inserts a row into a table under a key, trying again at most so often. -/
def Client.insert (c : Client) (net : Network σ) (table : TableRef) (row : Row)
    (key : IdempotencyKey) (retries : UInt32) (world : σ) :
    Reply σ (Awaited (Except InsertError Unit)) :=
  c.attempts net ⟨table, insertRequest key row, retries.toNat⟩ retries.toNat world

end RowRelay.BigQuery
