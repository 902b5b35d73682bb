import RowRelay.Proofs.Except
import RowRelay.Setup.Draft

/-!
# Which settings are accepted

Seven things are asked of a draft (`Demand`): the four names of the target are given and are not
blank, and of what is given or else the default, batches are not empty, the first wait behind an
empty pull is at most the longest one, and the time to live is positive. They are checked in this
order, each on the draft as a whole, so that a value may clash with the default of another.

* `complete_iff_demands`: a draft is accepted exactly if it meets all demands, with the value given
  or the default everywhere (`Draft.Effective`); if not, the fault is that of the first one unmet.
-/

set_option autoImplicit false

namespace RowRelay.Setup

/-! ## Demands -/

/-- What is asked of a draft. -/
inductive Demand where
  | projectId
  | datasetId
  | tableId
  | subscription
  | batchSize
  | backoff
  | ttl
  deriving DecidableEq, Repr

/-- A value is given, and not all of it is blank. -/
def IsNamed (value : Option String) : Prop :=
  ∃ v, value = some v ∧ ∃ c ∈ v.toList, Text.isBlank c = false

namespace Demand

/-- The demands in the order in which they are checked. -/
def inOrder : List Demand :=
  [.projectId, .datasetId, .tableId, .subscription, .batchSize, .backoff, .ttl]

/-- The draft meets a demand. What is not given counts as its default. -/
def Met (d : Draft) : Demand → Prop
  | .projectId => IsNamed d.target.projectId
  | .datasetId => IsNamed d.target.datasetId
  | .tableId => IsNamed d.target.tableId
  | .subscription => IsNamed d.target.subscription
  | .batchSize => d.relay.batchSize.getD 100 ≠ 0
  | .backoff => d.relay.emptyBackoffInitialMs.getD 250 ≤ d.relay.emptyBackoffMaxMs.getD 30000
  | .ttl => ∀ ttl, d.deadLetter.ttlSecs = some ttl → 0 < ttl

/-- The fault of a draft that does not meet a demand. -/
def fault : Demand → Fault
  | .projectId => .unset "env.PROJECT_ID"
  | .datasetId => .unset "env.DATASET_ID"
  | .tableId => .unset "env.TABLE_ID"
  | .subscription => .unset "env.SUBSCRIPTION"
  | .batchSize => .emptyBatches
  | .backoff => .crossedBackoff
  | .ttl => .nonPositiveTtl

/-- The settings that a demand is about. -/
def about : Demand → List String
  | .projectId => ["env.PROJECT_ID"]
  | .datasetId => ["env.DATASET_ID"]
  | .tableId => ["env.TABLE_ID"]
  | .subscription => ["env.SUBSCRIPTION"]
  | .batchSize => ["relay.batch_size"]
  | .backoff => ["relay.empty_backoff_initial_ms", "relay.empty_backoff_max_ms"]
  | .ttl => ["dead_letter.ttl_secs"]

/-- Every fault names the settings that it is about. -/
theorem message_names (demand : Demand) : ∀ name ∈ demand.about,
    Text.isWithin name.toList demand.fault.message.toList = true := by
  cases demand <;> decide +kernel

/-- The defaults meet all demands but those for names. -/
theorem met_of_defaults {d : Draft} (hrelay : d.relay = {}) (hletter : d.deadLetter = {}) :
    ∀ demand ∈ [batchSize, backoff, ttl], demand.Met d := by
  simp only [List.forall_mem_cons, Met, hrelay, hletter]
  exact ⟨by decide, by decide, nofun, nofun⟩

/-- The demand is not met, but all those before it are. -/
def FirstUnmet (d : Draft) (demand : Demand) : Prop :=
  ¬ demand.Met d ∧
    ∃ before after, inOrder = before ++ demand :: after ∧ ∀ b ∈ before, b.Met d

end Demand

/-- Settings with the value that a draft gives, or else the default, everywhere. The names of the
target have no default. -/
structure Draft.Effective (d : Draft) (settings : Settings) : Prop where
  target : d.target = ⟨some settings.target.projectId, some settings.target.datasetId,
    some settings.target.tableId, some settings.target.subscription⟩
  relay : settings.relay = ⟨d.relay.batchSize.getD 100, d.relay.returnImmediately.getD false,
    d.relay.insertRetries.getD 5, d.relay.insertRetryBaseMs.getD 1000,
    d.relay.emptyBackoffInitialMs.getD 250, d.relay.emptyBackoffMaxMs.getD 30000,
    d.relay.failurePolicy.getD .abort, d.relay.ackPolicy.getD .afterAttempt⟩
  endpoints : settings.endpoints = ⟨d.endpoints.pubsubUrl.getD "https://pubsub.googleapis.com",
    d.endpoints.bigqueryUrl.getD "https://bigquery.googleapis.com",
    d.endpoints.requestTimeoutSecs.getD 120⟩
  auth : settings.auth = d.auth
  deadLetter : settings.deadLetter = ⟨d.deadLetter.path.getD "relay_dead_letters",
    some (d.deadLetter.maxEntries.getD 10000), d.deadLetter.ttlSecs⟩
  logging : settings.logging = ⟨d.logging.level.getD "info"⟩

theorem Draft.Effective.unique {d : Draft} {settings settings' : Settings}
    (h : d.Effective settings) (h' : d.Effective settings') : settings = settings' := by
  have htarget := h.target.symm.trans h'.target
  obtain ⟨⟨_, _, _, _⟩, _, _, _, _, _⟩ := settings
  obtain ⟨⟨_, _, _, _⟩, _, _, _, _, _⟩ := settings'
  simp only [TargetDraft.mk.injEq, Option.some.injEq] at htarget
  obtain ⟨rfl, rfl, rfl, rfl⟩ := htarget
  rw [Settings.mk.injEq]
  exact ⟨rfl, h.relay.trans h'.relay.symm, h.endpoints.trans h'.endpoints.symm,
    h.auth.trans h'.auth.symm, h.deadLetter.trans h'.deadLetter.symm,
    h.logging.trans h'.logging.symm⟩

/-! ## What each section checks -/

theorem isNamed_some (v : String) : IsNamed (some v) ↔ Text.isBlankText v = false := by
  simp [IsNamed, Text.isBlankText]

theorem require_checks (value : Option String) (key : String) :
    Checks (fun v => value = some v) (TargetDraft.require value key)
      [(IsNamed value, .unset ("env." ++ key))] := by
  cases value with
  | none =>
    refine ⟨fun ⟨v, hv, _⟩ => ?_, fun _ => rfl⟩
    cases hv
  | some v =>
    simp only [Checks, isNamed_some, TargetDraft.require]
    cases hblank : Text.isBlankText v with
    | false => exact ⟨fun _ => ⟨v, rfl, rfl⟩, fun h => absurd rfl h⟩
    | true => exact ⟨nofun, fun _ => rfl⟩

theorem TargetDraft.complete_checks (d : TargetDraft) :
    Checks (fun target : Target => d = ⟨some target.projectId, some target.datasetId,
        some target.tableId, some target.subscription⟩) d.complete
      [(IsNamed d.projectId, .unset "env.PROJECT_ID"),
        (IsNamed d.datasetId, .unset "env.DATASET_ID"),
        (IsNamed d.tableId, .unset "env.TABLE_ID"),
        (IsNamed d.subscription, .unset "env.SUBSCRIPTION")] := by
  refine (require_checks d.projectId "PROJECT_ID").bind fun projectId hproject => ?_
  refine (require_checks d.datasetId "DATASET_ID").bind fun datasetId hdataset => ?_
  refine (require_checks d.tableId "TABLE_ID").bind fun tableId htable => ?_
  refine (require_checks d.subscription "SUBSCRIPTION").bind fun subscription hsubscription => ?_
  refine ⟨_, rfl, ?_⟩
  dsimp only
  rw [← hproject, ← hdataset, ← htable, ← hsubscription]

theorem RelayDraft.complete_checks (d : RelayDraft) :
    Checks (fun settings => settings = d.fill) d.complete
      [(d.batchSize.getD 100 ≠ 0, .emptyBatches),
        (d.emptyBackoffInitialMs.getD 250 ≤ d.emptyBackoffMaxMs.getD 30000, .crossedBackoff)] := by
  refine ⟨fun hbatch => ⟨fun hbackoff => ?_, fun hbackoff => ?_⟩, fun hbatch => ?_⟩
  · refine ⟨d.fill, ?_, rfl⟩
    exact (if_neg hbatch).trans (if_neg (UInt64.not_lt.2 hbackoff))
  · exact (if_neg hbatch).trans (if_pos (UInt64.not_le.1 hbackoff))
  · exact if_pos (not_not.1 hbatch)

-- A first wait given alone may cross the default of the longest one.
example :
    RelayDraft.complete { emptyBackoffInitialMs := some 30001 } = .error .crossedBackoff := rfl

theorem DeadLetterDraft.complete_checks (d : DeadLetterDraft) :
    Checks (fun settings => settings = d.fill) d.complete
      [(∀ ttl, d.ttlSecs = some ttl → 0 < ttl, .nonPositiveTtl)] := by
  have hfill : d.fill.ttlSecs = d.ttlSecs := by
    simp [DeadLetterDraft.fill]
  unfold DeadLetterDraft.complete
  dsimp only
  rw [hfill]
  cases d.ttlSecs with
  | none => exact ⟨fun _ => ⟨d.fill, rfl, rfl⟩, fun h => absurd nofun h⟩
  | some ttl =>
    simp only [Checks, Option.some.injEq, forall_eq']
    refine ⟨fun hpos => ⟨d.fill, if_neg (Int64.not_le.2 hpos), rfl⟩, fun hpos => ?_⟩
    exact if_pos (Int64.not_lt.1 hpos)

/-- **A draft is checked demand by demand.** -/
theorem Draft.complete_checks (d : Draft) : Checks d.Effective d.complete
    (Demand.inOrder.map fun demand => (demand.Met d, demand.fault)) := by
  refine d.target.complete_checks.bind fun target htarget => ?_
  refine d.relay.complete_checks.bind fun relay hrelay => ?_
  refine d.deadLetter.complete_checks.bind fun deadLetter hletter => ?_
  refine ⟨_, rfl, htarget, ?_, rfl, rfl, ?_, rfl⟩
  · rw [hrelay]
    rfl
  · rw [hletter, DeadLetterDraft.fill]
    cases d.deadLetter.maxEntries <;> simp

/-! ## Acceptance -/

/-- A draft that does not meet all demands has a first one unmet. -/
theorem Demand.exists_firstUnmet {d : Draft} (h : ¬ ∀ demand : Demand, demand.Met d) :
    ∃ demand : Demand, demand.FirstUnmet d := by
  have hfirst : ∀ demands : List Demand, (∀ demand ∈ demands, demand.Met d) ∨
      ∃ before demand after, demands = before ++ demand :: after ∧ ¬ demand.Met d ∧
        ∀ b ∈ before, b.Met d := by
    intro demands
    induction demands with
    | nil => exact .inl nofun
    | cons demand demands ih =>
      by_cases hmet : demand.Met d
      · rcases ih with hall | ⟨before, unmet, after, rfl, hunmet, hbefore⟩
        · exact .inl (List.forall_mem_cons.2 ⟨hmet, hall⟩)
        · exact .inr ⟨demand :: before, unmet, after, rfl, hunmet,
            List.forall_mem_cons.2 ⟨hmet, hbefore⟩⟩
      · exact .inr ⟨[], demand, demands, rfl, hmet, nofun⟩
  rcases hfirst inOrder with hall | ⟨before, demand, after, horder, hunmet, hbefore⟩
  · refine absurd (fun demand => hall demand ?_) h
    cases demand <;> decide
  · exact ⟨demand, hunmet, before, after, horder, hbefore⟩

variable {d : Draft}

theorem Draft.met_of_complete {settings : Settings} (h : d.complete = .ok settings) :
    d.Effective settings ∧ ∀ demand : Demand, demand.Met d := by
  obtain ⟨heffective, hall⟩ := d.complete_checks.all_of_ok h
  refine ⟨heffective, fun demand => hall _ (List.mem_map_of_mem ?_)⟩
  cases demand <;> decide

theorem Draft.complete_of_met (h : ∀ demand : Demand, demand.Met d) :
    ∃ settings, d.complete = .ok settings ∧ d.Effective settings := by
  refine d.complete_checks.ok_of_all fun c hc => ?_
  obtain ⟨demand, -, rfl⟩ := List.mem_map.1 hc
  exact h demand

theorem Draft.complete_of_firstUnmet {demand : Demand} (h : demand.FirstUnmet d) :
    d.complete = .error demand.fault := by
  obtain ⟨hunmet, before, after, horder, hbefore⟩ := h
  have hchecks := d.complete_checks
  rw [horder, List.map_append, List.map_cons] at hchecks
  refine hchecks.error_of_first (fun c hc => ?_) hunmet
  obtain ⟨b, hb, rfl⟩ := List.mem_map.1 hc
  exact hbefore b hb

/-- **Exactly the drafts that meet all demands are accepted**, with the effective value of
everything. Any other draft has the fault of the first demand that it does not meet, whatever else
it holds. -/
theorem complete_iff_demands (d : Draft) :
    ((∃ settings, d.complete = .ok settings) ↔ ∀ demand : Demand, demand.Met d) ∧
      (∀ settings, d.complete = .ok settings ↔
        (∀ demand : Demand, demand.Met d) ∧ d.Effective settings) ∧
      ∀ fault, d.complete = .error fault ↔
        ∃ demand : Demand, demand.FirstUnmet d ∧ fault = demand.fault := by
  have hok : ∀ settings, d.complete = .ok settings ↔
      (∀ demand : Demand, demand.Met d) ∧ d.Effective settings := by
    refine fun settings => ⟨fun h => (Draft.met_of_complete h).symm, fun ⟨hall, heffective⟩ => ?_⟩
    obtain ⟨settings', h, heffective'⟩ := Draft.complete_of_met hall
    rw [h, heffective'.unique heffective]
  refine ⟨⟨fun ⟨settings, h⟩ => ((hok settings).1 h).1, fun hall => ?_⟩, hok,
    fun fault => ⟨fun herror => ?_, ?_⟩⟩
  · obtain ⟨settings, h, -⟩ := Draft.complete_of_met hall
    exact ⟨settings, h⟩
  · have hunmet : ¬ ∀ demand : Demand, demand.Met d := by
      intro hall
      obtain ⟨settings, h, -⟩ := Draft.complete_of_met hall
      cases h.symm.trans herror
    obtain ⟨demand, hfirst⟩ := Demand.exists_firstUnmet hunmet
    cases (Draft.complete_of_firstUnmet hfirst).symm.trans herror
    exact ⟨demand, hfirst, rfl⟩
  · rintro ⟨demand, hfirst, rfl⟩
    exact Draft.complete_of_firstUnmet hfirst

end RowRelay.Setup
