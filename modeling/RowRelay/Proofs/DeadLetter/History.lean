import Mathlib.Data.List.Induction
import RowRelay.Proofs.DeadLetter.Letter
import RowRelay.Proofs.DeadLetter.Loading
import RowRelay.Proofs.DeadLetter.Newest

/-!
# Histories of a store

Letters are recorded and loaded, and the store is closed and opened again, in any order. What lies
in the table depends on when letters were loaded, as only loading removes what has expired; what is
handed out does not. `Reflects` is the invariant: the letters in the table and the newest letters
are the same as far as they have not expired at the last load.

* `load_newest_unexpired`: every load hands out the newest letters that have not expired.
-/

set_option autoImplicit false

namespace RowRelay.Store

open DeadLetter (Ordered insertByTime lastOf newest map_lastOf)

/-! ## Keys of letters since 1970 -/

theorem toUInt64_lt_iff {t t' : Int64} (h : 0 ≤ t) (h' : 0 ≤ t') :
    t.toUInt64 < t'.toUInt64 ↔ t < t' := by
  rw [UInt64.lt_iff_toNat_lt, Int64.toNat_toUInt64_of_le h, Int64.toNat_toUInt64_of_le h',
    Int64.lt_iff_toInt_lt]
  rw [Int64.le_iff_toInt_le, Int64.toInt_zero] at h h'
  rw [← Int64.toNat_toInt, ← Int64.toNat_toInt]
  omega

/-- Keys are ordered by the word of the time, then by number. -/
theorem key_lt_iff_word {t t' : Int64} {n n' : Nat} (hn : n < UInt64.size)
    (hn' : n' < UInt64.size) :
    key t n < key t' n' ↔ t.toUInt64 < t'.toUInt64 ∨ t = t' ∧ n < n' := by
  have hnumber : Bytes.ofWord n.toUInt64 < Bytes.ofWord n'.toUInt64 ↔ n < n' := by
    rw [Bytes.lt_iff_value (by simp), Bytes.value_ofWord, Bytes.value_ofWord]
    rw [UInt64.size] at hn hn'
    simp [Nat.mod_eq_of_lt hn, Nat.mod_eq_of_lt hn']
  rw [key, key, Bytes.ofWord_append_lt, hnumber]
  exact or_congr_right (and_congr_left' ⟨fun heq => by simpa using congrArg UInt64.toInt64 heq,
    congrArg Int64.toUInt64⟩)

/-- **Keys are ordered by time, then by number.** -/
theorem key_lt_iff {t t' : Int64} {n n' : Nat} (h : 0 ≤ t) (h' : 0 ≤ t')
    (hn : n < UInt64.size) (hn' : n' < UInt64.size) :
    key t n < key t' n' ↔ t < t' ∨ t = t' ∧ n < n' := by
  rw [key_lt_iff_word hn hn', toUInt64_lt_iff h h']

/-- Whether a key has expired is what exact arithmetic says. -/
theorem hasExpired_key {limits : Limits} {now : Int64} {l : DeadLetter} (n : Nat)
    (hl : 0 ≤ l.failedAt) (hnow : 0 ≤ now)
    (httl : ∀ ttl, limits.ttlSecs = some ttl → 0 < ttl) :
    limits.HasExpired now (key l.failedAt n) ↔ limits.keeps now l = false := by
  have hlength : 8 ≤ (key l.failedAt n).length := by simp [key]
  rw [Limits.HasExpired, Limits.keeps]
  cases hlimits : limits.ttlSecs with
  | none => simp
  | some ttl =>
    have hpos := httl ttl hlimits
    have hmax := now.toInt_lt
    rw [Int64.le_iff_toInt_le, Int64.toInt_zero] at hl hnow
    rw [Int64.lt_iff_toInt_lt, Int64.toInt_zero] at hpos
    simp only [Option.some.injEq, exists_eq_left', signed_key, hlength, true_and, clamp64,
      Int64.toInt_minValue, Int64.toInt_maxValue, decide_eq_false_iff_not]
    omega

/-! ## Acts -/

inductive Act where
  | record (l : DeadLetter)
  | load (now : Int64)
  /-- The store is closed and opened again with the same limits. -/
  | reopen

namespace Act

def letter? : Act → Option DeadLetter
  | .record l => some l
  | _ => none

def time? : Act → Option Int64
  | .load now => some now
  | _ => none

end Act

def act (s : Store) : Act → Store
  | .record l => s.record l
  | .load now => (s.load now).2.2
  | .reopen => s.reopen s.limits

def actAll (acts : List Act) (s : Store) : Store :=
  acts.foldl act s

/-- The letters that were recorded, in their order. -/
def recordedIn (acts : List Act) : List DeadLetter :=
  acts.filterMap Act.letter?

/-- The letters are of 1970 or later, and so is the clock, which does not go back; it shows `now`
in the end. -/
structure Orderly (acts : List Act) (now : Int64) : Prop where
  times : ∀ l ∈ recordedIn acts, 0 ≤ l.failedAt
  clock : (0 :: acts.filterMap Act.time? ++ [now]).Pairwise (· ≤ ·)

theorem actAll_concat (acts : List Act) (a : Act) (s : Store) :
    actAll (acts ++ [a]) s = (actAll acts s).act a :=
  List.foldl_concat ..

theorem recordedIn_concat (acts : List Act) (a : Act) :
    recordedIn (acts ++ [a]) = recordedIn acts ++ a.letter?.toList := by
  rw [recordedIn, List.filterMap_append]
  cases h : a.letter? <;> simp [recordedIn, h]

/-! ## Numbers -/

/-- Numbering is never so far ahead of the number on record that opening the store again takes it
back. -/
theorem act_next_le {s : Store} (h : s.next ≤ resumeAt s.recorded) (a : Act) :
    s.next ≤ (s.act a).next ∧ (s.act a).next ≤ resumeAt (s.act a).recorded := by
  cases a with
  | record l =>
    simp only [act, record_next, record_recorded]
    unfold resumeAt recordNumber numberStep at *
    omega
  | load now => simpa [act, load] using h
  | reopen => exact ⟨h, Nat.le_refl _⟩

theorem next_le_resumeAt (acts : List Act) (limits : Limits) :
    (actAll acts (create limits)).next ≤ resumeAt (actAll acts (create limits)).recorded := by
  induction acts using List.reverseRecOn with
  | nil => exact Nat.zero_le _
  | append_singleton acts a ih =>
    rw [actAll_concat]
    exact (act_next_le ih a).2

/-! ## The invariant -/

/-- The entry of a letter under its number. -/
def entry (x : DeadLetter × Nat) : Bytes × Bytes :=
  (key x.1.failedAt x.2, x.1.encode)

/-- The table holds the letters `kept` under numbers given before. As far as they have not expired
since a load, they are the newest of the letters recorded. -/
structure Reflects (limits : Limits) (letters : List DeadLetter) (since : Int64) (s : Store)
    (kept : List (DeadLetter × Nat)) : Prop where
  limits_eq : s.limits = limits
  entries : s.table.entries = kept.map entry
  numbers : ∀ x ∈ kept, x.2 < s.next
  times : ∀ x ∈ kept, 0 ≤ x.1.failedAt
  agrees : ∀ now, since ≤ now → (kept.map (·.1)).filter (limits.keeps now) =
    (newest limits letters).filter (limits.keeps now)

section
variable {limits : Limits} {letters : List DeadLetter} {since now : Int64} {s : Store}
  {kept : List (DeadLetter × Nat)}

theorem reflects_create (limits : Limits) (since : Int64) :
    Reflects limits [] since (create limits) [] where
  limits_eq := rfl
  entries := rfl
  numbers := by simp
  times := by simp
  agrees now _ := by
    rw [DeadLetter.newest_nil]
    rfl

theorem Reflects.ordered (h : Reflects limits letters since s kept)
    (hfit : s.next ≤ UInt64.size) : Ordered (kept.map (·.1)) := by
  have hkeys := s.table.ascending
  rw [h.entries, List.pairwise_map] at hkeys
  refine List.pairwise_map.2 (hkeys.imp_of_mem fun {x y} hx hy hlt => ?_)
  have hx' := h.numbers x hx
  have hy' := h.numbers y hy
  rcases (key_lt_iff (h.times x hx) (h.times y hy) (by omega) (by omega)).1 hlt with hlt | ⟨heq, -⟩
  · exact Int64.le_of_lt hlt
  · exact Int64.le_of_eq heq

/-- A letter under a number not given before is put behind all letters that do not come after it,
in the order `r` that the words of their times have. -/
theorem putIn_entry {r : DeadLetter → DeadLetter → Prop} [DecidableRel r] {l : DeadLetter} {n : Nat}
    (hn : n < UInt64.size) (hkept : ∀ x ∈ kept,
      x.2 < n ∧ (l.failedAt.toUInt64 < x.1.failedAt.toUInt64 ↔ r l x.1)) :
    Table.putIn (key l.failedAt n) l.encode (kept.map entry) =
      (kept.orderedInsert (fun a b => r a.1 b.1) (l, n)).map entry := by
  induction kept with
  | nil => rfl
  | cons x kept ih =>
    obtain ⟨hnumber, hr⟩ := hkept x List.mem_cons_self
    have hlt : key l.failedAt n < key x.1.failedAt x.2 ↔ r l x.1 := by
      rw [key_lt_iff_word hn (by omega), ← hr]
      exact or_iff_left fun h => by omega
    have hne : key l.failedAt n ≠ key x.1.failedAt x.2 := fun h =>
      toUInt64_ne hnumber (by omega) (key_inj h).2.symm
    rw [List.map_cons, List.orderedInsert_cons]
    simp only [Table.putIn, entry, hlt, hne, if_false]
    split
    · rfl
    · rw [List.map_cons, ← ih fun y hy => hkept y (List.mem_cons_of_mem _ hy)]
      rfl

theorem trim_entries (s : Store) :
    s.trim.table.entries = lastOf s.limits.maxEntries s.table.entries := by
  unfold trim lastOf
  cases s.limits.maxEntries <;> rfl

theorem record_entries (s : Store) (l : DeadLetter) : (s.record l).table.entries =
    lastOf s.limits.maxEntries (Table.putIn (key l.failedAt s.next) l.encode s.table.entries) :=
  trim_entries _

theorem mem_record {s : Store} {l : DeadLetter} {e : Bytes × Bytes}
    (he : e ∈ (s.record l).table.entries) : e = entry (l, s.next) ∨ e ∈ s.table.entries := by
  rw [record_entries] at he
  exact Table.mem_putIn (DeadLetter.mem_of_lastOf he)

/-- What has not expired of the last letters hangs on what has not expired before. -/
theorem filter_lastOf_insertByTime (l : DeadLetter) {ls ms : List DeadLetter} (hls : Ordered ls)
    (hms : Ordered ms) (h : ls.filter (limits.keeps now) = ms.filter (limits.keeps now))
    (most : Option UInt64) :
    (lastOf most (insertByTime l ls)).filter (limits.keeps now) =
      (lastOf most (insertByTime l ms)).filter (limits.keeps now) := by
  rw [DeadLetter.filter_lastOf Limits.keeps_of_le (DeadLetter.insertByTime_ordered hls l),
    DeadLetter.filter_lastOf Limits.keeps_of_le (DeadLetter.insertByTime_ordered hms l),
    DeadLetter.filter_insertByTime Limits.keeps_of_le,
    DeadLetter.filter_insertByTime Limits.keeps_of_le, h]

theorem Reflects.record (h : Reflects limits letters since s kept) {l : DeadLetter}
    (hl : 0 ≤ l.failedAt) (hfit : s.next < UInt64.size) :
    ∃ kept', Reflects limits (letters ++ [l]) since (s.record l) kept' := by
  have hentries : (s.record l).table.entries = (lastOf limits.maxEntries
      (kept.orderedInsert (fun a b => a.1.failedAt < b.1.failedAt) (l, s.next))).map entry := by
    rw [record_entries, map_lastOf,
      ← putIn_entry (r := fun a b => a.failedAt < b.failedAt) hfit
        fun x hx => ⟨h.numbers x hx, toUInt64_lt_iff hl (h.times x hx)⟩, ← h.entries, h.limits_eq]
  have hmem : ∀ x ∈ lastOf limits.maxEntries
      (kept.orderedInsert (fun a b => a.1.failedAt < b.1.failedAt) (l, s.next)),
      x = (l, s.next) ∨ x ∈ kept :=
    fun x hx => (List.mem_orderedInsert _).1 (DeadLetter.mem_of_lastOf hx)
  refine ⟨_, by rw [record_limits, h.limits_eq], hentries, fun x hx => ?_, fun x hx => ?_,
    fun now hnow => ?_⟩
  · rw [record_next]
    rcases hmem x hx with rfl | hx
    · exact Nat.lt_succ_self _
    · exact Nat.lt_succ_of_lt (h.numbers x hx)
  · rcases hmem x hx with rfl | hx
    · exact hl
    · exact h.times x hx
  · have hletters : (kept.orderedInsert (fun a b => a.1.failedAt < b.1.failedAt)
        (l, s.next)).map (·.1) = insertByTime l (kept.map (·.1)) :=
      List.map_orderedInsert _ _ _ _ _ (fun _ _ => Iff.rfl) fun _ _ => Iff.rfl
    rw [DeadLetter.map_lastOf, hletters, DeadLetter.newest_concat]
    exact filter_lastOf_insertByTime l (h.ordered hfit.le) (DeadLetter.newest_ordered _ _)
      (h.agrees now hnow) _

/-- Loading removes what has expired, and keeps the invariant from its time on. -/
theorem Reflects.purge (h : Reflects limits letters since s kept)
    (httl : ∀ ttl, limits.ttlSecs = some ttl → 0 < ttl) (hnow : 0 ≤ now) (hsince : since ≤ now) :
    Reflects limits letters now (s.purge now) (kept.filter fun x => limits.keeps now x.1) := by
  have hentries : (s.purge now).table.entries =
      (kept.filter fun x => limits.keeps now x.1).map entry := by
    rw [purge_entries, h.entries, h.limits_eq, List.filter_map]
    refine congrArg (List.map entry) (List.filter_congr fun x hx => ?_)
    simp [entry, hasExpired_key x.2 (h.times x hx) hnow httl]
  refine ⟨by rw [purge_limits, h.limits_eq], hentries, fun x hx => ?_, fun x hx => ?_,
    fun now' hnow' => ?_⟩
  · rw [purge_next]
    exact h.numbers x (List.mem_filter.1 hx).1
  · exact h.times x (List.mem_filter.1 hx).1
  · rw [← h.agrees now' (Int64.le_trans hsince hnow'), List.filter_map, List.filter_map,
      List.filter_filter]
    refine congrArg _ (List.filter_congr fun x _ => ?_)
    -- what has not expired at the later time has not at this one
    rw [Bool.and_eq_left_iff_imp]
    exact Limits.keeps_before hnow'

theorem Reflects.reopen (h : Reflects limits letters since s kept)
    (hnext : s.next ≤ resumeAt s.recorded) :
    Reflects limits letters since (s.reopen s.limits) kept where
  limits_eq := h.limits_eq
  entries := h.entries
  numbers x hx := Nat.lt_of_lt_of_le (h.numbers x hx) hnext
  times := h.times
  agrees := h.agrees

end

/-! ## Histories -/

section
variable {limits : Limits} {acts : List Act} {now : Int64}

theorem Orderly.now_nonneg (h : Orderly acts now) : 0 ≤ now :=
  (List.pairwise_append.1 h.clock).2.2 0 List.mem_cons_self now (List.mem_singleton_self _)

/-- What came before the last act was in order, at the time that the clock showed then. -/
theorem Orderly.before {a : Act} (h : Orderly (acts ++ [a]) now) :
    ∃ now', now' ≤ now ∧ Orderly acts now' ∧ ∀ t, a.time? = some t → t = now' := by
  obtain ⟨htimes, hclock⟩ := h
  have htimes' : ∀ l ∈ recordedIn acts, 0 ≤ l.failedAt := fun l hl => by
    refine htimes l ?_
    rw [recordedIn_concat]
    exact List.mem_append_left _ hl
  cases ht : a.time? with
  | none =>
    refine ⟨now, Int64.le_refl _, ⟨htimes', ?_⟩, by simp⟩
    simpa [List.filterMap_append, ht] using hclock
  | some t =>
    have hsplit : (0 :: acts.filterMap Act.time? ++ [t] ++ [now]).Pairwise (· ≤ ·) := by
      simpa [List.filterMap_append, ht] using hclock
    obtain ⟨hbefore, -, hle⟩ := List.pairwise_append.1 hsplit
    exact ⟨t, hle t (by simp) now (by simp), ⟨htimes', hbefore⟩, by simp⟩

/-- **Whatever the history, the invariant holds** from the last load on. -/
theorem reflects_actAll (httl : ∀ ttl, limits.ttlSecs = some ttl → 0 < ttl) (h : Orderly acts now)
    (hfit : (actAll acts (create limits)).next ≤ UInt64.size) :
    ∃ since kept, since ≤ now ∧
      Reflects limits (recordedIn acts) since (actAll acts (create limits)) kept := by
  induction acts using List.reverseRecOn generalizing now with
  | nil => exact ⟨now, [], Int64.le_refl _, reflects_create limits now⟩
  | append_singleton acts a ih =>
    obtain ⟨now', hle, h', ht⟩ := h.before
    have hnext := next_le_resumeAt acts limits
    rw [actAll_concat] at hfit ⊢
    obtain ⟨since, kept, hsince, hkept⟩ := ih h' (Nat.le_trans (act_next_le hnext a).1 hfit)
    rw [recordedIn_concat]
    cases a with
    | record l =>
      simp only [act, record_next] at hfit
      have hl : 0 ≤ l.failedAt := h.times l (by simp [recordedIn_concat, Act.letter?])
      obtain ⟨kept', hkept'⟩ := hkept.record hl hfit
      exact ⟨since, kept', Int64.le_trans hsince hle, hkept'⟩
    | load t =>
      obtain rfl := ht t rfl
      simp only [Act.letter?, Option.toList_none, List.append_nil]
      exact ⟨t, _, hle, hkept.purge httl h'.now_nonneg hsince⟩
    | reopen =>
      simp only [Act.letter?, Option.toList_none, List.append_nil]
      exact ⟨since, kept, Int64.le_trans hsince hle, hkept.reopen hnext⟩

/-- What a load at a time hands out and leaves behind, after these acts upon an empty store. -/
structure LoadsNewest (limits : Limits) (acts : List Act) (now : Int64) : Prop where
  letters_eq : ((actAll acts (create limits)).load now).1 =
    (newest limits (recordedIn acts)).filter (limits.keeps now)
  /-- Every entry is a letter. -/
  faults_eq : ((actAll acts (create limits)).load now).2.1 = []
  /-- All that is left in the store was handed out. -/
  size_eq : ((actAll acts (create limits)).load now).2.2.size =
    ((actAll acts (create limits)).load now).1.length
  size_record : ∀ most, limits.maxEntries = some most → ∀ l,
    ((actAll acts (create limits)).record l).size ≤ most.toNat
  /-- Only the letters recorded count, whenever others were loaded. -/
  unobservable : ∀ acts', recordedIn acts' = recordedIn acts → Orderly acts' now →
    (actAll acts' (create limits)).next ≤ UInt64.size →
    ((actAll acts' (create limits)).load now).1 = ((actAll acts (create limits)).load now).1

theorem contents_of_entries {s : Store} {kept : List (DeadLetter × Nat)}
    (h : s.table.entries = kept.map entry) :
    s.contents = (kept.map (·.1)).map .ok := by
  rw [contents, h, List.map_map, List.map_map]
  exact List.map_congr_left fun x _ => DeadLetter.decode_encode x.1

theorem Reflects.load {letters : List DeadLetter} {since : Int64} {s : Store}
    {kept : List (DeadLetter × Nat)} (h : Reflects limits letters since s kept)
    (httl : ∀ ttl, limits.ttlSecs = some ttl → 0 < ttl) (hnow : 0 ≤ now) (hsince : since ≤ now) :
    (s.load now).1 = (newest limits letters).filter (limits.keeps now) ∧ (s.load now).2.1 = [] ∧
      (s.load now).2.2.size = (s.load now).1.length := by
  have hpurge := h.purge httl hnow hsince
  have hcontents := contents_of_entries hpurge.entries
  have hletters : (s.load now).1 = (kept.filter fun x => limits.keeps now x.1).map (·.1) := by
    simp only [Store.load, hcontents, List.filterMap_map]
    exact congrFun (List.filterMap_eq_map (f := fun x : DeadLetter × Nat => x.1)) _
  refine ⟨?_, ?_, ?_⟩
  · rw [hletters, ← h.agrees now hsince, List.filter_map]
    rfl
  · simp [Store.load, hcontents]
  · rw [hletters, List.length_map, ← List.length_map entry, ← hpurge.entries]
    rfl

/-- **Every load hands out the newest letters that have not expired**, whatever was loaded
before. -/
theorem load_newest_unexpired (httl : ∀ ttl, limits.ttlSecs = some ttl → 0 < ttl)
    (h : Orderly acts now) (hfit : (actAll acts (create limits)).next ≤ UInt64.size) :
    LoadsNewest limits acts now := by
  have hload : ∀ {acts' : List Act}, Orderly acts' now →
      (actAll acts' (create limits)).next ≤ UInt64.size →
      ((actAll acts' (create limits)).load now).1 =
        (newest limits (recordedIn acts')).filter (limits.keeps now) := by
    intro acts' h' hfit'
    obtain ⟨since, kept, hsince, hkept⟩ := reflects_actAll httl h' hfit'
    exact (hkept.load httl h'.now_nonneg hsince).1
  obtain ⟨since, kept, hsince, hkept⟩ := reflects_actAll httl h hfit
  obtain ⟨hletters, hfaults, hsize⟩ := hkept.load httl h.now_nonneg hsince
  refine ⟨hletters, hfaults, hsize, fun most hmost l => ?_, fun acts' heq h' hfit' => ?_⟩
  · exact size_record_le ((congrArg Limits.maxEntries hkept.limits_eq).trans hmost) l
  · rw [hload h' hfit', heq, hletters]

/-- Three letters in a store for two, which is opened again between them. -/
theorem load_newest_unexpired_of_three :
    let limits : Limits := ⟨some 1, some 2⟩
    let acts := [.record ⟨"m1", "a1", "", "", 10⟩, .load 500, .reopen,
      .record ⟨"m2", "a2", "", "", 5⟩, .record ⟨"m3", "a3", "", "", 900⟩]
    Orderly acts 1500 ∧ (actAll acts (create limits)).next ≤ UInt64.size ∧
      LoadsNewest limits acts 1500 := by
  intro limits acts
  have horderly : Orderly acts 1500 := ⟨by decide, by decide⟩
  have hfit : (actAll acts (create limits)).next ≤ UInt64.size := by decide
  refine ⟨horderly, hfit, load_newest_unexpired (fun ttl httl => ?_) horderly hfit⟩
  obtain rfl : 1 = ttl := Option.some.inj httl
  decide

end

end RowRelay.Store
