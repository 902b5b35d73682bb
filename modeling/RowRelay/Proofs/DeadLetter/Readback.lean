import RowRelay.Proofs.DeadLetter.History

/-!
# Reading back what was recorded

The bytes that are stored for a letter spell it, whatever its texts and its time are. So no letter
that was recorded is ever passed over as unreadable. This holds of stores with any contents, also
with entries that are no letters, and whatever is done with them: `After` gives the stores that come
of one, and a store is followed through `After.mem`, which tells its entries apart, and
`After.faults`, by which no fault is ever added to those that were there before.

* `recorded_letters_read_back`: all of this in one statement.
-/

set_option autoImplicit false

namespace RowRelay.Store

/-! ## What comes of a store -/

/-- The store comes of `s₀` by recording the letters, in this order, by loading at any times, and by
opening it again with whatever limits. -/
inductive After (s₀ : Store) : List DeadLetter → Store → Prop
  | same : After s₀ [] s₀
  | record {ls : List DeadLetter} {s : Store} :
      After s₀ ls s → ∀ l, After s₀ (ls ++ [l]) (s.record l)
  | load {ls : List DeadLetter} {s : Store} : After s₀ ls s → ∀ now, After s₀ ls (s.load now).2.2
  | reopen {ls : List DeadLetter} {s : Store} :
      After s₀ ls s → ∀ limits, After s₀ ls (s.reopen limits)

variable {s₀ s : Store} {ls : List DeadLetter}

theorem After.mem (h : After s₀ ls s) {e : Bytes × Bytes} (he : e ∈ s.table.entries) :
    e ∈ s₀.table.entries ∨ ∃ l ∈ ls, ∃ n, e = entry (l, n) := by
  induction h with
  | same => exact .inl he
  | record _ l ih =>
    rcases mem_record he with rfl | he
    · exact .inr ⟨l, List.mem_append_right _ (List.mem_singleton_self l), _, rfl⟩
    · exact (ih he).imp_right fun ⟨m, hm, hn⟩ => ⟨m, List.mem_append_left _ hm, hn⟩
  | @load _ s _ now ih => exact ih ((mem_purge_iff s).1 he).1
  | reopen _ _ ih => exact ih he

/-! ## Faults -/

/-- What is wrong with bytes that spell no letter. -/
def fault? (value : Bytes) : Option Json.Fault :=
  match DeadLetter.decode value with
  | .ok _ => none
  | .error fault => some fault

/-- The faults of the entries that spell no letter, in the order of the keys. -/
def faults (s : Store) : List Json.Fault :=
  s.table.entries.filterMap fun e => fault? e.2

theorem fault?_encode (l : DeadLetter) : fault? l.encode = none := by
  rw [fault?, DeadLetter.decode_encode]

/-- A letter that is recorded brings no fault, whatever entries it replaces or drops. -/
theorem faults_record (s : Store) (l : DeadLetter) : (s.record l).faults.Sublist s.faults := by
  obtain ⟨before, replaced, after, hes, hput, -⟩ :=
    Table.putIn_split (key l.failedAt s.next) l.encode s.table.entries
  rw [faults, faults, record_entries, hput, hes]
  refine ((DeadLetter.lastOf_sublist _ _).filterMap _).trans ?_
  simp only [List.filterMap_append, List.filterMap_cons, fault?_encode]
  exact (List.sublist_append_left _ _).append_right _

theorem faults_purge (s : Store) (now : Int64) : (s.purge now).faults.Sublist s.faults := by
  rw [faults, purge_entries]
  exact List.filter_sublist.filterMap _

/-- **No fault is ever added** to those that were there before. -/
theorem After.faults (h : After s₀ ls s) : s.faults.Sublist s₀.faults := by
  induction h with
  | same => exact List.Sublist.refl _
  | record _ l ih => exact (faults_record _ l).trans ih
  | load _ now ih => exact (faults_purge _ now).trans ih
  | reopen _ _ ih => exact ih

/-! ## What is handed out -/

theorem load_letters (s : Store) (now : Int64) :
    (s.load now).1 = ((s.load now).2.2.table.entries.map (·.2)).filterMap
      fun value => (DeadLetter.decode value).toOption := by
  simp only [load, contents, List.filterMap_map]
  rfl

theorem load_faults (s : Store) (now : Int64) : (s.load now).2.1 = (s.load now).2.2.faults := by
  simp only [load, contents, List.filterMap_map]
  rfl

theorem filterMap_decode_encode (letters : List DeadLetter) :
    (letters.map DeadLetter.encode).filterMap (fun value => (DeadLetter.decode value).toOption) =
      letters := by
  rw [List.filterMap_map]
  refine (List.filterMap_congr fun l _ => ?_).trans List.filterMap_some
  exact congrArg Except.toOption l.decode_encode

theorem load_of_mem {l : DeadLetter} {n : Nat} {now : Int64}
    (h : entry (l, n) ∈ s.table.entries) (hfresh : ¬ s.limits.HasExpired now (key l.failedAt n)) :
    l ∈ (s.load now).1 := by
  have hleft : entry (l, n) ∈ (s.load now).2.2.table.entries := (mem_purge_iff s).2 ⟨h, hfresh⟩
  rw [load_letters]
  refine List.mem_filterMap.2 ⟨l.encode, List.mem_map_of_mem hleft, ?_⟩
  exact congrArg Except.toOption l.decode_encode

/-! ## Letters recorded since -/

/-- A letter that is recorded gives way at once to as many others as are allowed, all of greater
keys. -/
def GivesWay (s : Store) (l : DeadLetter) : Prop :=
  ∃ most, s.limits.maxEntries = some most ∧ (s.record l).size = most.toNat ∧
    ∀ e ∈ (s.record l).table.entries, key l.failedAt s.next < e.1

/-- What a store that comes of `s₀` makes of the letters recorded since. -/
structure ReadsBack (s₀ : Store) (ls : List DeadLetter) (s : Store) : Prop where
  /-- An entry that was not there before is that of a letter recorded since, and spells it. -/
  spelled : ∀ e ∈ s.table.entries, e ∈ s₀.table.entries ∨
    ∃ l ∈ ls, (∃ n, e = entry (l, n)) ∧ DeadLetter.decode e.2 = .ok l
  /-- A letter recorded next is handed out, unless it gives way or has expired. -/
  next : ∀ l now, ¬ s.GivesWay l → ¬ s.limits.HasExpired now (key l.failedAt s.next) →
    l ∈ ((s.record l).load now).1
  /-- Letters whose bytes are left by a load are handed out, as often and in the same order. -/
  handedOut : ∀ now (letters : List DeadLetter),
    (letters.map DeadLetter.encode).Sublist ((s.load now).2.2.table.entries.map (·.2)) →
      letters.Sublist (s.load now).1
  /-- Only what was there before is passed over as unreadable. -/
  passedOver : ∀ now, (s.load now).2.1.Sublist s₀.faults
  /-- If nothing was there before, nothing is passed over, and the letters handed out are what is
  left, byte for byte. -/
  whole : s₀.table.entries = [] → ∀ now, (s.load now).2.1 = [] ∧
    (s.load now).1.map DeadLetter.encode = (s.load now).2.2.table.entries.map (·.2)

theorem record_handed_out {l : DeadLetter} {now : Int64} (hstays : ¬ s.GivesWay l)
    (hfresh : ¬ s.limits.HasExpired now (key l.failedAt s.next)) :
    l ∈ ((s.record l).load now).1 := by
  have hfresh' : ¬ (s.record l).limits.HasExpired now (key l.failedAt s.next) := by
    rwa [record_limits]
  have hsize : ∀ most, (s.record l).limits.maxEntries = some most →
      (s.record l).size ≤ most.toNat := by
    rw [record_limits]
    exact fun _ hmost => size_record_le hmost l
  rcases (s.record_holds l).mem_or_all hsize with hmem | hgone
  · exact load_of_mem hmem hfresh'
  · rw [record_limits] at hgone
    exact absurd hgone hstays

/-- What was recorded upon an empty table is handed out byte for byte. -/
theorem After.letters_eq (h : After s₀ ls s) (hempty : s₀.table.entries = []) (now : Int64) :
    (s.load now).1.map DeadLetter.encode = (s.load now).2.2.table.entries.map (·.2) := by
  have hletter : ∀ value ∈ (s.load now).2.2.table.entries.map (·.2),
      (DeadLetter.decode value).toOption.map DeadLetter.encode = some value := by
    intro value hvalue
    obtain ⟨e, he, rfl⟩ := List.mem_map.1 hvalue
    rcases (h.load now).mem he with hold | ⟨l, -, n, rfl⟩
    · rw [hempty] at hold
      cases hold
    · rw [entry, l.decode_encode]
      rfl
  rw [load_letters, List.map_filterMap]
  exact (List.filterMap_congr hletter).trans List.filterMap_some

/-- **What is stored for a letter reads back as this letter**, and whatever becomes of the store, no
letter that was recorded is passed over. -/
theorem recorded_letters_read_back :
    (∀ l : DeadLetter, DeadLetter.decode l.encode = .ok l) ∧
      ∀ {s₀ s : Store} {ls : List DeadLetter}, After s₀ ls s → ReadsBack s₀ ls s := by
  refine ⟨DeadLetter.decode_encode, fun {s₀ s ls} h => ?_⟩
  have hfaults : ∀ now, (s.load now).2.1.Sublist s₀.faults := fun now => by
    rw [load_faults]
    exact (h.load now).faults
  refine ⟨fun e he => ?_, fun _ _ => record_handed_out, fun now letters hleft => ?_, hfaults,
    fun hempty now => ⟨?_, h.letters_eq hempty now⟩⟩
  · refine (h.mem he).imp_right fun ⟨l, hl, n, hn⟩ => ⟨l, hl, ⟨n, hn⟩, ?_⟩
    rw [hn]
    exact l.decode_encode
  · have hread := hleft.filterMap fun value => (DeadLetter.decode value).toOption
    rwa [filterMap_decode_encode, ← load_letters] at hread
  · have hnone : s₀.faults = [] := by rw [faults, hempty, List.filterMap_nil]
    exact List.sublist_nil.1 (hnone ▸ hfaults now)

/-! ## A sample -/

/-- A letter with a quote, a backslash, control characters and a character of four bytes, of the
earliest time there is. -/
def hardLetter : DeadLetter :=
  ⟨"\"", "\\", "\x00\x1f\x7f", "😀\n", Int64.minValue⟩

/-- A store with an entry that is no letter, under a key that holds no time. -/
def foreignStore : Store :=
  ⟨⟨[([0], Bytes.ofAscii "hi")], List.pairwise_singleton _ _⟩, {}, 0, 0⟩

/-- The letter is handed out behind the entry that is none, which has the only fault. -/
theorem recorded_letters_read_back_sample :
    let s := (foreignStore.record hardLetter).reopen ⟨none, some 2⟩
    After foreignStore [hardLetter] s ∧ DeadLetter.decode hardLetter.encode = .ok hardLetter ∧
      [hardLetter].Sublist (s.load 0).1 ∧ (s.load 0).2.1.Sublist foreignStore.faults ∧
      foreignStore.faults.length = 1 := by
  intro s
  have hafter : After foreignStore [hardLetter] s := (After.same.record hardLetter).reopen _
  have hread := recorded_letters_read_back.2 hafter
  have hleft : ([hardLetter].map DeadLetter.encode).Sublist
      ((s.load 0).2.2.table.entries.map (·.2)) := by decide +kernel
  exact ⟨hafter, recorded_letters_read_back.1 hardLetter, hread.handedOut 0 _ hleft,
    hread.passedOver 0, by decide +kernel⟩

end RowRelay.Store
