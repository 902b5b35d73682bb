import RowRelay.Proofs.DeadLetter.Store

/-!
# Loading whatever a store holds

Keys and values may be any bytes. A key begins with a time if it has eight bytes or more, and
expires with it (`Limits.HasExpired`); a shorter key never does. Loading removes the entries whose
keys have expired and leaves all others as they are (`mem_purge_iff`), also those that are no
letters. What has expired at one time has expired at all later ones, and so a load does not matter
to a later one (`purge_purge`).

* `load_removes_expired`: all that a load does.
-/

set_option autoImplicit false

namespace RowRelay

/-! ## Keys that have expired -/

/-- A key begins with a time that lies by more than the time to live before the clock. Both steps
of the reckoning stay within 64 bits. -/
def Limits.HasExpired (limits : Limits) (now : Int64) (key : Bytes) : Prop :=
  ∃ ttl, limits.ttlSecs = some ttl ∧ 8 ≤ key.length ∧
    Bytes.signed (key.take 8) < clamp64 (now.toInt - clamp64 (1000 * ttl.toInt))

instance (limits : Limits) (now : Int64) (key : Bytes) : Decidable (limits.HasExpired now key) :=
  inferInstanceAs (Decidable (∃ ttl ∈ limits.ttlSecs, 8 ≤ key.length ∧
    Bytes.signed (key.take 8) < clamp64 (now.toInt - clamp64 (1000 * ttl.toInt))))

theorem clamp64_mono {m n : Int} (h : m ≤ n) : clamp64 m ≤ clamp64 n := by
  unfold clamp64
  omega

theorem Limits.HasExpired.later {limits : Limits} {now later : Int64} {key : Bytes}
    (h : limits.HasExpired now key) (hle : now ≤ later) : limits.HasExpired later key := by
  obtain ⟨ttl, httl, hlength, htime⟩ := h
  refine ⟨ttl, httl, hlength, Int.lt_of_lt_of_le htime (clamp64_mono ?_)⟩
  exact Int.sub_le_sub_right (Int64.le_iff_toInt_le.1 hle) _

namespace Store

theorem isExpired_iff (expiry : Int) (key : Bytes) :
    isExpired expiry key = true ↔ 8 ≤ key.length ∧ Bytes.signed (key.take 8) < expiry := by
  rw [isExpired, Bytes.word?_eq]
  by_cases hlength : 8 ≤ key.length
  · rw [if_pos hlength]
    simp only [Bytes.toInt_word (List.length_take_of_le hlength), decide_eq_true_eq, hlength,
      true_and]
  · rw [if_neg hlength]
    exact iff_of_false (fun h => nomatch h) fun h => hlength h.1

theorem signed_key (t : Int64) (n : Nat) : Bytes.signed ((key t n).take 8) = t.toInt := by
  rw [key, List.take_left' (Bytes.ofWord_length _), Bytes.signed_ofWord, Int64.toInt64_toUInt64]

variable (s : Store) {now later : Int64}

theorem purge_entries (now : Int64) : (s.purge now).table.entries =
    s.table.entries.filter fun e => ¬ s.limits.HasExpired now e.1 := by
  unfold purge Limits.expiry?
  cases httl : s.limits.ttlSecs with
  | none =>
    have hnone : ∀ key, ¬ s.limits.HasExpired now key := by simp [Limits.HasExpired, httl]
    exact (List.filter_eq_self.2 fun e _ => decide_eq_true (hnone e.1)).symm
  | some ttl =>
    refine List.filter_congr fun e _ => ?_
    have hiff : s.limits.HasExpired now e.1 ↔
        isExpired (clamp64 (now.toInt - clamp64 (ttl.toInt * 1000))) e.1 = true := by
      simp [Limits.HasExpired, httl, isExpired_iff, Int.mul_comm]
    simp [hiff]

/-- **Purging removes exactly the entries whose keys have expired.** -/
theorem mem_purge_iff {e : Bytes × Bytes} : e ∈ (s.purge now).table.entries ↔
    e ∈ s.table.entries ∧ ¬ s.limits.HasExpired now e.1 := by
  rw [purge_entries, List.mem_filter, decide_eq_true_iff]

/-- **Purging before does not matter** to purging at a later time. -/
theorem purge_purge (hle : now ≤ later) : (s.purge now).purge later = s.purge later := by
  have htable : ((s.purge now).purge later).table = (s.purge later).table := by
    refine Table.ext_mem fun e => ?_
    rw [mem_purge_iff, mem_purge_iff, mem_purge_iff, purge_limits, and_assoc]
    refine and_congr_right fun _ => and_iff_right_of_imp fun hfresh hexpired => ?_
    exact hfresh (hexpired.later hle)
  have hlimits : ((s.purge now).purge later).limits = (s.purge later).limits := by simp
  have hnext : ((s.purge now).purge later).next = (s.purge later).next := by simp
  have hrecorded : ((s.purge now).purge later).recorded = (s.purge later).recorded := by simp
  cases hs : (s.purge now).purge later
  cases hs' : s.purge later
  simp_all

/-! ## Loading -/

/-- What a load does to a store at a time. -/
structure Loads (s : Store) (now : Int64) : Prop where
  /-- Exactly the entries whose keys have expired are removed, all others stay byte for byte. -/
  entries : ∀ e, e ∈ (s.load now).2.2.table.entries ↔
    e ∈ s.table.entries ∧ ¬ s.limits.HasExpired now e.1
  /-- The entries stay in the order of their keys. -/
  ascending : (s.load now).2.2.table.entries.Pairwise (fun a b => a.1 < b.1)
  /-- Nothing else of the store changes. -/
  limits : (s.load now).2.2.limits = s.limits
  next : (s.load now).2.2.next = s.next
  recorded : (s.load now).2.2.recorded = s.recorded
  /-- The letters are those that the entries left spell, in the order of the keys. -/
  letters : (s.load now).1 =
    (s.load now).2.2.table.entries.filterMap fun e => (DeadLetter.decode e.2).toOption
  /-- Each entry left that spells no letter has one fault. -/
  faults : (s.load now).2.1.length =
    (s.load now).2.2.table.entries.countP fun e => (DeadLetter.decode e.2).toOption.isNone
  /-- A second load at the same time hands out the same and changes nothing. -/
  again : (s.load now).2.2.load now = s.load now
  /-- A load does not matter to a later one. -/
  later : ∀ later, now ≤ later → (s.load now).2.2.load later = s.load later

theorem load_congr {s s' : Store} (h : s.purge now = s'.purge now) : s.load now = s'.load now := by
  simp only [load, h]

/-- **A load removes exactly what has expired**, whatever the store holds, and hands out the letters
that are left. -/
theorem load_removes_expired (now : Int64) : Loads s now where
  entries _ := mem_purge_iff s
  ascending := (s.purge now).table.ascending
  limits := purge_limits s now
  next := purge_next s now
  recorded := purge_recorded s now
  letters := by
    simp only [load, contents, List.filterMap_map]
    rfl
  faults := by
    simp only [load, contents, List.length_filterMap_eq_countP, List.countP_map]
    refine List.countP_congr fun e _ => ?_
    cases h : DeadLetter.decode e.2 <;> simp [h, Except.toOption]
  again := load_congr (purge_purge s (Int64.le_refl now))
  later _ hle := load_congr (purge_purge s hle)

end Store

end RowRelay
