import Mathlib.Data.List.Count
import RowRelay.Proofs.DeadLetter.KeyOrder
import RowRelay.Proofs.Setup.NumberSettings

/-!
# Letters just recorded

A letter not earlier than all others, recorded under settings that were accepted, is in the store
exactly if there are less letters before 1970 than letters allowed, as these come behind it in the
order of the keys; if letters are allowed at all and none is before 1970, a load at its time hands
it out last (`record_kept`). Settings that allow no letter are accepted too, and then what is
recorded is gone at once (`not_keepsNew`).
-/

set_option autoImplicit false

namespace RowRelay

open Setup (Draft)

namespace Store

variable {s : Store} {kept : List (DeadLetter × Nat)} {l : DeadLetter}

/-! ## What was written into a store -/

/-- The stores that come of recording and loading letters, and of opening them again with whatever
limits. -/
inductive Written : Store → Prop
  | create (limits : Limits) : Written (create limits)
  | record {s : Store} : Written s → ∀ l, Written (s.record l)
  | load {s : Store} : Written s → ∀ now, Written (s.load now).2.2
  | reopen {s : Store} : Written s → ∀ limits, Written (s.reopen limits)

/-- The letters in a store, in the order of their keys. -/
def stored (s : Store) : List DeadLetter :=
  s.contents.filterMap Except.toOption

/-- The table holds the letters `kept` under numbers given before. -/
structure Numbered (s : Store) (kept : List (DeadLetter × Nat)) : Prop where
  entries : s.table.entries = kept.map entry
  numbers : ∀ x ∈ kept, x.2 < s.next

theorem Numbered.stored (h : s.Numbered kept) : s.stored = kept.map (·.1) := by
  simp only [Store.stored, contents_of_entries h.entries, List.filterMap_map]
  exact congrFun (List.filterMap_eq_map (f := fun x : DeadLetter × Nat => x.1)) _

/-- Every entry is that of a letter under a number given before. -/
def AllNumbered (s : Store) : Prop :=
  ∀ e ∈ s.table.entries, ∃ x, e = entry x ∧ x.2 < s.next

theorem AllNumbered.numbered (h : s.AllNumbered) : ∃ kept, s.Numbered kept := by
  have hlist : ∀ es : List (Bytes × Bytes), (∀ e ∈ es, ∃ x, e = entry x ∧ x.2 < s.next) →
      ∃ kept : List (DeadLetter × Nat), es = kept.map entry ∧ ∀ x ∈ kept, x.2 < s.next := by
    intro es
    induction es with
    | nil => exact fun _ => ⟨[], rfl, by simp⟩
    | cons e es ih =>
      intro h
      obtain ⟨⟨x, rfl, hx⟩, hes⟩ := List.forall_mem_cons.1 h
      obtain ⟨kept, rfl, hkept⟩ := ih hes
      exact ⟨x :: kept, rfl, List.forall_mem_cons.2 ⟨hx, hkept⟩⟩
  obtain ⟨kept, hentries, hnumbers⟩ := hlist _ h
  exact ⟨kept, hentries, hnumbers⟩

theorem AllNumbered.record (h : s.AllNumbered) (l : DeadLetter) : (s.record l).AllNumbered := by
  intro e he
  rw [record_next]
  rcases mem_record he with rfl | he
  · exact ⟨(l, s.next), rfl, Nat.lt_succ_self _⟩
  · obtain ⟨x, hx, hnumber⟩ := h e he
    exact ⟨x, hx, Nat.lt_succ_of_lt hnumber⟩

/-- **Whatever was done**, the store holds letters under numbers that are not given again. -/
theorem Written.allNumbered (h : s.Written) : s.AllNumbered ∧ s.next ≤ resumeAt s.recorded := by
  induction h with
  | create limits => exact ⟨nofun, Nat.zero_le _⟩
  | record _ l ih => exact ⟨ih.1.record l, (act_next_le ih.2 (.record l)).2⟩
  | @load s _ now ih =>
    refine ⟨fun e he => ?_, (act_next_le ih.2 (.load now)).2⟩
    obtain ⟨x, hx, hnumber⟩ := ih.1 e ((mem_purge_iff s).1 he).1
    exact ⟨x, hx, by simpa [Store.load] using hnumber⟩
  | reopen _ limits ih =>
    refine ⟨fun e he => ?_, Nat.le_refl _⟩
    obtain ⟨x, hx, hnumber⟩ := ih.1 e he
    exact ⟨x, hx, Nat.lt_of_lt_of_le hnumber ih.2⟩

/-! ## Which entries come behind a new one -/

section
variable (h : s.Numbered kept) (hfit : s.next < UInt64.size)
include h hfit

theorem key_ne_new (t : Int64) {e : Bytes × Bytes} (he : e ∈ s.table.entries) :
    e.1 ≠ key t s.next := by
  rw [h.entries] at he
  obtain ⟨x, hx, rfl⟩ := List.mem_map.1 he
  intro heq
  exact toUInt64_ne (h.numbers x hx) (by omega) (key_inj heq).2

variable (hl : 0 ≤ l.failedAt) (hlast : ∀ x ∈ s.stored, x.failedAt ≤ l.failedAt)
include hl hlast

/-- Only letters before 1970 come behind a letter that is not earlier than all others. -/
theorem key_new_lt_iff {x : DeadLetter × Nat} (hx : x ∈ kept) :
    key l.failedAt s.next < (entry x).1 ↔ x.1.failedAt < 0 := by
  have hnumber := h.numbers x hx
  have hle : x.1.failedAt ≤ l.failedAt := by
    apply hlast
    rw [h.stored]
    exact List.mem_map_of_mem hx
  have hword := DeadLetter.toNat_toUInt64 l.failedAt
  have hword' := DeadLetter.toNat_toUInt64 x.1.failedAt
  have hhigh := l.failedAt.toInt_lt
  have hlow := x.1.failedAt.le_toInt
  rw [entry, key_lt_iff_word hfit (by omega), UInt64.lt_iff_toNat_lt]
  simp only [Int64.le_iff_toInt_le, Int64.lt_iff_toInt_lt, Int64.toInt_zero] at *
  rw [if_neg (by omega)] at hword
  constructor
  · rintro (hlt | ⟨-, hlt⟩)
    · by_contra hsince
      rw [if_neg hsince] at hword'
      omega
    · omega
  · intro hbefore
    rw [if_pos hbefore] at hword'
    left
    omega

/-- As many entries come behind a new letter as there are letters before 1970. -/
theorem countP_behind_new :
    (s.enter l).table.entries.countP (fun e => (entry (l, s.next)).1 < e.1) =
      s.stored.countP (·.failedAt < 0) := by
  have hperm : (s.enter l).table.entries.Perm (entry (l, s.next) :: s.table.entries) :=
    Table.putIn_perm fun e he => key_ne_new h hfit l.failedAt he
  rw [hperm.countP_eq, List.countP_cons, h.stored, h.entries, List.countP_map,
    List.countP_map]
  have hself : ¬ key l.failedAt s.next < key l.failedAt s.next := List.lt_irrefl _
  simp only [entry, hself, decide_false, Bool.false_eq_true, if_false, Nat.add_zero]
  refine List.countP_congr fun x hx => ?_
  exact (decide_eq_true_iff.trans (key_new_lt_iff h hfit hl hlast hx)).trans
    decide_eq_true_iff.symm

/-- **A new letter stays** if there are less letters before 1970 than letters allowed. -/
theorem mem_record_iff : entry (l, s.next) ∈ (s.record l).table.entries ↔
    ∀ most, s.limits.maxEntries = some most →
      s.stored.countP (·.failedAt < 0) < most.toNat := by
  have hmem : entry (l, s.next) ∈ (s.enter l).table.entries := Table.mem_putIn_self ..
  have hcount := countP_behind_new h hfit hl hlast
  unfold Store.record trim
  rw [enter_limits]
  cases hmost : s.limits.maxEntries with
  | none => simpa using hmem
  | some most =>
    have hlt : s.stored.countP (·.failedAt < 0) < (s.enter l).table.size := by
      rw [← hcount]
      exact List.countP_lt_length_iff.2 ⟨_, hmem, by simp [entry, List.lt_irrefl]⟩
    have hstays := Table.mem_dropLeast_iff hmem ((s.enter l).table.size - most.toNat)
    rw [hcount] at hstays
    simp only [Option.some.injEq, forall_eq']
    refine hstays.trans ?_
    omega

/-- Without letters before 1970 a new letter that stays is the last one. -/
theorem record_entries_concat (hsince : ∀ x ∈ s.stored, 0 ≤ x.failedAt)
    (hstays : entry (l, s.next) ∈ (s.record l).table.entries) :
    ∃ before, (s.record l).table.entries = before ++ [entry (l, s.next)] := by
  refine Table.entries_eq_concat hstays fun f hf hlt => ?_
  rcases mem_record hf with rfl | hf
  · exact List.lt_irrefl _ hlt
  · rw [h.entries] at hf
    obtain ⟨x, hx, rfl⟩ := List.mem_map.1 hf
    have hearly := (key_new_lt_iff h hfit hl hlast hx).1 hlt
    have hmem : x.1 ∈ s.stored := h.stored ▸ List.mem_map_of_mem hx
    exact Int64.not_lt.2 (hsince x.1 hmem) hearly

end

/-! ## Loading at the time of the last letter -/

theorem mem_purge_self (httl : ∀ ttl, s.limits.ttlSecs = some ttl → 0 < ttl) (hl : 0 ≤ l.failedAt)
    (n : Nat) {before : List (Bytes × Bytes)}
    (h : s.table.entries = before ++ [entry (l, n)]) :
    ∃ before', (s.purge l.failedAt).table.entries = before' ++ [entry (l, n)] := by
  have hfresh : ¬ s.limits.HasExpired l.failedAt (entry (l, n)).1 := by
    rw [entry, hasExpired_key n hl hl httl, Limits.keeps_self httl]
    exact Bool.noConfusion
  rw [purge_entries, h, List.filter_append, List.filter_singleton, decide_eq_true hfresh, cond_true]
  exact ⟨_, rfl⟩

theorem load_getLast (httl : ∀ ttl, s.limits.ttlSecs = some ttl → 0 < ttl) (hl : 0 ≤ l.failedAt)
    {n : Nat} {before : List (Bytes × Bytes)}
    (h : s.table.entries = before ++ [entry (l, n)]) :
    (s.load l.failedAt).1.getLast? = some l := by
  obtain ⟨before', hpurge⟩ := mem_purge_self httl hl n h
  simp only [load, contents, hpurge, List.map_append, List.map_singleton, entry,
    DeadLetter.decode_encode, List.filterMap_append]
  simp [Except.toOption]

end Store

/-! ## Settings that were accepted -/

/-- The limits that a store is opened with. -/
def Settings.limits (settings : Settings) : Limits :=
  ⟨settings.deadLetter.ttlSecs, settings.deadLetter.maxEntries⟩

theorem ttl_pos_of_complete {d : Draft} {settings : Settings} (h : d.complete = .ok settings) :
    ∀ ttl, settings.limits.ttlSecs = some ttl → 0 < ttl := by
  obtain ⟨heffective, hmet⟩ := Draft.met_of_complete h
  rw [Settings.limits, heffective.deadLetter]
  exact hmet .ttl

namespace Store

/-- **A letter just recorded.** Whatever the store holds, it stays if and only if more letters are
allowed than there are of before 1970. If there are none of these and any letter is allowed at all,
it is also the last one of a load at its time. -/
theorem record_kept {d : Draft} {settings : Settings} (haccepted : d.complete = .ok settings)
    {s : Store} (hs : s.Written) (hlimits : s.limits = settings.limits)
    (hfit : s.next < UInt64.size) {l : DeadLetter} (hl : 0 ≤ l.failedAt)
    (hlast : ∀ x ∈ s.stored, x.failedAt ≤ l.failedAt) :
    (entry (l, s.next) ∈ (s.record l).table.entries ↔
      ∀ most, settings.deadLetter.maxEntries = some most →
        s.stored.countP (·.failedAt < 0) < most.toNat) ∧
    ((∀ x ∈ s.stored, 0 ≤ x.failedAt) → settings.deadLetter.maxEntries ≠ some 0 →
      entry (l, s.next) ∈ (s.record l).table.entries ∧
        ((s.record l).load l.failedAt).1.getLast? = some l) := by
  obtain ⟨kept, hkept⟩ := hs.allNumbered.1.numbered
  have hiff := mem_record_iff hkept hfit hl hlast
  rw [hlimits] at hiff
  refine ⟨hiff, fun hsince hmost => ?_⟩
  have hnone : s.stored.countP (·.failedAt < 0) = 0 := by
    rw [List.countP_eq_zero]
    intro x hx
    simpa using Int64.not_lt.2 (hsince x hx)
  have hstays : entry (l, s.next) ∈ (s.record l).table.entries := by
    rw [hiff, hnone]
    intro most heq
    apply Nat.pos_of_ne_zero
    intro hzero
    apply hmost
    rw [← UInt64.toNat_inj.1 (hzero.trans UInt64.toNat_zero.symm)]
    exact heq
  have httl := ttl_pos_of_complete haccepted
  obtain ⟨before, hbefore⟩ := record_entries_concat hkept hfit hl hlast hsince hstays
  refine ⟨hstays, load_getLast ?_ hl hbefore⟩
  rwa [record_limits, hlimits]

/-! ## A sample on either side of 1970 -/

/-- A draft that allows so many letters. -/
def draftAllowing (most : UInt64) : Draft :=
  { target := ⟨some "p", some "d", some "t", some "s"⟩, deadLetter := { maxEntries := some most } }

def settingsAllowing (most : UInt64) : Settings :=
  { target := ⟨"p", "d", "t", "s"⟩, deadLetter := { maxEntries := some most } }

theorem complete_draftAllowing (most : UInt64) :
    (draftAllowing most).complete = .ok (settingsAllowing most) := by
  have htarget : (⟨some "p", some "d", some "t", some "s"⟩ : Setup.TargetDraft).complete =
      .ok ⟨"p", "d", "t", "s"⟩ := ok_of_toOption (by decide +kernel)
  rw [Draft.complete, draftAllowing, htarget]
  rfl

def letterAt (t : Int64) : DeadLetter :=
  ⟨"m", "a", "eA==", "r", t⟩

/-- A store for so many letters, with one in it. -/
def storeWith (most : UInt64) (t : Int64) : Store :=
  (create (settingsAllowing most).limits).record (letterAt t)

/-- In a store for two, a letter of 1969 lets a new one stay; one of 1970 lets it come last. -/
theorem record_kept_sample :
    entry (letterAt 1000, 1) ∈ ((storeWith 2 (-1000)).record (letterAt 1000)).table.entries ∧
      (((storeWith 2 500).record (letterAt 1000)).load 1000).1.getLast? =
        some (letterAt 1000) := by
  have hwritten : ∀ t, (storeWith 2 t).Written := fun t => .record (.create _) _
  have hearly := record_kept (complete_draftAllowing 2) (hwritten (-1000)) rfl (by decide)
    (show 0 ≤ (letterAt 1000).failedAt by decide) (by decide +kernel)
  have hlate := record_kept (complete_draftAllowing 2) (hwritten 500) rfl (by decide)
    (show 0 ≤ (letterAt 1000).failedAt by decide) (by decide +kernel)
  have hcount : (storeWith 2 (-1000)).stored.countP (·.failedAt < 0) = 1 := by decide +kernel
  refine ⟨hearly.1.2 fun most hmost => ?_, (hlate.2 (by decide +kernel) (by decide)).2⟩
  cases hmost
  rw [hcount]
  decide

/-! ## No letter allowed -/

/-- A letter recorded under these limits, not earlier than all others, is in the store, and a load
at its time hands it out last. -/
def KeepsNew (limits : Limits) : Prop :=
  ∀ (s : Store) (l : DeadLetter), s.Written → s.limits = limits → s.next < UInt64.size →
    0 ≤ l.failedAt → (∀ x ∈ s.stored, x.failedAt ≤ l.failedAt) →
    entry (l, s.next) ∈ (s.record l).table.entries ∧
      ((s.record l).load l.failedAt).1.getLast? = some l

/-- **Not all settings that are accepted keep what is recorded.** None may be allowed, and a letter
of 1969 may take the only place. -/
theorem not_keepsNew :
    (draftAllowing 0).complete = .ok (settingsAllowing 0) ∧
      ¬ KeepsNew (settingsAllowing 0).limits ∧ ¬ KeepsNew (settingsAllowing 1).limits ∧
      ¬ ∀ (d : Draft) (settings : Settings), d.complete = .ok settings →
        KeepsNew settings.limits := by
  have hzero : ¬ KeepsNew (settingsAllowing 0).limits := by
    intro h
    have hin := (h (create _) (letterAt 1000) (.create _) rfl (by decide) (by decide) nofun).1
    revert hin
    decide +kernel
  have hone : ¬ KeepsNew (settingsAllowing 1).limits := by
    intro h
    have hin := (h (storeWith 1 (-1000)) (letterAt 1000) (.record (.create _) _) rfl (by decide)
      (by decide) (by decide +kernel)).1
    revert hin
    decide +kernel
  exact ⟨complete_draftAllowing 0, hzero, hone,
    fun hall => hzero (hall _ _ (complete_draftAllowing 0))⟩

end Store

end RowRelay
