import RowRelay.Proofs.DeadLetter.History

/-!
# The order of the keys

A key holds the time of its letter as a word without a sign. So the letters since 1970 come first,
in the order of their times, and behind them those before 1970 (`SinceFirst`): in this order a
store without a time to live hands letters out, and from the front of it a store that is too large
drops them (`keepsOrder_sinceFirst`). It is the order of the times as long as all letters lie on one
side of 1970, and `not_keepsOrder_le` shows that it is not otherwise.

Times turned by half of their range are ordered as the keys are (`toUInt64_lt_iff_turned`), and so
what is known of the newest letters holds of turned letters.
-/

set_option autoImplicit false

namespace RowRelay

namespace DeadLetter

/-! ## Turned times -/

/-- The letter with its time turned by half of all times, which puts the times before 1970 behind
all others. -/
def turned (l : DeadLetter) : DeadLetter :=
  { l with failedAt := l.failedAt + Int64.minValue }

theorem toInt_turned (l : DeadLetter) : l.turned.failedAt.toInt =
    if l.failedAt.toInt < 0 then l.failedAt.toInt + 2 ^ 63 else l.failedAt.toInt - 2 ^ 63 := by
  have hlow := l.failedAt.le_toInt
  have hhigh := l.failedAt.toInt_lt
  rw [turned, Int64.toInt_add, Int64.toInt_minValue, Int.bmod_def]
  split <;> split <;> omega

theorem turn_twice (t : Int64) : t + Int64.minValue + Int64.minValue = t := by
  rw [Int64.add_assoc, show Int64.minValue + Int64.minValue = 0 by decide, Int64.add_zero]

theorem turned_turned (l : DeadLetter) : l.turned.turned = l := by
  rw [turned, turned, turn_twice]

theorem map_turned_turned (letters : List DeadLetter) :
    (letters.map turned).map turned = letters := by
  rw [List.map_map]
  exact (List.map_congr_left fun l _ => turned_turned l).trans (List.map_id letters)

theorem turned_time_iff (l : DeadLetter) (t : Int64) :
    l.turned.failedAt = t ↔ l.failedAt = t + Int64.minValue := by
  constructor
  · rintro rfl
    exact (turn_twice l.failedAt).symm
  · intro h
    rw [turned, h, turn_twice]

theorem toNat_toUInt64 (t : Int64) :
    (t.toUInt64.toNat : Int) = if t.toInt < 0 then t.toInt + 2 ^ 64 else t.toInt := by
  have hword := t.toBitVec.isLt
  rw [← Int64.toNat_toBitVec, show t.toInt = t.toBitVec.toInt from rfl, BitVec.toInt_eq_toNat_cond]
  split <;> split <;> omega

/-- **Turned times are ordered as the words of the times are.** -/
theorem toUInt64_lt_iff_turned (a b : DeadLetter) :
    a.failedAt.toUInt64 < b.failedAt.toUInt64 ↔ a.turned.failedAt < b.turned.failedAt := by
  have ha := toNat_toUInt64 a.failedAt
  have hb := toNat_toUInt64 b.failedAt
  have hlow := a.failedAt.le_toInt
  have hlow' := b.failedAt.le_toInt
  have hhigh := a.failedAt.toInt_lt
  have hhigh' := b.failedAt.toInt_lt
  rw [UInt64.lt_iff_toNat_lt, Int64.lt_iff_toInt_lt, toInt_turned, toInt_turned]
  split <;> split <;> split at ha <;> split at hb <;> omega

/-- The first time is not after the second where the times since 1970 come first. -/
def SinceFirst (t t' : Int64) : Prop :=
  if 0 ≤ t ↔ 0 ≤ t' then t ≤ t' else 0 ≤ t

theorem turned_le_iff (a b : DeadLetter) :
    a.turned.failedAt ≤ b.turned.failedAt ↔ SinceFirst a.failedAt b.failedAt := by
  have hlow := a.failedAt.le_toInt
  have hlow' := b.failedAt.le_toInt
  have hhigh := a.failedAt.toInt_lt
  have hhigh' := b.failedAt.toInt_lt
  unfold SinceFirst
  simp only [Int64.le_iff_toInt_le, toInt_turned, Int64.toInt_zero]
  split <;> split <;> split <;> omega

/-! ## Sorting what has two parts -/

theorem insertByTime_append_left {l : DeadLetter} {later : List DeadLetter}
    (h : ∀ b ∈ later, l.failedAt < b.failedAt) (letters : List DeadLetter) :
    insertByTime l (letters ++ later) = insertByTime l letters ++ later := by
  induction letters with
  | nil =>
    cases later with
    | nil => rfl
    | cons b later => exact if_pos (h b List.mem_cons_self)
  | cons a letters ih =>
    unfold insertByTime at ih ⊢
    rw [List.cons_append, List.orderedInsert_cons, List.orderedInsert_cons, ih]
    split <;> rfl

theorem insertByTime_append_right {l : DeadLetter} {letters : List DeadLetter}
    (h : ∀ a ∈ letters, a.failedAt ≤ l.failedAt) (later : List DeadLetter) :
    insertByTime l (letters ++ later) = letters ++ insertByTime l later := by
  induction letters with
  | nil => rfl
  | cons a letters ih =>
    obtain ⟨ha, hletters⟩ := List.forall_mem_cons.1 h
    rw [List.cons_append, insertByTime, List.orderedInsert_cons, if_neg (Int64.not_lt.2 ha)]
    exact congrArg (a :: ·) (ih hletters)

theorem mem_byTime {l : DeadLetter} {letters : List DeadLetter} :
    l ∈ byTime letters ↔ l ∈ letters :=
  List.mem_mergeSort

/-- Where some letters come before all others, they can be sorted apart. -/
theorem byTime_parts {early : DeadLetter → Bool}
    (h : ∀ a b : DeadLetter, early a = true → early b = false → a.failedAt < b.failedAt)
    (letters : List DeadLetter) : byTime letters =
      byTime (letters.filter early) ++ byTime (letters.filter fun l => !early l) := by
  induction letters using List.reverseRecOn with
  | nil => simp [byTime]
  | append_singleton letters l ih =>
    rw [byTime_concat, ih, List.filter_append, List.filter_append]
    cases hl : early l with
    | true =>
      have hlater : ∀ b ∈ byTime (letters.filter fun l => !early l), l.failedAt < b.failedAt :=
        fun b hb => h l b hl (by simpa using (List.mem_filter.1 (mem_byTime.1 hb)).2)
      rw [insertByTime_append_left hlater]
      simp [hl, byTime_concat]
    | false =>
      have hbefore : ∀ a ∈ byTime (letters.filter early), a.failedAt ≤ l.failedAt :=
        fun a ha => Int64.le_of_lt (h a l (List.mem_filter.1 (mem_byTime.1 ha)).2 hl)
      rw [insertByTime_append_right hbefore]
      simp [hl, byTime_concat]

/-- The letters since 1970 and behind them those before 1970, each in the order of their times. -/
def sinceFirst (letters : List DeadLetter) : List DeadLetter :=
  byTime (letters.filter fun l => 0 ≤ l.failedAt) ++ byTime (letters.filter fun l => l.failedAt < 0)

/-- Letters on one side of 1970 are turned before or after they are sorted. -/
theorem byTime_turned_of_side {letters : List DeadLetter}
    (h : ∀ a ∈ letters, ∀ b ∈ letters, 0 ≤ a.failedAt ↔ 0 ≤ b.failedAt) :
    byTime (letters.map turned) = (byTime letters).map turned := by
  refine (List.map_mergeSort fun a ha b hb => ?_).symm
  rw [decide_eq_decide, turned_le_iff, SinceFirst, if_pos (h a ha b hb)]

theorem map_turned_byTime (letters : List DeadLetter) :
    (byTime (letters.map turned)).map turned = sinceFirst letters := by
  have hsince : ∀ l : DeadLetter, decide (l.turned.failedAt < 0) = decide (0 ≤ l.failedAt) := by
    intro l
    have hlow := l.failedAt.le_toInt
    have hhigh := l.failedAt.toInt_lt
    rw [decide_eq_decide, Int64.lt_iff_toInt_lt, Int64.le_iff_toInt_le, toInt_turned,
      Int64.toInt_zero]
    split <;> omega
  have hbefore : ∀ l : DeadLetter, (!decide (0 ≤ l.failedAt)) = decide (l.failedAt < 0) := by
    intro l
    rw [← decide_not, decide_eq_decide, Int64.not_le]
  have hlt : ∀ a b : DeadLetter, decide (a.failedAt < 0) = true → decide (b.failedAt < 0) = false →
      a.failedAt < b.failedAt := by
    intro a b ha hb
    exact Std.lt_of_lt_of_le (of_decide_eq_true ha) (Int64.not_lt.1 (of_decide_eq_false hb))
  rw [byTime_parts hlt, List.filter_map, List.filter_map, List.map_append, sinceFirst]
  simp only [Function.comp_def, hsince, hbefore]
  rw [byTime_turned_of_side, byTime_turned_of_side, map_turned_turned, map_turned_turned]
  · intro a ha b hb
    have ha := of_decide_eq_true (List.mem_filter.1 ha).2
    have hb := of_decide_eq_true (List.mem_filter.1 hb).2
    exact iff_of_false (Int64.not_le.2 ha) (Int64.not_le.2 hb)
  · intro a ha b hb
    exact iff_of_true (of_decide_eq_true (List.mem_filter.1 ha).2)
      (of_decide_eq_true (List.mem_filter.1 hb).2)

/-! ## What sorting and trimming keep -/

theorem filter_time_byTime (t : Int64) (letters : List DeadLetter) :
    (byTime letters).filter (fun l => l.failedAt = t) = letters.filter fun l => l.failedAt = t := by
  have hties : (letters.filter fun l => l.failedAt = t).Pairwise
      fun a b => decide (a.failedAt ≤ b.failedAt) = true := by
    refine List.pairwise_of_forall_mem_list fun a ha b hb => decide_eq_true ?_
    rw [of_decide_eq_true (List.mem_filter.1 ha).2, of_decide_eq_true (List.mem_filter.1 hb).2]
    exact Int64.le_refl t
  have hsublist := (List.sublist_mergeSort time_le_trans time_le_total hties
    List.filter_sublist).filter fun l => l.failedAt = t
  simp only [List.filter_filter, Bool.and_self] at hsublist
  have hperm := (List.mergeSort_perm letters fun a b => decide (a.failedAt ≤ b.failedAt)).filter
    fun l => l.failedAt = t
  exact (hsublist.eq_of_length hperm.length_eq.symm).symm

theorem filter_time_newest (limits : Limits) (letters : List DeadLetter) (t : Int64) :
    ((newest limits letters).filter fun l => l.failedAt = t).Sublist letters := by
  have hlast : (newest limits letters).Sublist (byTime letters) := lastOf_sublist _ _
  have hties := hlast.filter fun l => l.failedAt = t
  rw [filter_time_byTime] at hties
  exact hties.trans List.filter_sublist

/-- What is not among the last ones comes before them. -/
theorem lastOf_split {letters : List DeadLetter} (h : Ordered letters) (most : Option UInt64) :
    ∃ dropped, dropped ++ lastOf most letters = letters ∧
      ∀ d ∈ dropped, ∀ k ∈ lastOf most letters, d.failedAt ≤ k.failedAt := by
  cases most with
  | none => exact ⟨[], rfl, nofun⟩
  | some most =>
    have hsplit := List.take_append_drop (letters.length - most.toNat) letters
    rw [← hsplit] at h
    exact ⟨_, hsplit, (List.pairwise_append.1 h).2.2⟩

end DeadLetter

namespace Store

open DeadLetter (SinceFirst byTime insertByTime lastOf newest sinceFirst turned)

/-! ## What is loaded -/

/-- What a new store hands out after letters were recorded. -/
def loaded (limits : Limits) (letters : List DeadLetter) (now : Int64) : List DeadLetter :=
  (((create limits).recordAll letters).load now).1

/-- The table holds the letters `kept` under numbers given before. Turned, they are the newest of
the letters recorded. -/
structure ReflectsTurned (limits : Limits) (letters : List DeadLetter) (s : Store)
    (kept : List (DeadLetter × Nat)) : Prop where
  limits_eq : s.limits = limits
  entries : s.table.entries = kept.map entry
  next_eq : s.next = letters.length
  numbers : ∀ x ∈ kept, x.2 < s.next
  turned_eq : kept.map (·.1.turned) = newest limits (letters.map turned)

section
variable {limits : Limits} {letters : List DeadLetter}

theorem reflectsTurned_create (limits : Limits) : ReflectsTurned limits [] (create limits) [] where
  limits_eq := rfl
  entries := rfl
  next_eq := rfl
  numbers := nofun
  turned_eq := (DeadLetter.newest_nil limits).symm

theorem ReflectsTurned.record {s : Store} {kept : List (DeadLetter × Nat)}
    (h : ReflectsTurned limits letters s kept) (l : DeadLetter) (hfit : s.next < UInt64.size) :
    ∃ kept', ReflectsTurned limits (letters ++ [l]) (s.record l) kept' := by
  have hentries : (s.record l).table.entries = (lastOf limits.maxEntries (kept.orderedInsert
      (fun a b => a.1.turned.failedAt < b.1.turned.failedAt) (l, s.next))).map entry := by
    rw [record_entries, DeadLetter.map_lastOf,
      ← putIn_entry (r := fun a b => a.turned.failedAt < b.turned.failedAt) hfit
        fun x hx => ⟨h.numbers x hx, DeadLetter.toUInt64_lt_iff_turned l x.1⟩, ← h.entries,
      h.limits_eq]
  have hturned : (kept.orderedInsert (fun a b => a.1.turned.failedAt < b.1.turned.failedAt)
      (l, s.next)).map (·.1.turned) = insertByTime l.turned (kept.map (·.1.turned)) :=
    List.map_orderedInsert _ _ _ _ _ (fun _ _ => Iff.rfl) fun _ _ => Iff.rfl
  refine ⟨_, by rw [record_limits, h.limits_eq], hentries, ?_, fun x hx => ?_, ?_⟩
  · rw [record_next, h.next_eq, List.length_append, List.length_singleton]
  · rw [record_next]
    rcases (List.mem_orderedInsert _).1 (DeadLetter.mem_of_lastOf hx) with rfl | hx
    · exact Nat.lt_succ_self _
    · exact Nat.lt_succ_of_lt (h.numbers x hx)
  · rw [DeadLetter.map_lastOf, hturned, h.turned_eq, List.map_append, List.map_singleton,
      DeadLetter.newest_concat]

theorem reflectsTurned_recordAll (limits : Limits) (hfit : letters.length ≤ UInt64.size) :
    ∃ kept, ReflectsTurned limits letters ((create limits).recordAll letters) kept := by
  induction letters using List.reverseRecOn with
  | nil => exact ⟨[], reflectsTurned_create limits⟩
  | append_singleton letters l ih =>
    rw [List.length_append, List.length_singleton] at hfit
    obtain ⟨kept, hkept⟩ := ih (by omega)
    rw [recordAll_append]
    exact hkept.record l (by rw [hkept.next_eq]; omega)

theorem loaded_eq_turned (httl : limits.ttlSecs = none) (hfit : letters.length ≤ UInt64.size)
    (now : Int64) :
    loaded limits letters now = (newest limits (letters.map turned)).map turned := by
  obtain ⟨kept, hkept⟩ := reflectsTurned_recordAll limits hfit
  have hpurge : ((create limits).recordAll letters).purge now =
      (create limits).recordAll letters := by
    rw [purge, Limits.expiry?, hkept.limits_eq, httl]
    rfl
  have hcontents := contents_of_entries hkept.entries
  have hletters : loaded limits letters now = kept.map (·.1) := by
    simp only [loaded, load, hpurge, hcontents, List.filterMap_map]
    exact congrFun (List.filterMap_eq_map (f := fun x : DeadLetter × Nat => x.1)) _
  rw [hletters, ← hkept.turned_eq, List.map_map]
  exact List.map_congr_left fun x _ => (DeadLetter.turned_turned x.1).symm

theorem loaded_eq_sinceFirst (httl : limits.ttlSecs = none) (hfit : letters.length ≤ UInt64.size)
    (now : Int64) :
    loaded limits letters now = lastOf limits.maxEntries (sinceFirst letters) := by
  rw [loaded_eq_turned httl hfit, newest, DeadLetter.map_lastOf, DeadLetter.map_turned_byTime]

theorem mem_of_loaded (httl : limits.ttlSecs = none) (hfit : letters.length ≤ UInt64.size)
    {now : Int64} {l : DeadLetter} (h : l ∈ loaded limits letters now) : l ∈ letters := by
  rw [loaded_eq_sinceFirst httl hfit] at h
  have hparts := DeadLetter.mem_of_lastOf h
  rw [sinceFirst, List.mem_append, DeadLetter.mem_byTime, DeadLetter.mem_byTime] at hparts
  exact hparts.elim (fun h => (List.mem_filter.1 h).1) fun h => (List.mem_filter.1 h).1

end

/-! ## Orders that are kept -/

/-- A new store for these letters keeps an order of times: it hands letters out in this order, those
of one time as they were recorded, and every record drops only what is not after what it keeps. -/
structure KeepsOrder (r : Int64 → Int64 → Prop) (limits : Limits) (letters : List DeadLetter) :
    Prop where
  ordered : ∀ now, (loaded limits letters now).Pairwise fun a b => r a.failedAt b.failedAt
  ties : ∀ now t, ((loaded limits letters now).filter fun l => l.failedAt = t).Sublist letters
  trims : ∀ ls l, ls ++ [l] <+: letters → ∀ now, ∃ dropped,
    (dropped ++ loaded limits (ls ++ [l]) now).Perm (l :: loaded limits ls now) ∧
      ∀ d ∈ dropped, ∀ k ∈ loaded limits (ls ++ [l]) now, r d.failedAt k.failedAt

section
variable {limits : Limits} {letters : List DeadLetter}

theorem loaded_ordered (httl : limits.ttlSecs = none) (hfit : letters.length ≤ UInt64.size)
    (now : Int64) :
    (loaded limits letters now).Pairwise fun a b => SinceFirst a.failedAt b.failedAt := by
  rw [loaded_eq_turned httl hfit, List.pairwise_map]
  refine (DeadLetter.newest_ordered limits _).imp fun {a b} hle => ?_
  rw [← DeadLetter.turned_le_iff, DeadLetter.turned_turned, DeadLetter.turned_turned]
  exact hle

theorem loaded_ties (httl : limits.ttlSecs = none) (hfit : letters.length ≤ UInt64.size)
    (now t : Int64) :
    ((loaded limits letters now).filter fun l => l.failedAt = t).Sublist letters := by
  have hties := (DeadLetter.filter_time_newest limits (letters.map turned)
    (t + Int64.minValue)).map turned
  rw [DeadLetter.map_turned_turned] at hties
  rw [loaded_eq_turned httl hfit, List.filter_map]
  simp only [Function.comp_def, DeadLetter.turned_time_iff]
  exact hties

/-- Recording one more letter drops letters from the front of the order. -/
theorem loaded_concat (httl : limits.ttlSecs = none) {l : DeadLetter}
    (hfit : (letters ++ [l]).length ≤ UInt64.size) (now : Int64) :
    ∃ dropped, (dropped ++ loaded limits (letters ++ [l]) now).Perm
        (l :: loaded limits letters now) ∧
      ∀ d ∈ dropped, ∀ k ∈ loaded limits (letters ++ [l]) now,
        SinceFirst d.failedAt k.failedAt := by
  have hordered := DeadLetter.insertByTime_ordered
    (DeadLetter.newest_ordered limits (letters.map turned)) l.turned
  obtain ⟨dropped, hsplit, hle⟩ := DeadLetter.lastOf_split hordered limits.maxEntries
  have hafter : loaded limits (letters ++ [l]) now = (lastOf limits.maxEntries
      (insertByTime l.turned (newest limits (letters.map turned)))).map turned := by
    rw [loaded_eq_turned httl hfit, List.map_append, List.map_singleton, DeadLetter.newest_concat]
  have hbefore : l :: loaded limits letters now =
      (l.turned :: newest limits (letters.map turned)).map turned := by
    rw [List.length_append] at hfit
    rw [loaded_eq_turned httl (by omega), List.map_cons, DeadLetter.turned_turned]
  refine ⟨dropped.map turned, ?_, fun d hd k hk => ?_⟩
  · rw [hafter, hbefore, ← List.map_append, hsplit]
    exact (List.perm_orderedInsert _ _ _).map turned
  · rw [hafter] at hk
    obtain ⟨d', hd', hd⟩ := List.mem_map.1 hd
    obtain ⟨k', hk', hk⟩ := List.mem_map.1 hk
    rw [← DeadLetter.turned_le_iff, ← hd, ← hk, DeadLetter.turned_turned, DeadLetter.turned_turned]
    exact hle d' hd' k' hk'

theorem keepsOrder_of_fit (httl : limits.ttlSecs = none) (hfit : letters.length ≤ UInt64.size) :
    KeepsOrder SinceFirst limits letters where
  ordered := loaded_ordered httl hfit
  ties := loaded_ties httl hfit
  trims _ _ hprefix := loaded_concat httl (Nat.le_trans hprefix.length_le hfit)

/-- An order is kept that follows, for the times of the letters, from one that is kept. -/
theorem KeepsOrder.imp {r r' : Int64 → Int64 → Prop} (httl : limits.ttlSecs = none)
    (hfit : letters.length ≤ UInt64.size) (h : KeepsOrder r limits letters)
    (himp : ∀ a ∈ letters, ∀ b ∈ letters, r a.failedAt b.failedAt → r' a.failedAt b.failedAt) :
    KeepsOrder r' limits letters where
  ordered now := (h.ordered now).imp_of_mem fun {a b} ha hb =>
    himp a (mem_of_loaded httl hfit ha) b (mem_of_loaded httl hfit hb)
  ties := h.ties
  trims ls l hprefix now := by
    obtain ⟨dropped, hperm, hdropped⟩ := h.trims ls l hprefix now
    have hfit' := Nat.le_trans hprefix.length_le hfit
    have hmem : ∀ x ∈ dropped ++ loaded limits (ls ++ [l]) now, x ∈ letters := by
      intro x hx
      refine hprefix.subset (List.mem_append.2 ?_)
      rcases List.mem_cons.1 (hperm.mem_iff.1 hx) with rfl | hx
      · exact .inr (List.mem_singleton_self _)
      · have hfit'' : ls.length ≤ UInt64.size :=
          Nat.le_trans (List.prefix_append ls [l]).length_le hfit'
        exact .inl (mem_of_loaded httl hfit'' hx)
    exact ⟨dropped, hperm, fun d hd k hk => himp d (hmem d (List.mem_append_left _ hd)) k
      (hmem k (List.mem_append_right _ hk)) (hdropped d hd k hk)⟩

/-- All letters are since 1970, or all are before it. -/
def OneSided (letters : List DeadLetter) : Prop :=
  (∀ l ∈ letters, 0 ≤ l.failedAt) ∨ ∀ l ∈ letters, l.failedAt < 0

theorem le_of_sinceFirst {a b : DeadLetter} (h : OneSided letters) (ha : a ∈ letters)
    (hb : b ∈ letters) (hab : SinceFirst a.failedAt b.failedAt) : a.failedAt ≤ b.failedAt := by
  have hside : 0 ≤ a.failedAt ↔ 0 ≤ b.failedAt := by
    rcases h with h | h
    · exact iff_of_true (h a ha) (h b hb)
    · exact iff_of_false (Int64.not_le.2 (h a ha)) (Int64.not_le.2 (h b hb))
  rwa [SinceFirst, if_pos hside] at hab

theorem oneSided_of_ordered
    (h : (sinceFirst letters).Pairwise fun a b => a.failedAt ≤ b.failedAt) : OneSided letters := by
  by_contra hboth
  simp only [OneSided, not_or, not_forall, Int64.not_lt] at hboth
  obtain ⟨⟨b, hb, hbefore⟩, a, ha, hsince⟩ := hboth
  have hmem : ∀ {early : DeadLetter → Bool} {l : DeadLetter}, l ∈ letters → early l = true →
      l ∈ byTime (letters.filter early) :=
    fun hl hearly => DeadLetter.mem_byTime.2 (List.mem_filter.2 ⟨hl, hearly⟩)
  have hle := (List.pairwise_append.1 h).2.2 a (hmem ha (by simpa using hsince))
    b (hmem hb (by simpa using hbefore))
  exact hbefore (Int64.le_trans hsince hle)

/-- **The order in which a store keeps its letters.** Letters since 1970 come first, and behind them
those before 1970: in this order they are handed out, and from the front of it they are dropped. It
is the order of the times where all letters lie on one side of 1970, and where none is dropped only
there. -/
theorem keepsOrder_sinceFirst (limits : Limits) (letters : List DeadLetter)
    (httl : limits.ttlSecs = none) (hfit : letters.length ≤ UInt64.size) :
    (∀ now, loaded limits letters now = lastOf limits.maxEntries (sinceFirst letters)) ∧
      KeepsOrder SinceFirst limits letters ∧
      (OneSided letters → KeepsOrder (· ≤ ·) limits letters) ∧
      (limits.maxEntries = none → KeepsOrder (· ≤ ·) limits letters → OneSided letters) := by
  have hkeeps := keepsOrder_of_fit httl hfit
  have hloaded := loaded_eq_sinceFirst httl hfit
  refine ⟨hloaded, hkeeps, fun hside => ?_, fun hmost horder => ?_⟩
  · exact hkeeps.imp httl hfit fun a ha b hb => le_of_sinceFirst hside ha hb
  · have hordered := horder.ordered 0
    rw [hloaded, hmost] at hordered
    exact oneSided_of_ordered hordered

end

/-! ## Letters on both sides -/

/-- A letter of a second before 1970, and one of a second after. -/
def sampleBefore : DeadLetter := ⟨"before", "a", "", "", -1000⟩

def sampleSince : DeadLetter := ⟨"since", "a", "", "", 1000⟩

theorem keepsOrder_sinceFirst_sample :
    OneSided [sampleSince, { sampleSince with failedAt := 5 }] ∧
      KeepsOrder (· ≤ ·) ⟨none, some 1⟩ [sampleSince, { sampleSince with failedAt := 5 }] ∧
      KeepsOrder SinceFirst ⟨none, some 1⟩ [sampleSince, sampleBefore] := by
  have hside : OneSided [sampleSince, { sampleSince with failedAt := 5 }] := .inl (by decide)
  obtain ⟨-, -, horder, -⟩ := keepsOrder_sinceFirst ⟨none, some 1⟩
    [sampleSince, { sampleSince with failedAt := 5 }] rfl (by decide)
  obtain ⟨-, hboth, -, -⟩ := keepsOrder_sinceFirst ⟨none, some 1⟩
    [sampleSince, sampleBefore] rfl (by decide)
  exact ⟨hside, horder hside, hboth⟩

/-- The order of the times is not kept: a letter before 1970 is handed out behind one after it, and
the one after it is dropped first. -/
theorem not_keepsOrder_le :
    ¬ KeepsOrder (· ≤ ·) ⟨none, none⟩ [sampleBefore, sampleSince] ∧
      ¬ KeepsOrder (· ≤ ·) ⟨none, some 1⟩ [sampleSince, sampleBefore] := by
  refine ⟨fun h => ?_, fun h => ?_⟩
  · have hloaded : loaded ⟨none, none⟩ [sampleBefore, sampleSince] 0 =
        [sampleSince, sampleBefore] := by decide +kernel
    have hordered := h.ordered 0
    rw [hloaded] at hordered
    revert hordered
    decide
  · have hbefore : loaded ⟨none, some 1⟩ [sampleSince] 0 = [sampleSince] := by decide +kernel
    have hafter : loaded ⟨none, some 1⟩ ([sampleSince] ++ [sampleBefore]) 0 = [sampleBefore] := by
      decide +kernel
    obtain ⟨dropped, hperm, hle⟩ := h.trims [sampleSince] sampleBefore (List.prefix_refl _) 0
    rw [hbefore, hafter] at hperm
    rw [hafter] at hle
    have hgone : sampleSince ∈ dropped := by
      have hmem := hperm.mem_iff (a := sampleSince)
      simpa [show sampleSince ≠ sampleBefore by decide] using hmem
    exact absurd (hle _ hgone _ List.mem_cons_self) (by decide)

end Store

end RowRelay
