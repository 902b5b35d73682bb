import Mathlib.Data.List.Sort
import RowRelay.DeadLetter.Store

/-!
# The newest letters

`newest limits letters` are the letters that a store should have when these were recorded, in the
order in which it should hand them out: sorted by their times, the letters of one time in the order
in which they were recorded, and of these the last ones, as many as allowed.

* `newest_concat`: what one letter more makes of the newest ones; letters that are not among them
  never come back.
* `filter_lastOf`: letters of a time or later can be taken before or after the last ones are taken.

`Limits.keeps` tells which letters have not expired, by exact arithmetic.
-/

set_option autoImplicit false

namespace RowRelay

namespace DeadLetter

/-! ## The order of times -/

/-- Letters in the order of their times, and those of one time in the order given. -/
def byTime (letters : List DeadLetter) : List DeadLetter :=
  letters.mergeSort fun a b => decide (a.failedAt ≤ b.failedAt)

/-- Puts a letter behind all letters of its time. -/
def insertByTime (l : DeadLetter) (letters : List DeadLetter) : List DeadLetter :=
  letters.orderedInsert (fun a b => a.failedAt < b.failedAt) l

/-- The letters are in the order of their times. -/
def Ordered (letters : List DeadLetter) : Prop :=
  letters.Pairwise fun a b => a.failedAt ≤ b.failedAt

theorem time_le_trans (a b c : DeadLetter) (hab : decide (a.failedAt ≤ b.failedAt) = true)
    (hbc : decide (b.failedAt ≤ c.failedAt) = true) : decide (a.failedAt ≤ c.failedAt) = true := by
  rw [decide_eq_true_eq] at *
  exact Int64.le_trans hab hbc

theorem time_le_total (a b : DeadLetter) :
    (decide (a.failedAt ≤ b.failedAt) || decide (b.failedAt ≤ a.failedAt)) = true := by
  simpa using Int64.le_total a.failedAt b.failedAt

theorem byTime_ordered (letters : List DeadLetter) : Ordered (byTime letters) := by
  have h : (byTime letters).Pairwise fun a b => decide (a.failedAt ≤ b.failedAt) = true :=
    List.pairwise_mergeSort time_le_trans time_le_total letters
  exact h.imp fun hab => by simpa using hab

theorem insertByTime_ordered {letters : List DeadLetter} (h : Ordered letters) (l : DeadLetter) :
    Ordered (insertByTime l letters) := by
  induction letters with
  | nil => exact List.pairwise_singleton _ _
  | cons m letters ih =>
    obtain ⟨hm, hletters⟩ := List.pairwise_cons.1 h
    rw [insertByTime, List.orderedInsert_cons]
    split
    · next hlt =>
      refine List.pairwise_cons.2 ⟨fun x hx => ?_, h⟩
      rcases List.mem_cons.1 hx with rfl | hx
      · exact Int64.le_of_lt hlt
      · exact Int64.le_trans (Int64.le_of_lt hlt) (hm x hx)
    · next hlt =>
      refine List.pairwise_cons.2 ⟨fun x hx => ?_, ih hletters⟩
      rcases (List.mem_orderedInsert _).1 hx with rfl | hx
      · exact Int64.not_lt.1 hlt
      · exact hm x hx

theorem byTime_cons (l : DeadLetter) (letters : List DeadLetter) :
    byTime (l :: letters) =
      (byTime letters).orderedInsert (fun a b => a.failedAt ≤ b.failedAt) l := by
  obtain ⟨l₁, l₂, hcons, hletters, hbefore⟩ :=
    List.mergeSort_cons time_le_trans time_le_total l letters
  have hordered : Ordered (l₁ ++ l :: l₂) := hcons ▸ byTime_ordered (l :: letters)
  have hafter := (List.pairwise_cons.1 (List.pairwise_append.1 hordered).2.1).1
  rw [byTime, hcons, byTime, hletters]
  clear hcons hletters hordered
  induction l₁ with
  | nil =>
    cases l₂ with
    | nil => rfl
    | cons m l₂ => exact (if_pos (hafter m List.mem_cons_self)).symm
  | cons m l₁ ih =>
    rw [List.cons_append, List.cons_append, List.orderedInsert_of_not_le,
      ih fun b hb => hbefore b (List.mem_cons_of_mem _ hb)]
    simpa using hbefore m List.mem_cons_self

/-- A letter put in front and one put behind do not get in each other's way. -/
theorem insertByTime_comm (l m : DeadLetter) (letters : List DeadLetter) :
    insertByTime m (letters.orderedInsert (fun a b => a.failedAt ≤ b.failedAt) l) =
      (insertByTime m letters).orderedInsert (fun a b => a.failedAt ≤ b.failedAt) l := by
  induction letters with
  | nil =>
    by_cases h : l.failedAt ≤ m.failedAt
    · simp [insertByTime, h, Int64.not_lt.2 h]
    · simp [insertByTime, h, Int64.not_le.1 h]
  | cons x letters ih =>
    unfold insertByTime at ih ⊢
    simp only [Int64.le_iff_toInt_le, Int64.lt_iff_toInt_lt] at ih ⊢
    grind

/-- **One letter more goes behind all letters of its time.** -/
theorem byTime_concat (letters : List DeadLetter) (l : DeadLetter) :
    byTime (letters ++ [l]) = insertByTime l (byTime letters) := by
  induction letters with
  | nil => simp [byTime, insertByTime]
  | cons m letters ih => rw [List.cons_append, byTime_cons, ih, byTime_cons, insertByTime_comm]

/-! ## The last ones -/

/-- The last of a list, as many as allowed. -/
def lastOf {α : Type} (most : Option UInt64) (l : List α) : List α :=
  match most with
  | some most => l.drop (l.length - most.toNat)
  | none => l

theorem map_lastOf {α β : Type} (f : α → β) (most : Option UInt64) (l : List α) :
    (lastOf most l).map f = lastOf most (l.map f) := by
  cases most <;> simp [lastOf]

theorem lastOf_sublist {α : Type} (most : Option UInt64) (l : List α) :
    (lastOf most l).Sublist l := by
  cases most with
  | none => exact List.Sublist.refl l
  | some most => exact List.drop_sublist _ l

theorem mem_of_lastOf {α : Type} {most : Option UInt64} {l : List α} {x : α}
    (h : x ∈ lastOf most l) : x ∈ l :=
  (lastOf_sublist most l).subset h

theorem lastOf_ordered {letters : List DeadLetter} (h : Ordered letters) (most : Option UInt64) :
    Ordered (lastOf most letters) :=
  h.sublist (lastOf_sublist most letters)

/-- What comes behind one of the last ones is inserted among them. -/
theorem drop_insertByTime {letters : List DeadLetter} (h : Ordered letters) (l : DeadLetter)
    (n : Nat) :
    (insertByTime l letters).drop (n + 1) = (insertByTime l (letters.drop n)).drop 1 := by
  induction n generalizing letters with
  | zero => rfl
  | succ n ih =>
    cases letters with
    | nil => simp [insertByTime]
    | cons m letters =>
      obtain ⟨hm, hletters⟩ := List.pairwise_cons.1 h
      rw [List.drop_succ_cons, ← ih hletters, insertByTime, List.orderedInsert_cons]
      split
      · next hlt =>
        -- the letter comes before all others, and is gone with the first of them
        rw [ih hletters, List.drop_succ_cons, List.drop_succ_cons]
        cases hrest : letters.drop n with
        | nil => rfl
        | cons x rest =>
          have hx : x ∈ letters := List.mem_of_mem_drop (hrest ▸ List.mem_cons_self)
          rw [insertByTime, List.orderedInsert_cons,
            if_pos (Std.lt_of_lt_of_le hlt (hm x hx))]
          rfl
      · rfl

theorem lastOf_insertByTime {letters : List DeadLetter} (h : Ordered letters)
    (most : Option UInt64) (l : DeadLetter) :
    lastOf most (insertByTime l (lastOf most letters)) = lastOf most (insertByTime l letters) := by
  cases most with
  | none => rfl
  | some most =>
    have hlen : ∀ ls : List DeadLetter, (insertByTime l ls).length = ls.length + 1 :=
      fun ls => List.orderedInsert_length _ ls l
    simp only [lastOf, hlen, List.length_drop]
    by_cases hfew : letters.length ≤ most.toNat
    · simp [Nat.sub_eq_zero_of_le hfew]
    · have hn : letters.length + 1 - most.toNat = letters.length - most.toNat + 1 := by omega
      have hone : letters.length - (letters.length - most.toNat) + 1 - most.toNat = 1 := by omega
      rw [hn, hone, drop_insertByTime h]

/-- The letters of a store in which so many are allowed. -/
def newest (limits : Limits) (letters : List DeadLetter) : List DeadLetter :=
  lastOf limits.maxEntries (byTime letters)

theorem newest_nil (limits : Limits) : newest limits [] = [] := by
  have hnone : byTime [] = [] := by simp [byTime]
  rw [newest, hnone]
  cases limits.maxEntries with
  | none => rfl
  | some most => exact List.drop_nil

/-- **The newest letters when there is one more** are the newest of it and the newest before. -/
theorem newest_concat (limits : Limits) (letters : List DeadLetter) (l : DeadLetter) :
    newest limits (letters ++ [l]) =
      lastOf limits.maxEntries (insertByTime l (newest limits letters)) := by
  rw [newest, byTime_concat, newest, lastOf_insertByTime (byTime_ordered letters)]

theorem newest_ordered (limits : Limits) (letters : List DeadLetter) :
    Ordered (newest limits letters) :=
  lastOf_ordered (byTime_ordered letters) _

/-! ## Letters of a time or later -/

section
variable {fresh : DeadLetter → Bool}
  (hfresh : ∀ {a b : DeadLetter}, a.failedAt ≤ b.failedAt → fresh a = true → fresh b = true)
include hfresh

theorem filter_insertByTime (l : DeadLetter) (letters : List DeadLetter) :
    (insertByTime l letters).filter fresh =
      if fresh l then insertByTime l (letters.filter fresh) else letters.filter fresh := by
  induction letters with
  | nil => cases hl : fresh l <;> simp [insertByTime, hl]
  | cons m letters ih =>
    unfold insertByTime at ih ⊢
    rw [List.orderedInsert_cons]
    split
    · next hlt =>
      cases hl : fresh l with
      | false => simp [List.filter_cons, hl]
      | true =>
        have hm := hfresh (Int64.le_of_lt hlt) hl
        simp [hl, hm, hlt]
    · next hlt =>
      rw [List.filter_cons, ih]
      cases hl : fresh l <;> cases hm : fresh m <;> simp [hm, hlt]

/-- Of letters in order those of a time or later are the last ones. -/
theorem filter_drop {letters : List DeadLetter} (h : Ordered letters) (n : Nat) :
    (letters.drop n).filter fresh = letters.drop (max n (letters.countP (!fresh ·))) := by
  induction letters generalizing n with
  | nil => simp
  | cons l letters ih =>
    obtain ⟨hl, hletters⟩ := List.pairwise_cons.1 h
    cases hf : fresh l with
    | true =>
      have hall : ∀ x ∈ l :: letters, fresh x = true := by
        intro x hx
        rcases List.mem_cons.1 hx with rfl | hx
        · exact hf
        · exact hfresh (hl x hx) hf
      have hnone : (l :: letters).countP (!fresh ·) = 0 :=
        List.countP_eq_zero.2 fun x hx => by simp [hall x hx]
      rw [hnone, Nat.max_zero]
      exact List.filter_eq_self.2 fun x hx => hall x (List.mem_of_mem_drop hx)
    | false =>
      rw [List.countP_cons_of_pos (by simp [hf])]
      cases n with
      | zero => simpa [List.filter_cons, hf] using ih hletters 0
      | succ n => simpa [Nat.succ_max_succ] using ih hletters n

/-- **Taking the last letters and taking those of a time or later can be done in either order.** -/
theorem filter_lastOf {letters : List DeadLetter} (h : Ordered letters) (most : Option UInt64) :
    (lastOf most letters).filter fresh = lastOf most (letters.filter fresh) := by
  cases most with
  | none => rfl
  | some most =>
    have hall := filter_drop hfresh h 0
    rw [List.drop_zero, Nat.zero_max] at hall
    rw [lastOf, lastOf, filter_drop hfresh h, hall, List.drop_drop, List.length_drop]
    congr 1
    have := List.countP_le_length (l := letters) (p := (!fresh ·))
    omega

end

end DeadLetter

/-! ## Expiry -/

namespace Limits

/-- The letter has not expired. -/
def keeps (limits : Limits) (now : Int64) (l : DeadLetter) : Bool :=
  match limits.ttlSecs with
  | some ttl => decide (now.toInt - 1000 * ttl.toInt ≤ l.failedAt.toInt)
  | none => true

theorem keeps_of_le {limits : Limits} {now : Int64} {a b : DeadLetter}
    (hab : a.failedAt ≤ b.failedAt) (ha : limits.keeps now a = true) :
    limits.keeps now b = true := by
  rw [Int64.le_iff_toInt_le] at hab
  cases httl : limits.ttlSecs with
  | none => simp [keeps, httl]
  | some ttl =>
    simp only [keeps, httl, decide_eq_true_eq] at ha ⊢
    omega

theorem keeps_self {limits : Limits} (httl : ∀ ttl, limits.ttlSecs = some ttl → 0 < ttl)
    (l : DeadLetter) : limits.keeps l.failedAt l = true := by
  rw [keeps]
  cases hlimits : limits.ttlSecs with
  | none => rfl
  | some ttl =>
    have hpos := httl ttl hlimits
    rw [Int64.lt_iff_toInt_lt, Int64.toInt_zero] at hpos
    exact decide_eq_true (by omega)

theorem keeps_before {limits : Limits} {now now' : Int64} {l : DeadLetter} (hle : now ≤ now')
    (h : limits.keeps now' l = true) : limits.keeps now l = true := by
  rw [Int64.le_iff_toInt_le] at hle
  cases httl : limits.ttlSecs with
  | none => simp [keeps, httl]
  | some ttl =>
    simp only [keeps, httl, decide_eq_true_eq] at h ⊢
    omega

end Limits

end RowRelay
