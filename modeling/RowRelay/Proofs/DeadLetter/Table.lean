import Mathlib.Data.List.Sort
import RowRelay.DeadLetter.Table

/-!
# Entries of a table

Tables with the same entries are the same (`ext_mem`). What inserting and dropping leave in a table:
a new entry is in it, in the place of one under its key if there was one (`putIn_split`), and an
entry that is dropped lies before all that remain (`mem_or_lt_dropLeast`). Which entries remain is a
matter of how many greater ones there are (`mem_dropLeast_iff`), and of these no more are dropped
than have to be (`le_greater_dropLeast`).
-/

set_option autoImplicit false

namespace RowRelay.Table

variable {key value : Bytes} {es : List (Bytes × Bytes)}

/-- Tables with the same entries are the same, as both are in the order of their keys. -/
theorem ext_mem {t t' : Table} (h : ∀ e, e ∈ t.entries ↔ e ∈ t'.entries) : t = t' := by
  obtain ⟨es, hes⟩ := t
  obtain ⟨es', hes'⟩ := t'
  have : Std.Irrefl fun a b : Bytes × Bytes => a.1 < b.1 := ⟨fun a => List.lt_irrefl a.1⟩
  have : Std.Antisymm fun a b : Bytes × Bytes => a.1 < b.1 :=
    ⟨fun a b hab hba => absurd hba (List.lt_asymm hab)⟩
  rw [mk.injEq]
  exact hes.eq_of_mem_iff hes' h

/-! ## Inserting -/

/-- **Inserting puts one entry in the place of at most one**, which had its key. -/
theorem putIn_split (key value : Bytes) (es : List (Bytes × Bytes)) :
    ∃ before replaced after, es = before ++ replaced ++ after ∧
      putIn key value es = before ++ (key, value) :: after ∧
      (∀ e ∈ replaced, e.1 = key) ∧ replaced.length ≤ 1 := by
  induction es with
  | nil => exact ⟨[], [], [], rfl, rfl, by simp, by simp⟩
  | cons kv rest ih =>
    obtain ⟨k, v⟩ := kv
    unfold putIn
    split
    · exact ⟨[], [], (k, v) :: rest, rfl, rfl, by simp, by simp⟩
    · split
      · next heq => exact ⟨[], [(k, v)], rest, rfl, rfl, by simp [heq], by simp⟩
      · obtain ⟨before, replaced, after, hes, hput, hkey, hone⟩ := ih
        exact ⟨(k, v) :: before, replaced, after, by simp [hes], by simp [hput], hkey, hone⟩

theorem mem_putIn_self (key value : Bytes) (es : List (Bytes × Bytes)) :
    (key, value) ∈ putIn key value es := by
  obtain ⟨before, replaced, after, -, hput, -⟩ := putIn_split key value es
  simp [hput]

theorem mem_putIn_of_ne {e : Bytes × Bytes} (he : e ∈ es) (hne : e.1 ≠ key) :
    e ∈ putIn key value es := by
  obtain ⟨before, replaced, after, rfl, hput, hkey, -⟩ := putIn_split key value es
  have hstays : e ∉ replaced := fun hmem => hne (hkey e hmem)
  simp only [List.mem_append, hstays, or_false] at he
  rw [hput, List.mem_append, List.mem_cons]
  exact he.imp_right .inr

/-- A new key adds an entry. -/
theorem putIn_perm (h : ∀ e ∈ es, e.1 ≠ key) : (putIn key value es).Perm ((key, value) :: es) := by
  obtain ⟨before, replaced, after, rfl, hput, hkey, -⟩ := putIn_split key value es
  have hnone : replaced = [] :=
    List.eq_nil_iff_forall_not_mem.2 fun e he => h e (by simp [he]) (hkey e he)
  rw [hput, hnone, List.append_nil]
  exact List.perm_middle

/-! ## Dropping -/

@[simp] theorem size_dropLeast (t : Table) (n : Nat) : (t.dropLeast n).size = t.size - n :=
  List.length_drop

/-- An entry that is dropped lies before all that remain. -/
theorem mem_or_lt_dropLeast {t : Table} (n : Nat) {e : Bytes × Bytes} (he : e ∈ t.entries) :
    e ∈ (t.dropLeast n).entries ∨ n ≠ 0 ∧ ∀ f ∈ (t.dropLeast n).entries, e.1 < f.1 := by
  have hsplit := t.ascending
  rw [← List.take_append_drop n t.entries] at he hsplit
  rcases List.mem_append.1 he with he | he
  · refine .inr ⟨?_, fun f hf => (List.pairwise_append.1 hsplit).2.2 e he f hf⟩
    rintro rfl
    cases he
  · exact .inl he

/-- **An entry outlasts dropping** if there are less greater ones than entries that remain. -/
theorem mem_dropLeast_iff {t : Table} {e : Bytes × Bytes} (he : e ∈ t.entries) (n : Nat) :
    e ∈ (t.dropLeast n).entries ↔ t.entries.countP (fun f => e.1 < f.1) < t.size - n := by
  obtain ⟨before, after, hsplit⟩ := List.append_of_mem he
  have hascending := t.ascending
  rw [hsplit] at hascending
  obtain ⟨-, hafter, hbefore⟩ := List.pairwise_append.1 hascending
  obtain ⟨hafter, -⟩ := List.pairwise_cons.1 hafter
  have hcount : t.entries.countP (fun f => e.1 < f.1) = after.length := by
    have hless : before.countP (fun f => e.1 < f.1) = 0 := by
      rw [List.countP_eq_zero]
      intro f hf
      simpa using List.le_of_lt (hbefore f hf e List.mem_cons_self)
    have hmore : after.countP (fun f => e.1 < f.1) = after.length := by
      rw [List.countP_eq_length]
      intro f hf
      simpa using hafter f hf
    rw [hsplit, List.countP_append, hless, List.countP_cons, hmore]
    simp
  have hsize : t.size = before.length + (after.length + 1) := by
    rw [size, hsplit, List.length_append, List.length_cons]
  have hdrop : (t.dropLeast n).entries =
      before.drop n ++ (e :: after).drop (n - before.length) := by
    rw [← List.drop_append, ← hsplit]
    rfl
  rw [hcount, hsize, hdrop]
  by_cases hn : n ≤ before.length
  · rw [Nat.sub_eq_zero_of_le hn]
    simp
    omega
  · have hgone : e ∉ after := fun hmem => List.lt_irrefl _ (hafter e hmem)
    obtain ⟨k, rfl⟩ : ∃ k, n = before.length + (k + 1) := ⟨n - before.length - 1, by omega⟩
    simp only [List.drop_eq_nil_of_le (show before.length ≤ before.length + (k + 1) by omega),
      Nat.add_sub_cancel_left, List.drop_succ_cons, List.nil_append]
    refine iff_of_false (fun hmem => hgone (List.mem_of_mem_drop hmem)) ?_
    omega

/-- How many entries lie behind a key. -/
def greater (t : Table) (key : Bytes) : Nat :=
  t.entries.countP fun e => key < e.1

theorem greater_of_forall {t : Table} (h : ∀ e ∈ t.entries, key < e.1) : t.greater key = t.size :=
  List.countP_eq_length.2 fun e he => decide_eq_true (h e he)

theorem greater_put_le (t : Table) (key' key value : Bytes) :
    t.greater key' ≤ (t.put key value).greater key' := by
  obtain ⟨before, replaced, after, hes, hput, hkey, hone⟩ := putIn_split key value t.entries
  have hreplaced : replaced.countP (fun e => key' < e.1) ≤ if key' < key then 1 else 0 := by
    split
    · exact List.countP_le_length.trans hone
    · next hlt =>
      rw [Nat.le_zero, List.countP_eq_zero]
      intro e he
      simpa [hkey e he] using hlt
  have hentries : (t.put key value).entries = before ++ (key, value) :: after := hput
  rw [greater, greater, hentries, hes]
  simp only [List.countP_append, List.countP_cons, decide_eq_true_eq]
  omega

/-- **As many entries stay behind a key** as there were, or as remain in all. -/
theorem le_greater_dropLeast {t : Table} {key : Bytes} {n most : Nat} (hn : n ≤ t.size - most)
    (h : most ≤ t.greater key) : most ≤ (t.dropLeast n).greater key := by
  by_cases hall : ∀ e ∈ (t.dropLeast n).entries, key < e.1
  · have hsize : most ≤ t.size := h.trans List.countP_le_length
    rw [greater_of_forall hall, size_dropLeast]
    omega
  · -- what is dropped lies before an entry that is not behind the key
    obtain ⟨f, hf, hback⟩ : ∃ f ∈ (t.dropLeast n).entries, ¬ key < f.1 := by simpa using hall
    have hsplit := t.ascending
    rw [← List.take_append_drop n t.entries] at hsplit
    have hless : (t.entries.take n).countP (fun e => key < e.1) = 0 := by
      rw [List.countP_eq_zero]
      intro e he
      have hbefore := (List.pairwise_append.1 hsplit).2.2 e he f hf
      simpa using fun hlt => hback (List.lt_trans hlt hbefore)
    rw [greater, ← List.take_append_drop n t.entries, List.countP_append, hless, Nat.zero_add] at h
    exact h

theorem entries_eq_concat {t : Table} {e : Bytes × Bytes} (he : e ∈ t.entries)
    (hlast : ∀ f ∈ t.entries, ¬ e.1 < f.1) : ∃ before, t.entries = before ++ [e] := by
  obtain ⟨before, after, hsplit⟩ := List.append_of_mem he
  have hascending := t.ascending
  rw [hsplit] at hascending
  have hafter := (List.pairwise_cons.1 (List.pairwise_append.1 hascending).2.1).1
  cases after with
  | nil => exact ⟨before, hsplit⟩
  | cons f after =>
    have hf : f ∈ t.entries := by simp [hsplit]
    exact absurd (hafter f List.mem_cons_self) (hlast f hf)

end RowRelay.Table
