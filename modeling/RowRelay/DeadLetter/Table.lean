import RowRelay.Bytes

/-!
# Tables of bytes

A table maps byte strings to byte strings and is kept in the order of its keys, which is that of
their bytes from the first on. `Table.put` keeps the order, so that the first entry is the one
with the least key.
-/

set_option autoImplicit false

namespace RowRelay

/-- Entries in strictly ascending order of their keys. -/
structure Table where
  entries : List (Bytes × Bytes)
  ascending : entries.Pairwise (fun a b => a.1 < b.1)

namespace Table

/-! ## Inserting -/

/-- Sets the value of a key among ascending entries. -/
def putIn (key value : Bytes) : List (Bytes × Bytes) → List (Bytes × Bytes)
  | [] => [(key, value)]
  | (k, v) :: rest =>
    if key < k then (key, value) :: (k, v) :: rest
    else if key = k then (key, value) :: rest
    else (k, v) :: putIn key value rest

theorem lt_of_not_le {a b : Bytes} (h : ¬ a < b) (hne : a ≠ b) : b < a :=
  Decidable.byContradiction fun hba => hne (List.le_antisymm (List.not_lt.1 hba) (List.not_lt.1 h))

theorem mem_putIn {key value : Bytes} {e : Bytes × Bytes} {es : List (Bytes × Bytes)}
    (h : e ∈ putIn key value es) : e = (key, value) ∨ e ∈ es := by
  induction es with
  | nil => simpa [putIn] using h
  | cons kv rest ih =>
    obtain ⟨k, v⟩ := kv
    simp only [putIn] at h
    split at h
    · simpa using h
    · split at h
      · rcases List.mem_cons.1 h with h | h
        · exact .inl h
        · exact .inr (List.mem_cons_of_mem _ h)
      · rcases List.mem_cons.1 h with h | h
        · exact .inr (h ▸ List.mem_cons_self)
        · exact (ih h).imp_right (List.mem_cons_of_mem _)

theorem putIn_ascending {key value : Bytes} {es : List (Bytes × Bytes)}
    (h : es.Pairwise (fun a b => a.1 < b.1)) :
    (putIn key value es).Pairwise (fun a b => a.1 < b.1) := by
  induction es with
  | nil => exact List.pairwise_singleton _ _
  | cons kv rest ih =>
    obtain ⟨k, v⟩ := kv
    obtain ⟨hk, hrest⟩ := List.pairwise_cons.1 h
    simp only [putIn]
    split
    · next hlt =>
      refine List.pairwise_cons.2 ⟨fun e he => ?_, h⟩
      rcases List.mem_cons.1 he with he | he
      · exact he ▸ hlt
      · exact List.lt_trans hlt (hk e he)
    · next hlt =>
      split
      · next heq => exact List.pairwise_cons.2 ⟨fun e he => heq ▸ hk e he, hrest⟩
      · next hne =>
        refine List.pairwise_cons.2 ⟨fun e he => ?_, ih hrest⟩
        rcases mem_putIn he with he | he
        · exact he ▸ lt_of_not_le hlt hne
        · exact hk e he

/-! ## Operations -/

def empty : Table :=
  ⟨[], .nil⟩

instance : Inhabited Table := ⟨empty⟩

def size (t : Table) : Nat :=
  t.entries.length

/-- Sets the value of a key. -/
def put (t : Table) (key value : Bytes) : Table :=
  ⟨putIn key value t.entries, putIn_ascending t.ascending⟩

/-- Removes the `n` entries with the least keys. -/
def dropLeast (t : Table) (n : Nat) : Table :=
  ⟨t.entries.drop n, t.ascending.sublist (List.drop_sublist n _)⟩

/-- Keeps the entries that pass a test. -/
def filter (t : Table) (keep : Bytes × Bytes → Bool) : Table :=
  ⟨t.entries.filter keep, t.ascending.sublist List.filter_sublist⟩

end Table

end RowRelay
