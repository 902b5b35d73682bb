import RowRelay.Proofs.Json.Members
import RowRelay.Setup.Path

/-!
# Values laid over one another

What laying values over a tree does to its tables. They stay sorted, however deep one looks
(`sortedTo_putAll`), so that each key counts once. A scalar laid over a setting of a section is what
the section gives then (`gives_put`), and values that are laid over other places leave it there
(`Gives.putAll`).
-/

set_option autoImplicit false

namespace RowRelay.Setup.Tree

open Json

/-! ## Sorted tables -/

/-- The entries of the tables are sorted by key, at so many levels from the root on. -/
def SortedTo : Nat → Tree → Prop
  | 0, _ => True
  | n + 1, t => t.entries.Pairwise (·.1 < ·.1) ∧ ∀ e ∈ t.entries, SortedTo n e.2

theorem sortedTo_of_entries_nil {t : Tree} (h : t.entries = []) : ∀ n, SortedTo n t
  | 0 => trivial
  | n + 1 => by simp [SortedTo, h]

theorem sortedTo_lookup {n : Nat} {t : Tree} (h : t.SortedTo (n + 1)) (key : String) :
    ((t.entries.lookup key).getD blank).SortedTo n := by
  cases hkey : t.entries.lookup key with
  | none => exact sortedTo_of_entries_nil rfl n
  | some t' => exact h.2 _ (Members.mem_of_lookup hkey)

theorem sortedTo_insert {n : Nat} {t t' : Tree} (h : t.SortedTo (n + 1)) (h' : t'.SortedTo n)
    (key : String) (o : Option String) :
    (Tree.table o (Members.insert key t' t.entries)).SortedTo (n + 1) := by
  refine ⟨Members.insert_sorted h.1 key t', fun e he => ?_⟩
  rcases Members.mem_insert he with rfl | he
  · exact h'
  · exact h.2 e he

theorem sortedTo_overlay : ∀ (n : Nat) {base : Tree}, base.SortedTo n → ∀ t : Tree,
    (base.overlay t).SortedTo n
  | 0, _, _, _ => trivial
  | n + 1, _, _, .scalar _ _ => by simp [overlay, SortedTo, entries]
  | n + 1, _, _, .list _ _ => by simp [overlay, SortedTo, entries]
  | n + 1, base, h, .table o es => by
    have hentries : ∀ (es : List (String × Tree)) {t : Tree}, t.SortedTo (n + 1) →
        (Tree.table base.tableOrigin (overlayEntries t.entries es)).SortedTo (n + 1) := by
      intro es
      induction es with
      | nil => exact fun h => h
      | cons e es ih =>
        intro t h
        have hkey := sortedTo_overlay n (sortedTo_lookup h e.1) e.2
        exact ih (sortedTo_insert h hkey e.1 none)
    rw [overlay]
    exact hentries es h

theorem sortedTo_change {f : Tree → Tree} (hf : ∀ n t, SortedTo n t → (f t).SortedTo n) :
    ∀ (path : Path) (n : Nat) {t : Tree}, t.SortedTo n → (t.change f path).SortedTo n
  | [], n, t, h => hf n t h
  | _ :: _, 0, _, _ => trivial
  | .key name :: path, n + 1, _, h =>
    sortedTo_insert h (sortedTo_change hf path n (sortedTo_lookup h name)) name _
  | .index _ :: _, n + 1, _, _ => sortedTo_of_entries_nil rfl (n + 1)

/-- **Tables stay sorted** whatever is laid over them. -/
theorem sortedTo_putAll (values : List (String × Tree)) {n : Nat} :
    ∀ {t : Tree}, t.SortedTo n → (t.putAll values).SortedTo n := by
  induction values with
  | nil => exact fun h => h
  | cons e values ih =>
    exact fun h => ih (sortedTo_change (fun n t ht => sortedTo_overlay n ht e.2) _ n h)

/-! ## Settings of a section -/

/-- Under the key of a section stands a table, and in it a value under the key of a setting. -/
def Gives (t : Tree) (sectionKey key : String) (v : Tree) : Prop :=
  ∃ o es, t.entries.lookup sectionKey = some (.table o es) ∧ es.lookup key = some v

/-- The path leads into another section, or to another setting. -/
def Apart (sectionKey key : String) : Path → Prop
  | .key a :: .key b :: _ => a ≠ sectionKey ∨ b ≠ key
  | .key a :: _ => a ≠ sectionKey
  | _ => False

instance (sectionKey key : String) (path : Path) : Decidable (Apart sectionKey key path) := by
  unfold Apart
  split <;> infer_instance

variable {t : Tree} {sectionKey key : String} {v : Tree}

theorem gives_put (t : Tree) (sectionKey key : String) (o : Option String) (v : Scalar) :
    (t.put [.key sectionKey, .key key] (.scalar o v)).Gives sectionKey key (.scalar o v) := by
  refine ⟨_, _, (Members.lookup_insert ..).trans (if_pos rfl), ?_⟩
  rw [Members.lookup_insert, if_pos rfl, change, overlay]

theorem Gives.change (h : t.Gives sectionKey key v) {path : Path}
    (hpath : Apart sectionKey key path) (f : Tree → Tree) :
    (t.change f path).Gives sectionKey key v := by
  obtain ⟨o, es, hsection, hkey⟩ := h
  match path, hpath with
  | .key a :: rest, hpath =>
    by_cases ha : sectionKey = a
    · subst ha
      match rest, hpath with
      | .key b :: rest, hpath =>
        have hb : b ≠ key := hpath.resolve_left (absurd rfl)
        refine ⟨_, _, (Members.lookup_insert ..).trans (if_pos rfl), ?_⟩
        rw [Members.lookup_insert, if_neg (Ne.symm hb), get, hsection]
        exact hkey
      | [], hpath => exact absurd rfl hpath
      | .index _ :: _, hpath => exact absurd rfl hpath
    · refine ⟨o, es, ?_, hkey⟩
      exact (Members.lookup_insert ..).trans ((if_neg ha).trans hsection)

/-- **What is given stays where other values are laid over other places.** -/
theorem Gives.putAll (values : List (String × Tree)) :
    ∀ {t : Tree}, t.Gives sectionKey key v →
      (∀ e ∈ values, Apart sectionKey key (.ofName e.1)) →
        (t.putAll values).Gives sectionKey key v := by
  induction values with
  | nil => exact fun h _ => h
  | cons e values ih =>
    intro t h hvalues
    obtain ⟨he, hvalues⟩ := List.forall_mem_cons.1 hvalues
    exact ih (h.change he _) hvalues

theorem putAll_append (t : Tree) (values values' : List (String × Tree)) :
    t.putAll (values ++ values') = (t.putAll values).putAll values' :=
  List.foldl_append

end RowRelay.Setup.Tree
