import Mathlib.Tactic.ByContra
import RowRelay.Json.Value

/-!
# Members sorted by key

What setting the value of a key does to sorted members: they stay sorted (`insert_sorted`), the key
has the new value, and every other key has the value it had (`lookup_insert`). So of members in any
order the last one of each key counts (`lookup_ofList`), and members that are sorted already come
out as they are, in whatever order they went in (`ofList_perm`).
-/

set_option autoImplicit false

namespace RowRelay.Json.Members

variable {α : Type}

/-! ## Looking up a key -/

theorem lookup_cons (key key' : String) (x : α) (ms : List (String × α)) :
    ((key, x) :: ms).lookup key' = if key' = key then some x else ms.lookup key' := by
  by_cases h : key' = key
  · simp [h]
  · rw [List.lookup_cons, beq_false_of_ne h, if_neg h]

theorem lookup_map {β : Type} (f : α → β) (key : String) (ms : List (String × α)) :
    (ms.map fun m => (m.1, f m.2)).lookup key = (ms.lookup key).map f := by
  induction ms with
  | nil => rfl
  | cons m ms ih =>
    obtain ⟨k, x⟩ := m
    rw [List.map_cons, lookup_cons, lookup_cons, ih]
    split <;> rfl

theorem mem_of_lookup {key : String} {x : α} {ms : List (String × α)}
    (h : ms.lookup key = some x) : (key, x) ∈ ms := by
  obtain ⟨before, after, rfl, -⟩ := List.lookup_eq_some_iff.1 h
  exact List.mem_append_right _ List.mem_cons_self

theorem mem_keys_iff (key : String) (ms : List (String × α)) :
    key ∈ ms.map (·.1) ↔ (ms.lookup key).isSome := by
  induction ms with
  | nil => simp
  | cons m ms ih =>
    obtain ⟨k, x⟩ := m
    rw [List.map_cons, List.mem_cons, ih, lookup_cons]
    split
    · next h => simp [h]
    · next h => simp [h]

/-! ## Setting one key -/

theorem mem_insert {key : String} {x : α} {m : String × α} {ms : List (String × α)}
    (h : m ∈ insert key x ms) : m = (key, x) ∨ m ∈ ms := by
  induction ms with
  | nil => exact .inl (List.mem_singleton.1 h)
  | cons m' ms ih =>
    unfold insert at h
    split at h
    · exact (List.mem_cons.1 h).imp_right id
    · split at h
      · exact (List.mem_cons.1 h).imp_right (List.mem_cons_of_mem _)
      · rcases List.mem_cons.1 h with rfl | h
        · exact .inr List.mem_cons_self
        · exact (ih h).imp_right (List.mem_cons_of_mem _)

theorem insert_perm {key : String} {ms : List (String × α)} (h : key ∉ ms.map (·.1)) (x : α) :
    (insert key x ms).Perm ((key, x) :: ms) := by
  induction ms with
  | nil => exact .refl _
  | cons m ms ih =>
    rw [List.map_cons, List.mem_cons, not_or] at h
    unfold insert
    split
    · exact .refl _
    · rw [if_neg h.1]
      exact ((ih h.2).cons m).trans (.swap _ _ _)

theorem insert_sorted {ms : List (String × α)} (h : ms.Pairwise (·.1 < ·.1)) (key : String)
    (x : α) : (insert key x ms).Pairwise (·.1 < ·.1) := by
  induction ms with
  | nil => exact List.pairwise_singleton _ _
  | cons m ms ih =>
    obtain ⟨hm, hms⟩ := List.pairwise_cons.1 h
    unfold insert
    split
    · next hlt =>
      refine List.pairwise_cons.2 ⟨fun a ha => ?_, h⟩
      rcases List.mem_cons.1 ha with rfl | ha
      · exact hlt
      · exact String.lt_trans hlt (hm a ha)
    · next hlt =>
      split
      · next heq => exact List.pairwise_cons.2 ⟨fun a ha => heq ▸ hm a ha, hms⟩
      · next hne =>
        refine List.pairwise_cons.2 ⟨fun a ha => ?_, ih hms⟩
        rcases mem_insert ha with rfl | ha
        · exact Std.lt_of_le_of_ne (String.not_lt.1 hlt) (Ne.symm hne)
        · exact hm a ha

/-- **The key has the new value, and every other key the value it had.** -/
theorem lookup_insert (key key' : String) (x : α) (ms : List (String × α)) :
    (insert key x ms).lookup key' = if key' = key then some x else ms.lookup key' := by
  induction ms with
  | nil => exact lookup_cons ..
  | cons m ms ih =>
    obtain ⟨k, y⟩ := m
    unfold insert
    split
    · exact lookup_cons ..
    · split
      · next heq =>
        subst heq
        simp only [lookup_cons]
        split <;> rfl
      · next hne =>
        rw [lookup_cons, lookup_cons, ih]
        by_cases h : key' = k
        · rw [if_pos h, if_neg fun heq => hne (heq.symm.trans h), if_pos h]
        · rw [if_neg h, if_neg h]

/-! ## Members in any order -/

theorem foldl_insert {es : List (String × α)} :
    ∀ ms : List (String × α), ((ms ++ es).map (·.1)).Nodup →
      (es.foldl (fun ms (key, x) => insert key x ms) ms).Perm (ms ++ es) := by
  induction es with
  | nil => exact fun ms _ => by simp
  | cons e es ih =>
    intro ms hnodup
    have hmiddle : (ms ++ e :: es).Perm (e :: (ms ++ es)) := List.perm_middle
    have hnodup' := (hmiddle.map (·.1)).nodup_iff.1 hnodup
    have hnew : e.1 ∉ ms.map (·.1) := by
      intro hmem
      rw [List.map_cons, List.map_append, List.nodup_cons] at hnodup'
      exact hnodup'.1 (List.mem_append_left _ hmem)
    have hinsert : (insert e.1 e.2 ms ++ es).Perm (ms ++ e :: es) :=
      ((insert_perm hnew e.2).append_right es).trans hmiddle.symm
    exact (ih _ ((hinsert.map (·.1)).nodup_iff.2 hnodup)).trans hinsert

theorem foldl_insert_sorted {es : List (String × α)} :
    ∀ {ms : List (String × α)}, ms.Pairwise (·.1 < ·.1) →
      (es.foldl (fun ms (key, x) => insert key x ms) ms).Pairwise (·.1 < ·.1) := by
  induction es with
  | nil => exact fun h => h
  | cons e es ih => exact fun h => ih (insert_sorted h e.1 e.2)

theorem ofList_sorted (es : List (String × α)) : (ofList es).Pairwise (·.1 < ·.1) :=
  foldl_insert_sorted .nil

theorem ofList_perm {es ms : List (String × α)} (h : es.Perm ms)
    (hsorted : ms.Pairwise (·.1 < ·.1)) : ofList es = ms := by
  have hnodup : (es.map (·.1)).Nodup := by
    refine (h.map (·.1)).nodup_iff.2 (List.pairwise_map.2 (hsorted.imp ?_))
    intro a b hlt heq
    exact String.lt_irrefl _ (heq ▸ hlt)
  refine List.Perm.eq_of_pairwise ?_ (ofList_sorted es) hsorted ((foldl_insert [] hnodup).trans h)
  intro a b _ _ hab hba
  exact absurd hba (String.lt_asymm hab)

theorem lookup_foldl_insert (key : String) (es : List (String × α)) :
    ∀ ms : List (String × α), (es.foldl (fun ms (key, x) => insert key x ms) ms).lookup key =
      (es.reverse.lookup key).or (ms.lookup key) := by
  induction es with
  | nil => simp
  | cons e es ih =>
    intro ms
    obtain ⟨k, x⟩ := e
    rw [List.foldl_cons, ih, lookup_insert, List.reverse_cons, List.lookup_append, Option.or_assoc,
      lookup_cons]
    split <;> simp

/-- **Of members in any order the last one of each key counts.** -/
theorem lookup_ofList (key : String) (es : List (String × α)) :
    (ofList es).lookup key = es.reverse.lookup key := by
  simp [ofList, lookup_foldl_insert]

theorem lookup_none_of_lt {key : String} {ms : List (String × α)} (h : ∀ m ∈ ms, key < m.1) :
    ms.lookup key = none := by
  rw [List.lookup_eq_none_iff]
  intro m hm
  exact bne_iff_ne.2 fun heq => String.lt_irrefl _ (heq ▸ h m hm)

theorem lookup_of_mem {m : String × α} {ms : List (String × α)} (h : ms.Pairwise (·.1 < ·.1))
    (hm : m ∈ ms) : ms.lookup m.1 = some m.2 := by
  induction ms with
  | nil => cases hm
  | cons m' ms ih =>
    obtain ⟨hm', hms⟩ := List.pairwise_cons.1 h
    rw [lookup_cons]
    rcases List.mem_cons.1 hm with rfl | hm
    · exact if_pos rfl
    · have hne : m.1 ≠ m'.1 := fun heq => String.lt_irrefl m.1 (heq.symm ▸ hm' m hm)
      rw [if_neg hne, ih hms hm]

theorem eq_of_lookup {ms : List (String × α)} : ∀ {ms' : List (String × α)},
    ms.Pairwise (·.1 < ·.1) → ms'.Pairwise (·.1 < ·.1) →
      (∀ key, ms.lookup key = ms'.lookup key) → ms = ms' := by
  induction ms with
  | nil =>
    intro ms' _ _ h
    cases ms' with
    | nil => rfl
    | cons m' ms' =>
      have hfirst := h m'.1
      rw [lookup_cons, if_pos rfl] at hfirst
      cases hfirst
  | cons m ms ih =>
    intro ms' hsorted hsorted' h
    cases ms' with
    | nil =>
      have hfirst := h m.1
      rw [lookup_cons, if_pos rfl] at hfirst
      cases hfirst
    | cons m' ms' =>
      obtain ⟨k, x⟩ := m
      obtain ⟨k', x'⟩ := m'
      obtain ⟨hk, hms⟩ := List.pairwise_cons.1 hsorted
      obtain ⟨hk', hms'⟩ := List.pairwise_cons.1 hsorted'
      simp only [lookup_cons] at h
      -- the first keys are the same, since neither comes before the other
      have hkey : k = k' := by
        by_contra hne
        rcases Std.lt_trichotomy k k' with hlt | heq | hlt
        · have hnone := lookup_none_of_lt fun m hm => String.lt_trans hlt (hk' m hm)
          have := h k
          rw [if_pos rfl, if_neg hne, hnone] at this
          cases this
        · exact hne heq
        · have hnone := lookup_none_of_lt fun m hm => String.lt_trans hlt (hk m hm)
          have := h k'
          rw [if_pos rfl, if_neg (Ne.symm hne), hnone] at this
          cases this
      subst hkey
      have hvalue : x = x' := by simpa using h k
      have hrest : ms = ms' := ih hms hms' fun key => by
        by_cases hkey : key = k
        · subst hkey
          rw [lookup_none_of_lt hk, lookup_none_of_lt hk']
        · simpa [hkey] using h key
      rw [hvalue, hrest]

end RowRelay.Json.Members
