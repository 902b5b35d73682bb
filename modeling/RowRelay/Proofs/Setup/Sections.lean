import RowRelay.Proofs.Except
import RowRelay.Proofs.Json.Members
import RowRelay.Setup.Sections

/-!
# Reading one setting

A section is read setting by setting. A part of what is read that all other settings leave as it is
(`Setting.Keeps`) is in the end what its own setting made it (`Section.readEntries_lookup`), as the
entries of a table name each setting once.
-/

set_option autoImplicit false

namespace RowRelay.Setup

open Json

variable {α β : Type}

/-! ## Settings that keep a part -/

/-- Taking the value of the setting leaves a part of what is read as it is. -/
def Setting.Keeps (s : Setting α) (get : α → β) : Prop :=
  ∀ (a : α) (key : String) (t : Tree) (a' : α), s.set a key t = .ok a' → get a' = get a

theorem keeps_setting {γ : Type} {convert : Conversion γ} {put : α → γ → α} {get : α → β}
    (key : String) (h : ∀ a x, get (put a x) = get a) : (setting key convert put).Keeps get := by
  intro a key t a' hset
  obtain ⟨x, -, rfl⟩ := ok_of_map hset
  exact h a x

theorem Setting.Keeps.take {s : Setting α} {get : α → β} (h : s.Keeps get) {a a' : α} {key : String}
    {t : Tree} (htake : s.take a key t = .ok a') : get a' = get a := by
  unfold Setting.take at htake
  split at htake
  · cases htake
    rfl
  · exact h a key t a' htake

namespace Section

variable {sec : Section α} {get : α → β} {key parent : String} {es : List (String × Tree)}

theorem readEntries_keeps (hkeeps : ∀ s ∈ sec.settings, s.key ≠ key → s.Keeps get) :
    ∀ {es : List (String × Tree)} {a a' : α}, (∀ e ∈ es, e.1 ≠ key) →
      sec.readEntries parent es a = .ok a' → get a' = get a := by
  intro es
  induction es with
  | nil =>
    intro a a' _ h
    cases h
    rfl
  | cons e es ih =>
    intro a a' hnone h
    obtain ⟨he, hnone⟩ := List.forall_mem_cons.1 hnone
    rw [readEntries] at h
    split at h
    · exact ih hnone h
    · next s hs =>
      obtain ⟨b, hb, h⟩ := ok_of_bind h
      have hname : s.key = e.1 := by simpa using List.find?_some hs
      rw [ih hnone h, (hkeeps s (List.mem_of_find?_eq_some hs) (hname ▸ he)).take hb]

/-- **A part is what its setting made it** of the value that a table gives. -/
theorem readEntries_lookup (hkeeps : ∀ s ∈ sec.settings, s.key ≠ key → s.Keeps get)
    {s : Setting α} (hs : sec.settings.find? (fun s => s.key == key) = some s)
    (hsorted : es.Pairwise (·.1 < ·.1)) {t : Tree} (ht : es.lookup key = some t) {a a' : α}
    (h : sec.readEntries parent es a = .ok a') :
    ∃ b b', s.take b (keyWithin parent key) t = .ok b' ∧ get a' = get b' := by
  induction es generalizing a with
  | nil => cases ht
  | cons e es ih =>
    obtain ⟨k, t'⟩ := e
    obtain ⟨hk, hsorted⟩ := List.pairwise_cons.1 hsorted
    rw [Members.lookup_cons] at ht
    by_cases hkey : key = k
    · subst hkey
      rw [if_pos rfl] at ht
      cases ht
      rw [readEntries, hs] at h
      obtain ⟨b', hb', h⟩ := ok_of_bind h
      have hnone : ∀ e ∈ es, e.1 ≠ key :=
        fun e he heq => String.lt_irrefl key (heq ▸ hk e he)
      exact ⟨a, b', hb', readEntries_keeps hkeeps hnone h⟩
    · rw [if_neg hkey] at ht
      rw [readEntries] at h
      split at h
      · exact ih hsorted ht h
      · obtain ⟨b, -, h⟩ := ok_of_bind h
        exact ih hsorted ht h

/-- What a table gives goes through the conversion of its setting and is put into its place. -/
theorem read_setting {γ : Type} {convert : Conversion γ} {put : α → γ → α}
    (hkeeps : ∀ s ∈ sec.settings, s.key ≠ key → s.Keeps get)
    (hs : sec.settings.find? (fun s => s.key == key) = some (setting key convert put))
    (hsorted : es.Pairwise (·.1 < ·.1)) {o : Option String} {t : Tree} (hnil : t.isNil = false)
    (ht : es.lookup key = some t) {a a' : α} (h : sec.read a parent (.table o es) = .ok a') :
    ∃ b x, convert (keyWithin parent key) t = .ok x ∧ get a' = get (put b x) := by
  obtain ⟨b, b', hb, hget⟩ := readEntries_lookup hkeeps hs hsorted ht h
  rw [Setting.take, hnil, if_neg Bool.false_ne_true] at hb
  obtain ⟨x, hx, rfl⟩ := ok_of_map hb
  exact ⟨b, x, hx, hget⟩

/-- What a section reads as a text is the text of the scalar that a table gives. -/
theorem read_text {get : α → Option String} {put : α → String → α}
    (hkeeps : ∀ s ∈ sec.settings, s.key ≠ key → s.Keeps get)
    (hs : sec.settings.find? (fun s => s.key == key) = some (setting key text put))
    (hput : ∀ a x, get (put a x) = some x) (hsorted : es.Pairwise (·.1 < ·.1))
    {o o' : Option String} {v : Scalar} {x : String} (hx : v.text? = some x)
    (hv : es.lookup key = some (.scalar o v)) {a a' : α}
    (h : sec.read a parent (.table o' es) = .ok a') : get a' = some x := by
  have hnil : (Tree.scalar o v).isNil = false := by
    cases v with
    | nil => cases hx
    | flag | int | float | text => rfl
  obtain ⟨b, y, hy, hget⟩ := read_setting hkeeps hs hsorted hnil hv h
  rw [text, hx] at hy
  cases hy
  rw [hget, hput]

end Section

end RowRelay.Setup
