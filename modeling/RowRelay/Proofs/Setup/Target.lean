import RowRelay.Proofs.Except
import RowRelay.Proofs.Json.Members
import RowRelay.Proofs.Setup.Spellings
import RowRelay.Setup.Sections

/-!
# Reading the target

The entries of the target are texts (`TextsOf`), of which the spelling in lower case wins: what a
sorted table gives under one of the four names is what is read (`target_lookup`).
-/

set_option autoImplicit false

namespace RowRelay.Setup

open Json

/-- The texts are those of the entries, under the same keys. -/
def TextsOf (parent : String) (es : List (String × Tree)) (texts : List (String × String)) : Prop :=
  List.Forall₂ (fun e y => y.1 = e.1 ∧ text (keyWithin parent e.1) e.2 = .ok y.2) es texts

section
variable {parent key : String} {es : List (String × Tree)} {texts : List (String × String)}

theorem TextsOf.keys (h : TextsOf parent es texts) : texts.map (·.1) = es.map (·.1) := by
  induction h with
  | nil => rfl
  | cons he _ ih => rw [List.map_cons, List.map_cons, ih, he.1]

theorem TextsOf.sorted (h : TextsOf parent es texts) (hsorted : es.Pairwise (·.1 < ·.1)) :
    texts.Pairwise (·.1 < ·.1) := by
  have hkeys : (es.map (·.1)).Pairwise (· < ·) := List.pairwise_map.2 hsorted
  rw [← h.keys] at hkeys
  exact List.pairwise_map.1 hkeys

theorem TextsOf.lookup (h : TextsOf parent es texts) {o : Option String} {v : Scalar} {x : String}
    (hx : v.text? = some x) (hv : es.lookup key = some (.scalar o v)) :
    texts.lookup key = some x := by
  induction h with
  | nil => cases hv
  | @cons e y es texts he _ ih =>
    obtain ⟨k, t⟩ := e
    obtain ⟨k', s⟩ := y
    obtain ⟨hk, htext⟩ := he
    dsimp only at hk htext
    rw [hk, Members.lookup_cons]
    rw [Members.lookup_cons] at hv
    split at hv
    · next heq =>
      cases hv
      rw [text, hx] at htext
      cases htext
      rw [if_pos heq]
    · next hne => rw [if_neg hne, ih hv]

/-- **What the target has for a name** is the text of the scalar that a table gives. -/
theorem target_lookup {get : TargetDraft → Option String} (h : (key, get) ∈ TargetDraft.names)
    (hsorted : es.Pairwise (·.1 < ·.1)) {o o' : Option String} {v : Scalar} {x : String}
    (hx : v.text? = some x) (hv : es.lookup key = some (.scalar o v)) {d : TargetDraft}
    (hread : target parent (.table o' es) = .ok d) : get d = some x := by
  obtain ⟨texts, htexts, hd⟩ := ok_of_bind hread
  cases hd
  have hall : TextsOf parent es texts := by
    refine (forall₂_of_mapM htexts).imp fun e y hy => ?_
    obtain ⟨s, hs, hy⟩ := ok_of_bind hy
    cases hy
    exact ⟨rfl, hs⟩
  have hlookup := hall.lookup hx hv
  refine TargetDraft.get_ofEntries_exact h (Members.mem_of_lookup hlookup) fun e he hkey => ?_
  have hsame := Members.lookup_of_mem (hall.sorted hsorted) he
  rw [hkey, hlookup] at hsame
  exact (Option.some.inj hsame).symm

end

end RowRelay.Setup
