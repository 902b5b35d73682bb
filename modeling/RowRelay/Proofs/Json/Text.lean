import Mathlib.Tactic.IntervalCases
import RowRelay.Json.Style
import RowRelay.Proofs.Json.Rendering

/-!
# Written texts

What is written for a string spells it (`stringText_write`), since what is written for a character
is one of its spellings: an escape, or the character itself (`charText_write`). What is written for
an array is a text of its elements (`listText_write`), and what is written for an object is one of
its members (`objectText_write`).
-/

set_option autoImplicit false

namespace RowRelay.Json

open Utf8 (encode encodeChar)

/-! ## Strings -/

theorem hexDigit_digitChar {n : Nat} (h : n < 16) :
    ∃ b, encodeChar (Nat.digitChar n) = [b] ∧ HexDigit b n := by
  interval_cases n <;> exact ⟨_, rfl, .inl rfl⟩

theorem charText_control {c : Char} (h : c.toNat < 32) :
    CharText c (encode
      ['\\', 'u', '0', '0', Nat.digitChar (c.toNat / 16), Nat.digitChar (c.toNat % 16)]) := by
  obtain ⟨a, ha, hdigit⟩ := hexDigit_digitChar (show c.toNat / 16 < 16 by omega)
  obtain ⟨b, hb, hdigit'⟩ := hexDigit_digitChar (show c.toNat % 16 < 16 by omega)
  have hzero : HexDigit 48 0 := .inl rfl
  have hquad := HexQuad.digits hzero hzero hdigit hdigit'
  rw [show ((0 * 16 + 0) * 16 + c.toNat / 16) * 16 + c.toNat % 16 = c.toNat by omega] at hquad
  have hbytes : encode ['\\', 'u', '0', '0', Nat.digitChar (c.toNat / 16),
      Nat.digitChar (c.toNat % 16)] = [92, 117, 48, 48, a, b] := by
    simp only [encode, List.flatMap_cons, ha, hb]
    rfl
  rw [hbytes]
  exact .code hquad

theorem charText_write (c : Char) : CharText c (encode (writeChar c)) := by
  unfold writeChar
  split
  · next hc => rcases hc with rfl | rfl <;> exact .short (by decide)
  next hquote =>
  iterate 5
    split
    · next hc =>
      subst hc
      exact .short (by decide)
  split
  · next hlow => exact charText_control hlow
  next hlow =>
  rw [encode, List.flatMap_singleton]
  exact .plain (Nat.not_lt.1 hlow) (fun hc => hquote (.inl hc)) fun hc => hquote (.inr hc)

theorem charsText_write (cs : List Char) : CharsText cs (encode (cs.flatMap writeChar)) := by
  induction cs with
  | nil => exact .nil
  | cons c cs ih =>
    have hsplit : encode ((c :: cs).flatMap writeChar) =
        encode (writeChar c) ++ encode (cs.flatMap writeChar) := by
      simp [encode]
    rw [hsplit]
    exact .cons (charText_write c) ih

theorem stringText_write (s : String) : StringText s (encode (writeString s)) := by
  refine ⟨_, charsText_write s.toList, ?_⟩
  simp only [writeString, encode, List.cons_append, List.flatMap_cons, List.flatMap_append]
  rfl

/-! ## Items in a bracket -/

theorem LeadText.behind_comma {lead : Bytes} (h : LeadText true lead) :
    LeadText false (44 :: lead) :=
  ⟨[], lead, blanks_nil, h, rfl⟩

theorem ItemsText.behind_comma {ι : Type} {text : ι → Bytes → Prop} {i : ι} {is : List ι}
    {bs : Bytes} (h : ItemsText text true (i :: is) bs) :
    ItemsText text false (i :: is) (44 :: bs) := by
  cases h with
  | cons hlead hi his => exact .cons hlead.behind_comma hi his

/-! ## Arrays -/

theorem itemsText_writeElements (vs : List Value) :
    ItemsText Eq true (vs.map fun v => encode v.write) (encode (writeElements vs)) := by
  have hnone : LeadText true [] := blanks_nil
  induction vs with
  | nil => exact .nil blanks_nil
  | cons v vs ih =>
    cases vs with
    | nil =>
      have hone := ItemsText.cons hnone (Eq.refl (encode v.write)) (.nil blanks_nil)
      rwa [List.append_nil] at hone
    | cons w vs =>
      have hwrite : encode (writeElements (v :: w :: vs)) =
          encode v.write ++ 44 :: encode (writeElements (w :: vs)) := by
        simp only [writeElements, encode, List.flatMap_append, List.flatMap_cons]
        rfl
      rw [hwrite]
      exact .cons hnone rfl ih.behind_comma

/-- **What is written for an array is a text of its elements.** -/
theorem listText_write (vs : List Value) :
    ListText Eq (vs.map fun v => encode v.write) (encode (Value.array vs).write) := by
  refine ⟨_, itemsText_writeElements vs, ?_⟩
  simp only [Value.write, encode, List.cons_append, List.flatMap_cons, List.flatMap_append]
  rfl

/-! ## Objects -/

theorem memberText_write (key : String) (bs : Bytes) :
    MemberText Eq (key, bs) (encode (writeString key) ++ 58 :: bs) :=
  ⟨_, [], [], bs, stringText_write key, blanks_nil, blanks_nil, rfl, rfl⟩

theorem itemsText_writeMembers (ms : List (String × Value)) :
    ItemsText (MemberText Eq) true (ms.map fun m => (m.1, encode m.2.write))
      (encode (writeMembers ms)) := by
  have hnone : LeadText true [] := blanks_nil
  induction ms with
  | nil => exact .nil blanks_nil
  | cons m ms ih =>
    have hmember := memberText_write m.1 (encode m.2.write)
    cases ms with
    | nil =>
      have hwrite : encode (writeMembers [m]) =
          encode (writeString m.1) ++ 58 :: encode m.2.write := by
        simp only [writeMembers, encode, List.flatMap_append, List.flatMap_cons]
        rfl
      have hone := ItemsText.cons hnone hmember (.nil blanks_nil)
      rw [hwrite]
      rwa [List.append_nil] at hone
    | cons m' ms =>
      have hwrite : encode (writeMembers (m :: m' :: ms)) =
          (encode (writeString m.1) ++ 58 :: encode m.2.write) ++
            44 :: encode (writeMembers (m' :: ms)) := by
        simp only [writeMembers, encode, List.flatMap_append, List.flatMap_cons]
        rfl
      rw [hwrite]
      exact .cons hnone hmember ih.behind_comma

/-- **What is written for an object is a text of its members.** -/
theorem objectText_write (ms : List (String × Value)) :
    ObjectText (ms.map fun m => (m.1, encode m.2.write)) (encode (Value.object ms).write) := by
  refine ⟨_, itemsText_writeMembers ms, ?_⟩
  simp only [Value.write, encode, List.cons_append, List.flatMap_cons, List.flatMap_append]
  rfl

end RowRelay.Json
