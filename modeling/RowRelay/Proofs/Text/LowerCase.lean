import Mathlib.Tactic.ByContra
import RowRelay.Text.Capital

/-!
# Texts that are their own lower case

A text whose lower-case form is a plain word of ASCII is in ASCII itself (`ascii_of_lowerCase`):
nothing beyond ASCII has a letter of such a word as its lower-case form, apart from the Kelvin sign,
which is a `k`. Without capitals it is this word (`eq_of_lowerCase`).
-/

set_option autoImplicit false

namespace RowRelay.Text

/-- A character of ASCII other than `k`. -/
def IsPlain (c : Char) : Prop :=
  0 < c.toNat ∧ c.toNat < 0x80 ∧ c ≠ 'k'

instance (c : Char) : Decidable (IsPlain c) :=
  inferInstanceAs (Decidable (0 < c.toNat ∧ c.toNat < 0x80 ∧ c ≠ 'k'))

theorem isCapital_ascii {c : Char} (h : c.toNat < 0x80) : isCapital c = c.isUpper :=
  if_pos h

/-- All runs beyond ASCII lead beyond ASCII, but for the Kelvin sign. -/
theorem lowerCaseRuns_beyond : ∀ run ∈ lowerCaseRuns, run.2.1 < 0x80 ∨
    (run.1 = 0x212A ∧ run.2.1 = 0x212A ∧ run.2.2.2 = -8383) ∨ 0x80 ≤ run.1 + run.2.2.2 := by
  decide +kernel

theorem toNat_ofNat_or (n : Nat) : (Char.ofNat n).toNat = n ∨ (Char.ofNat n).toNat = 0 := by
  by_cases h : n.isValidChar
  · have hvalid : Char.ofNat n = Char.ofNatAux n h := dif_pos h
    exact .inl (by rw [hvalid]; rfl)
  · have hzero : Char.ofNat n = '\u0000' := dif_neg h
    exact .inr (by rw [hzero]; rfl)

theorem not_isPlain_lowerCaseChar {c : Char} (h : 0x80 ≤ c.toNat) :
    ∃ d ∈ lowerCaseChar c, ¬ IsPlain d := by
  unfold lowerCaseChar
  simp only [Nat.not_lt.2 h, if_false]
  split
  · exact ⟨'\u0307', by simp, by decide⟩
  split
  next run first last step offset hrun =>
    refine ⟨_, List.mem_singleton_self _, fun hplain => ?_⟩
    have hmem := List.mem_of_find?_eq_some hrun
    have hwithin := List.find?_some hrun
    simp only [Bool.and_eq_true, decide_eq_true_eq] at hwithin
    rcases lowerCaseRuns_beyond _ hmem with hlow | ⟨hfirst, hlast, hoffset⟩ | hhigh
    · dsimp only at hlow
      omega
    · dsimp only at hfirst hlast hoffset
      have hkelvin : c.toNat = 0x212A := by omega
      rw [hkelvin, hoffset] at hplain
      revert hplain
      decide
    · dsimp only at hhigh
      obtain ⟨hpositive, hlow, -⟩ := hplain
      have hcode := toNat_ofNat_or (c.toNat + offset).toNat
      omega
  · exact ⟨c, List.mem_singleton_self _, fun hplain => by have := hplain.2.1; omega⟩

/-- A character of ASCII that is no capital stays as it is. -/
theorem lowerCaseAfter_cons {c : Char} (h : c.toNat < 0x80) (hcapital : c.isUpper = false)
    (before cs : List Char) :
    lowerCaseAfter before (c :: cs) = c :: lowerCaseAfter (c :: before) cs := by
  have hsigma : c ≠ 'Σ' := by
    rintro rfl
    exact absurd h (by decide)
  have hlower : c.toLower = c := dif_neg (of_decide_eq_false hcapital)
  rw [lowerCaseAfter, if_neg hsigma, lowerCaseChar, if_pos h, hlower]
  rfl

theorem exists_not_isPlain {c : Char} (h : 0x80 ≤ c.toNat) (before cs : List Char) :
    ∃ d ∈ lowerCaseAfter before (c :: cs), ¬ IsPlain d := by
  rw [lowerCaseAfter]
  split
  · refine ⟨lowerCaseSigma before cs, by simp, fun hplain => ?_⟩
    -- either form of a sigma lies beyond ASCII
    have hsigma := hplain.2.1
    unfold lowerCaseSigma at hsigma
    split at hsigma <;> exact absurd hsigma (by decide)
  · obtain ⟨d, hd, hnot⟩ := not_isPlain_lowerCaseChar h
    exact ⟨d, List.mem_append_left _ hd, hnot⟩

/-- Only characters of ASCII have a plain lower-case form. -/
theorem lowerCaseAfter_ascii {before cs : List Char}
    (hplain : ∀ d ∈ lowerCaseAfter before cs, IsPlain d) : ∀ c ∈ cs, c.toNat < 0x80 := by
  induction cs generalizing before with
  | nil => exact fun _ hc => absurd hc List.not_mem_nil
  | cons c cs ih =>
    refine List.forall_mem_cons.2 ⟨?_, ih fun d hd => hplain d (List.mem_append_right _ hd)⟩
    by_contra h
    obtain ⟨d, hd, hnot⟩ := exists_not_isPlain (Nat.not_lt.1 h) before cs
    exact hnot (hplain d hd)

theorem lowerCaseAfter_eq {before cs : List Char}
    (hplain : ∀ d ∈ lowerCaseAfter before cs, IsPlain d)
    (hcapital : ∀ c ∈ cs, c.isUpper = false) : lowerCaseAfter before cs = cs := by
  have hascii := lowerCaseAfter_ascii hplain
  induction cs generalizing before with
  | nil => rfl
  | cons c cs ih =>
    obtain ⟨hc, hcapital⟩ := List.forall_mem_cons.1 hcapital
    obtain ⟨h, hascii⟩ := List.forall_mem_cons.1 hascii
    rw [lowerCaseAfter_cons h hc] at hplain ⊢
    rw [ih (List.forall_mem_cons.1 hplain).2 hcapital hascii]

section
variable {s word : String} (h : lowerCase s = word) (hplain : ∀ c ∈ word.toList, IsPlain c)
include h hplain

theorem ascii_of_lowerCase : ∀ c ∈ s.toList, c.toNat < 0x80 := by
  rw [← h, lowerCase, String.toList_ofList] at hplain
  exact lowerCaseAfter_ascii hplain

/-- **A text without capitals whose lower-case form is a plain word is this word.** -/
theorem eq_of_lowerCase (hcapital : ∀ c ∈ s.toList, isCapital c = false) : s = word := by
  have hcs : lowerCaseAfter [] s.toList = word.toList := by
    rw [← h, lowerCase, String.toList_ofList]
  have hupper : ∀ c ∈ s.toList, c.isUpper = false := by
    intro c hc
    rw [← isCapital_ascii (ascii_of_lowerCase h hplain c hc), hcapital c hc]
  have hsame := lowerCaseAfter_eq (hcs ▸ hplain) hupper
  exact String.toList_inj.1 (hsame.symm.trans hcs)

end

end RowRelay.Text
