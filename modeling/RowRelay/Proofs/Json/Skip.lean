import RowRelay.Json.Skip
import RowRelay.Proofs.Json.Numeral
import RowRelay.Proofs.Json.Spelling

/-!
# Passing over values

`skip_value`: the reader passes over every value, of any depth and with numbers of any size, and
stops right behind it. The induction goes over the grammar: `Passes` says for a value and for what
follows one inside a bracket what passing over it comes to, and `Spells.passes` that this holds of
every text.
-/

set_option autoImplicit false

namespace RowRelay.Json

/-! ## Blanks -/

namespace Cursor

theorem skipBlanks_blank {w : UInt8} (h : IsBlank w) (bs : Bytes) (p : Position) :
    skipBlanks ⟨w :: bs, p⟩ = skipBlanks ⟨bs, p.step w⟩ :=
  if_pos h

theorem skipBlanks_cons {ws : Bytes} (h : Blanks ws) {b : UInt8} (hb : ¬ IsBlank b) (rest : Bytes) :
    ∀ p, skipBlanks ⟨ws ++ b :: rest, p⟩ = ⟨b :: rest, ws.foldl Position.step p⟩ := by
  induction ws with
  | nil => exact fun p => if_neg hb
  | cons w ws ih =>
    intro p
    rw [List.cons_append, skipBlanks_blank (h w List.mem_cons_self),
      ih fun x hx => h x (List.mem_cons_of_mem _ hx), List.foldl_cons]

theorem skipBlanks_end {ws : Bytes} (h : Blanks ws) :
    ∀ p, skipBlanks ⟨ws, p⟩ = ⟨[], ws.foldl Position.step p⟩ := by
  induction ws with
  | nil => exact fun p => rfl
  | cons w ws ih =>
    intro p
    rw [skipBlanks_blank (h w List.mem_cons_self),
      ih fun x hx => h x (List.mem_cons_of_mem _ hx), List.foldl_cons]

end Cursor

theorem Bracket.not_isBlank_close (bracket : Bracket) : ¬ IsBlank bracket.close := by
  cases bracket <;> decide

theorem Bracket.close_ne_comma (bracket : Bracket) : bracket.close ≠ 44 := by
  cases bracket <;> decide

/-! ## Strings -/

theorem skipString_text {body : Bytes} (h : Letters body) (rest : Bytes) :
    ∀ {n : Nat} (p : Position), body.length < n →
      ∃ q, skipString n ⟨body ++ 34 :: rest, p⟩ = .ok ⟨rest, q⟩ := by
  induction h with
  | nil =>
    intro n p hn
    obtain ⟨m, rfl⟩ : ∃ m, n = m + 1 := ⟨n - 1, by omega⟩
    exact ⟨p.step 34, rfl⟩
  | @plain b bs hlow hquote hbackslash _ ih =>
    intro n p hn
    obtain ⟨m, rfl⟩ : ∃ m, n = m + 1 := ⟨n - 1, by omega⟩
    obtain ⟨q, hq⟩ := ih (p.step b) (show bs.length < m by simpa using hn)
    have hlow' : ¬ b < 32 := Nat.not_lt.2 hlow
    refine ⟨q, ?_⟩
    simp only [skipString, Cursor.next?, List.cons_append, hquote, hbackslash, hlow', if_false, hq]
  | @short c b bs hmem _ ih =>
    intro n p hn
    obtain ⟨m, rfl⟩ : ∃ m, n = m + 1 := ⟨n - 1, by omega⟩
    obtain ⟨q, hq⟩ := ih ((p.step 92).step b) (show bs.length < m by
      simp only [List.length_cons] at hn
      omega)
    obtain ⟨x, hx, -⟩ := shortEscape?_mem hmem
    refine ⟨q, ?_⟩
    rw [← hq]
    simp [skipString, Cursor.next?, skipEscape, hx, bind, Except.bind]
  | @code k ds bs hds _ ih =>
    intro n p hn
    obtain ⟨m, rfl⟩ : ∃ m, n = m + 1 := ⟨n - 1, by omega⟩
    obtain ⟨q₁, hq₁⟩ := hexQuad_text hds (bs ++ 34 :: rest) ((p.step 92).step 117)
    obtain ⟨q, hq⟩ := ih q₁ (show bs.length < m by
      simp only [List.length_cons, List.length_append] at hn
      omega)
    have hletter : shortEscape? 117 = none := rfl
    refine ⟨q, ?_⟩
    rw [← hq]
    simp [skipString, Cursor.next?, skipEscape, hletter, hq₁, bind, Except.bind, Except.map]

/-! ## Numbers -/

theorem skipExponent_text {sign ds : Bytes} {d : UInt8}
    (hsign : sign = [] ∨ sign = [43] ∨ sign = [45]) (hds : AllDigits (d :: ds)) {rest : Bytes}
    (hrest : ∀ b ∈ rest.head?, isDigit b = false) (p : Position) :
    ∃ q, skipExponent ⟨sign ++ d :: ds ++ rest, p⟩ = .ok ⟨rest, q⟩ := by
  have hplus : ¬(d = 43 ∨ d = 45) := by
    have hdigit := hds d List.mem_cons_self
    rintro (rfl | rfl) <;> exact absurd hdigit (by decide)
  obtain ⟨p', hp'⟩ : ∃ p', skipExponent ⟨sign ++ d :: ds ++ rest, p⟩ =
      if (digits ⟨d :: ds ++ rest, p'⟩).1.isEmpty then
        .error (Cursor.fault (Cursor.advance ⟨d :: ds ++ rest, p'⟩) .invalidNumber)
      else .ok (digits ⟨d :: ds ++ rest, p'⟩).2 := by
    rcases hsign with rfl | rfl | rfl
    · exact ⟨p, by simp [skipExponent, hplus]⟩
    · exact ⟨p.step 43, rfl⟩
    · exact ⟨p.step 45, rfl⟩
  obtain ⟨q, hq⟩ := digits_text hds hrest p'
  refine ⟨q, ?_⟩
  rw [hp', hq]
  rfl

/-- What may stand behind the digits of a number: nothing that belongs to it, or its exponent. -/
theorem ExponentText.cases {bs rest : Bytes} (h : ExponentText bs) (hrest : Ends rest) :
    (bs = [] ∨ ∃ e tail, bs = e :: tail ∧ (e = 101 ∨ e = 69) ∧
      ∀ p, ∃ q, skipExponent ⟨tail ++ rest, p⟩ = .ok ⟨rest, q⟩) ∧
    ∀ b ∈ (bs ++ rest).head?, isDigit b = false ∧ b ≠ 46 := by
  have hends : ∀ b ∈ rest.head?, isDigit b = false ∧ b ≠ 46 := by
    intro b hb
    obtain ⟨tail, rfl⟩ := List.head?_eq_some_iff.1 hb
    exact ⟨hrest.not_numeral.1, hrest.not_numeral.2.1⟩
  cases h with
  | none => exact ⟨.inl rfl, hends⟩
  | digits he hsign hds =>
    refine ⟨.inr ⟨_, _, rfl, he, skipExponent_text hsign hds fun b hb => (hends b hb).1⟩, ?_⟩
    rintro b hb
    cases hb
    rcases he with rfl | rfl <;> decide

theorem skipFraction_text {fraction exponent rest : Bytes} (hfraction : FractionText fraction)
    (hexponent : ExponentText exponent) (hrest : Ends rest) (p : Position) :
    ∃ q, skipFraction ⟨fraction ++ (exponent ++ rest), p⟩ = .ok ⟨rest, q⟩ := by
  obtain ⟨hcases, hhead⟩ := hexponent.cases hrest
  cases hfraction with
  | none =>
    rcases hcases with rfl | ⟨e, tail, rfl, he, hskip⟩
    · cases rest with
      | nil => exact ⟨p, rfl⟩
      | cons b rest =>
        obtain ⟨-, hpoint, hletter⟩ := hrest.not_numeral
        exact ⟨p, by simp only [List.nil_append, skipFraction, hpoint, hletter, if_false]⟩
    · obtain ⟨q, hq⟩ := hskip (p.step e)
      have hpoint : e ≠ 46 := by rcases he with rfl | rfl <;> decide
      refine ⟨q, ?_⟩
      simp only [List.nil_append, List.cons_append, skipFraction, hpoint, if_false, he, if_true,
        Cursor.advance, Cursor.next?, hq]
  | @digits d ds hds =>
    obtain ⟨q, hq⟩ := digits_text hds (fun b hb => (hhead b hb).1) (p.step 46)
    rw [List.cons_append] at hq
    rcases hcases with rfl | ⟨e, tail, rfl, he, hskip⟩
    · refine ⟨q, ?_⟩
      simp only [List.nil_append] at hq
      simp only [List.nil_append, List.cons_append, skipFraction, if_true, Cursor.advance,
        Cursor.next?, hq, List.map_cons, List.isEmpty_cons, Bool.false_eq_true, if_false]
      cases rest with
      | nil => rfl
      | cons b rest => exact if_neg hrest.not_numeral.2.2
    · obtain ⟨q', hq'⟩ := hskip (q.step e)
      refine ⟨q', ?_⟩
      simp only [List.cons_append] at hq
      simp only [List.cons_append, skipFraction, if_true, Cursor.advance, Cursor.next?, hq,
        List.map_cons, List.isEmpty_cons, Bool.false_eq_true, if_false, he, hq']

theorem skipNumber_text {whole fraction exponent rest : Bytes} (hwhole : WholeText whole)
    (hfraction : FractionText fraction) (hexponent : ExponentText exponent) (hrest : Ends rest)
    (p : Position) :
    ∃ q, skipNumber ⟨whole ++ (fraction ++ (exponent ++ rest)), p⟩ = .ok ⟨rest, q⟩ := by
  have hhead : ∀ b ∈ (fraction ++ (exponent ++ rest)).head?, isDigit b = false := by
    cases hfraction with
    | none => exact fun b hb => ((hexponent.cases hrest).2 b hb).1
    | digits =>
      rintro b ⟨⟩
      rfl
  cases hwhole with
  | zero =>
    obtain ⟨q, hq⟩ := skipFraction_text hfraction hexponent hrest (p.step 48)
    refine ⟨q, ?_⟩
    rw [← hq]
    generalize fraction ++ (exponent ++ rest) = tail at hhead
    cases tail with
    | nil => rfl
    | cons b tail => simp [skipNumber, Cursor.next?, hhead b rfl]
  | @digits d ds hleast hgreatest hds =>
    have hd : isDigit d = true :=
      isDigit_iff.2 ⟨UInt8.le_trans (by decide : (48 : UInt8) ≤ 49) hleast, hgreatest⟩
    have hzero : d ≠ 48 := by
      rintro rfl
      exact absurd hleast (by decide)
    have hall : AllDigits (d :: ds) := List.forall_mem_cons.2 ⟨isDigit_iff.1 hd, hds⟩
    obtain ⟨q₁, hq₁⟩ := digits_text hall hhead p
    obtain ⟨q, hq⟩ := skipFraction_text hfraction hexponent hrest q₁
    refine ⟨q, ?_⟩
    rw [List.cons_append] at hq₁ ⊢
    simp only [skipNumber, Cursor.next?, hzero, if_false, hd, if_true, hq₁, hq]

/-! ## Keys -/

/-- What stands before a value inside a bracket is passed over but for the last blanks. -/
theorem KeyText.skipKey {bracket : Bracket} {key : Bytes} (h : KeyText bracket key) {n : Nat}
    (hn : key.length ≤ n) (rest : Bytes) (p : Position) :
    ∃ ws q, Blanks ws ∧ bracket.skipKey n ⟨key ++ rest, p⟩ = .ok ⟨ws ++ rest, q⟩ := by
  cases h with
  | array hws => exact ⟨_, p, hws, rfl⟩
  | @object ws ws' ws'' _ hws hkey hws' hws'' =>
    obtain ⟨body, hbody, rfl⟩ := hkey
    obtain ⟨q, hq⟩ := skipString_text hbody (ws' ++ 58 :: (ws'' ++ rest))
      ((ws.foldl Position.step p).step 34) (show body.length < n by
        simp only [List.length_append, List.length_cons] at hn
        omega)
    have hopen := Cursor.skipBlanks_cons hws (show ¬ IsBlank 34 by decide)
      (body ++ 34 :: (ws' ++ 58 :: (ws'' ++ rest))) p
    have hcolon := Cursor.skipBlanks_cons hws' (show ¬ IsBlank 58 by decide) (ws'' ++ rest) q
    refine ⟨ws'', (ws'.foldl Position.step q).step 58, hws'', ?_⟩
    simp [Bracket.skipKey, Cursor.next?, hopen, hq, hcolon, bind, Except.bind, pure, Except.pure]

/-- Behind an opening bracket, a key shows by its first byte that the bracket is not closed. -/
theorem KeyText.first {bracket : Bracket} {key : Bytes} (h : KeyText bracket key) :
    ∃ ws key', key = ws ++ key' ∧ Blanks ws ∧ KeyText bracket key' ∧
      (bracket = .array ∧ key' = [] ∨ bracket = .object ∧ ∃ tail, key' = 34 :: tail) := by
  cases h with
  | array hws => exact ⟨_, [], (List.append_nil _).symm, hws, .array blanks_nil, .inl ⟨rfl, rfl⟩⟩
  | object hws hkey hws' hws'' =>
    refine ⟨_, _, rfl, hws, .object blanks_nil hkey hws' hws'', .inr ⟨rfl, ?_⟩⟩
    obtain ⟨body, -, rfl⟩ := hkey
    exact ⟨_, rfl⟩

/-! ## Values -/

/-- The first byte is no blank and does not close an array. -/
def Starts (bs : Bytes) : Prop :=
  ∃ b tail, bs = b :: tail ∧ ¬ IsBlank b ∧ b ≠ 93

theorem Starts.length_pos {bs : Bytes} (h : Starts bs) : 0 < bs.length := by
  obtain ⟨b, tail, rfl, -⟩ := h
  exact Nat.succ_pos _

theorem not_isBlank_digit {d : UInt8} (h : isDigit d = true) : ¬ IsBlank d := by
  rintro (rfl | rfl | rfl | rfl) <;> cases h

theorem starts_digit {d : UInt8} (h : isDigit d = true) (bs : Bytes) : Starts (d :: bs) := by
  refine ⟨d, bs, rfl, not_isBlank_digit h, ?_⟩
  rintro rfl
  cases h

theorem WholeText.first {bs : Bytes} (h : WholeText bs) :
    ∃ d tail, bs = d :: tail ∧ isDigit d = true := by
  cases h with
  | zero => exact ⟨48, [], rfl, rfl⟩
  | digits hleast hgreatest =>
    have hzero : (48 : UInt8) ≤ 49 := by decide
    exact ⟨_, _, rfl, isDigit_iff.2 ⟨UInt8.le_trans hzero hleast, hgreatest⟩⟩

theorem ValueText.starts {bs : Bytes} (h : ValueText bs) : Starts bs := by
  cases h with
  | null => exact ⟨110, _, rfl, by decide, by decide⟩
  | true => exact ⟨116, _, rfl, by decide, by decide⟩
  | false => exact ⟨102, _, rfl, by decide, by decide⟩
  | number h =>
    obtain ⟨sign, whole, fraction, exponent, hsign, hwhole, -, -, rfl⟩ := h
    obtain ⟨d, tail, rfl, hd⟩ := hwhole.first
    rcases hsign with rfl | rfl
    · exact starts_digit hd _
    · exact ⟨45, _, rfl, by decide, by decide⟩
  | string h =>
    obtain ⟨body, -, rfl⟩ := h
    exact ⟨34, _, rfl, by decide, by decide⟩
  | empty bracket => cases bracket <;> exact ⟨_, _, rfl, by decide, by decide⟩
  | @filled bracket => cases bracket <;> exact ⟨_, _, rfl, by decide, by decide⟩

theorem ends_blanks {ws : Bytes} (hws : Blanks ws) {b : UInt8} (hb : b = 44 ∨ b = 93 ∨ b = 125)
    (rest : Bytes) : Ends (ws ++ b :: rest) := by
  cases ws with
  | nil =>
    rintro _ ⟨⟩
    exact .inr hb
  | cons w ws =>
    rintro _ ⟨⟩
    exact .inl (hws w List.mem_cons_self)

/-- What follows a value inside a bracket does not go on with the value. -/
theorem Spells.ends {bracket : Bracket} {bs : Bytes} (h : Spells (.rest bracket) bs)
    (rest : Bytes) : Ends (bs ++ rest) := by
  cases h with
  | close _ hws =>
    rw [List.append_assoc]
    exact ends_blanks hws (by cases bracket <;> decide) _
  | next hws =>
    rw [List.append_assoc, List.cons_append]
    exact ends_blanks hws (.inl rfl) _

/-- What passing over a text comes to: going on behind it. Each byte costs two calls at most. -/
def Passes : Part → Bytes → Prop
  | .value, bs => ∀ {n : Nat} (open' : List Bracket) {ws rest : Bytes} (p : Position),
      2 * bs.length ≤ n → Blanks ws → Ends rest →
      ∃ m q, n ≤ m + 2 * bs.length ∧
        skip n open' ⟨ws ++ (bs ++ rest), p⟩ = skipRest m open' ⟨rest, q⟩
  | .rest bracket, bs => ∀ {n : Nat} (open' : List Bracket) (rest : Bytes) (p : Position),
      2 * bs.length ≤ n →
      ∃ m q, n ≤ m + 2 * bs.length ∧
        skipRest n (bracket :: open') ⟨bs ++ rest, p⟩ = skipRest m open' ⟨rest, q⟩

theorem skip_blanks {ws : Bytes} (hws : Blanks ws) {b : UInt8} (hb : ¬ IsBlank b) (n : Nat)
    (open' : List Bracket) (tail : Bytes) (p : Position) :
    skip (n + 1) open' ⟨ws ++ b :: tail, p⟩ =
      skip (n + 1) open' ⟨b :: tail, ws.foldl Position.step p⟩ := by
  have hblanks := Cursor.skipBlanks_cons hws hb tail p
  have hnone := Cursor.skipBlanks_cons blanks_nil hb tail (ws.foldl Position.step p)
  simp only [List.nil_append, List.foldl_nil] at hnone
  simp only [skip, hblanks, hnone]

/-- A value without brackets is passed over in one call. -/
theorem passes_scalar {bs : Bytes} (hstarts : Starts bs)
    (h : ∀ {n : Nat} (open' : List Bracket) {rest : Bytes} (p : Position), bs.length ≤ n →
      Ends rest → ∃ q, skip (n + 1) open' ⟨bs ++ rest, p⟩ = skipRest n open' ⟨rest, q⟩) :
    Passes .value bs := by
  intro n open' ws rest p hn hws hrest
  obtain ⟨b, tail, rfl, hb, -⟩ := hstarts
  rw [List.length_cons] at hn
  obtain ⟨m, rfl⟩ : ∃ m, n = m + 1 := ⟨n - 1, by omega⟩
  obtain ⟨q, hq⟩ := h open' (ws.foldl Position.step p) (show (b :: tail).length ≤ m by
    rw [List.length_cons]
    omega) hrest
  refine ⟨m, q, by rw [List.length_cons]; omega, ?_⟩
  rw [List.cons_append, skip_blanks hws hb, ← List.cons_append, hq]

/-- A word is passed over where its first byte tells the reader to look for the others. -/
theorem passes_word {b : UInt8} {tail : Bytes} (hb : ¬ IsBlank b ∧ b ≠ 93)
    (h : ∀ n open' rest p, skip (n + 1) open' ⟨b :: rest, p⟩ =
      (word tail ⟨rest, p.step b⟩).bind (skipRest n open')) :
    Passes .value (b :: tail) := by
  refine passes_scalar ⟨b, tail, rfl, hb⟩ fun {n} open' rest p _ _ => ?_
  obtain ⟨q, hq⟩ := word_text tail rest (p.step b)
  refine ⟨q, ?_⟩
  rw [List.cons_append, h, hq]
  rfl

theorem passes_number {bs : Bytes} (h : NumberText bs) : Passes .value bs := by
  refine passes_scalar (ValueText.starts (.number h)) fun {n} open' rest p _ hrest => ?_
  obtain ⟨sign, whole, fraction, exponent, hsign, hwhole, hfraction, hexponent, rfl⟩ := h
  rcases hsign with rfl | rfl
  · obtain ⟨q, hq⟩ := skipNumber_text hwhole hfraction hexponent hrest p
    obtain ⟨d, tail, rfl, hdigit⟩ := hwhole.first
    have hne : ∀ x : UInt8, isDigit x = false → d ≠ x := by
      rintro x hx rfl
      exact Bool.false_ne_true (hx.symm.trans hdigit)
    have hblank : ¬ (d = 32 ∨ d = 10 ∨ d = 9 ∨ d = 13) := not_isBlank_digit hdigit
    refine ⟨q, ?_⟩
    simp only [List.nil_append, List.append_assoc, List.cons_append] at hq ⊢
    simp only [skip, Cursor.skipBlanks, Cursor.skipBlanksFrom, hblank, if_false, Cursor.next?,
      hne 110 rfl, hne 116 rfl, hne 102 rfl, hne 45 rfl, hdigit, if_true, hq, bind, Except.bind]
  · obtain ⟨q, hq⟩ := skipNumber_text hwhole hfraction hexponent hrest (p.step 45)
    refine ⟨q, ?_⟩
    simp only [List.cons_append, List.nil_append, List.append_assoc]
    change (skipNumber ⟨whole ++ (fraction ++ (exponent ++ rest)), p.step 45⟩).bind _ = _
    rw [hq]
    rfl

theorem passes_string {bs : Bytes} (h : AnyString bs) : Passes .value bs := by
  refine passes_scalar (ValueText.starts (.string h)) fun {n} open' rest p hn _ => ?_
  obtain ⟨body, hbody, rfl⟩ := h
  obtain ⟨q, hq⟩ := skipString_text hbody rest (p.step 34) (show body.length < n by
    simp only [List.length_cons, List.length_append] at hn
    omega)
  refine ⟨q, ?_⟩
  simp only [List.cons_append, List.append_assoc, List.nil_append]
  change (skipString n ⟨body ++ 34 :: rest, p.step 34⟩).bind _ = _
  rw [hq]
  rfl

theorem skip_opening {ws : Bytes} (hws : Blanks ws) (bracket : Bracket) (n : Nat)
    (open' : List Bracket) (tail : Bytes) (p : Position) :
    ∃ q, skip (n + 1) open' ⟨ws ++ bracket.opening :: tail, p⟩ =
      skipOpened n bracket open' ⟨tail, q⟩ := by
  have hb : ¬ IsBlank bracket.opening := by cases bracket <;> decide
  rw [skip_blanks hws hb]
  cases bracket <;> exact ⟨_, rfl⟩

theorem passes_empty (bracket : Bracket) {ws : Bytes} (hws : Blanks ws) :
    Passes .value (bracket.opening :: (ws ++ [bracket.close])) := by
  intro n open' ws' rest p hn hws' _
  simp only [List.length_cons, List.length_append, List.length_nil] at hn
  obtain ⟨m, rfl⟩ : ∃ m, n = m + 2 := ⟨n - 2, by omega⟩
  obtain ⟨q₁, hq₁⟩ := skip_opening hws' bracket (m + 1) open' (ws ++ bracket.close :: rest) p
  have hclose := Cursor.skipBlanks_cons hws bracket.not_isBlank_close rest q₁
  refine ⟨m, (ws.foldl Position.step q₁).step bracket.close, by
    simp only [List.length_cons, List.length_append, List.length_nil]
    omega, ?_⟩
  rw [List.cons_append, List.append_assoc, List.singleton_append, hq₁]
  simp only [skipOpened, hclose, Cursor.next?, if_true]

/-- What is behind an opening bracket that a value stands in: a byte that does not close it, from
which the key is passed over. -/
theorem KeyText.opened {bracket : Bracket} {key bs : Bytes} (h : KeyText bracket key)
    (hstarts : Starts bs) (rest : Bytes) (p : Position) :
    ∃ b tail q, Cursor.skipBlanks ⟨key ++ (bs ++ rest), p⟩ = ⟨b :: tail, q⟩ ∧ b ≠ bracket.close ∧
      ∀ {n : Nat}, key.length ≤ n → ∃ ws q', Blanks ws ∧
        bracket.skipKey n ⟨b :: tail, q⟩ = .ok ⟨ws ++ (bs ++ rest), q'⟩ := by
  obtain ⟨ws, key', rfl, hws, hkey', hcases⟩ := h.first
  rcases hcases with ⟨rfl, rfl⟩ | ⟨rfl, tail, rfl⟩
  · obtain ⟨b, tail, rfl, hb, hclose⟩ := hstarts
    refine ⟨b, tail ++ rest, ws.foldl Position.step p, ?_, hclose, fun _ => ?_⟩
    · rw [List.append_nil]
      exact Cursor.skipBlanks_cons hws hb (tail ++ rest) p
    · exact hkey'.skipKey (Nat.zero_le _) _ _
  · refine ⟨34, tail ++ (bs ++ rest), ws.foldl Position.step p, ?_, by decide, fun hn => ?_⟩
    · rw [List.append_assoc]
      exact Cursor.skipBlanks_cons hws (by decide) (tail ++ (bs ++ rest)) p
    · rw [List.length_append] at hn
      exact hkey'.skipKey (by omega) _ _

/-- A bracket is passed over when the first value in it is and what follows this value is. -/
theorem passes_filled {bracket : Bracket} {key bs tail : Bytes} (hkey : KeyText bracket key)
    (hstarts : Starts bs) (hends : ∀ rest, Ends (tail ++ rest)) (hvalue : Passes .value bs)
    (htail : Passes (.rest bracket) tail) :
    Passes .value (bracket.opening :: (key ++ (bs ++ tail))) := by
  intro n open' ws rest p hn hws _
  simp only [List.length_cons, List.length_append] at hn
  obtain ⟨m, rfl⟩ : ∃ m, n = m + 2 := ⟨n - 2, by omega⟩
  obtain ⟨q₁, hq₁⟩ :=
    skip_opening hws bracket (m + 1) open' (key ++ (bs ++ (tail ++ rest))) p
  obtain ⟨b, x, q₂, hfirst, hclose, hskipKey⟩ := hkey.opened hstarts (tail ++ rest) q₁
  obtain ⟨ws', q₃, hws', hq₃⟩ := hskipKey (show key.length ≤ m by omega)
  obtain ⟨m₁, q₄, hm₁, hq₄⟩ :=
    hvalue (n := m) (bracket :: open') q₃ (by omega) hws' (hends rest)
  obtain ⟨m₂, q₅, hm₂, hq₅⟩ := htail (n := m₁) open' rest q₄ (by omega)
  refine ⟨m₂, q₅, by simp only [List.length_cons, List.length_append]; omega, ?_⟩
  simp only [List.cons_append, List.append_assoc]
  rw [hq₁]
  simp only [skipOpened, hfirst, Cursor.next?, hclose, if_false, hq₃, bind, Except.bind, hq₄, hq₅]

theorem passes_close (bracket : Bracket) {ws : Bytes} (hws : Blanks ws) :
    Passes (.rest bracket) (ws ++ [bracket.close]) := by
  intro n open' rest p hn
  simp only [List.length_append, List.length_cons, List.length_nil] at hn
  obtain ⟨m, rfl⟩ : ∃ m, n = m + 1 := ⟨n - 1, by omega⟩
  have hclose := Cursor.skipBlanks_cons hws bracket.not_isBlank_close rest p
  refine ⟨m, (ws.foldl Position.step p).step bracket.close, by
    simp only [List.length_append, List.length_cons, List.length_nil]
    omega, ?_⟩
  rw [List.append_assoc, List.singleton_append]
  simp only [skipRest, hclose, Cursor.next?, bracket.close_ne_comma, if_false, if_true]

theorem passes_next {bracket : Bracket} {ws key bs tail : Bytes} (hws : Blanks ws)
    (hkey : KeyText bracket key) (hends : ∀ rest, Ends (tail ++ rest))
    (hvalue : Passes .value bs) (htail : Passes (.rest bracket) tail) :
    Passes (.rest bracket) (ws ++ 44 :: (key ++ (bs ++ tail))) := by
  intro n open' rest p hn
  simp only [List.length_append, List.length_cons] at hn
  obtain ⟨m, rfl⟩ : ∃ m, n = m + 1 := ⟨n - 1, by omega⟩
  have hcomma := Cursor.skipBlanks_cons hws (show ¬ IsBlank 44 by decide)
    (key ++ (bs ++ (tail ++ rest))) p
  obtain ⟨ws', q₁, hws', hq₁⟩ := hkey.skipKey (show key.length ≤ m by omega)
    (bs ++ (tail ++ rest)) ((ws.foldl Position.step p).step 44)
  obtain ⟨m₁, q₂, hm₁, hq₂⟩ :=
    hvalue (n := m) (bracket :: open') q₁ (by omega) hws' (hends rest)
  obtain ⟨m₂, q₃, hm₂, hq₃⟩ := htail (n := m₁) open' rest q₂ (by omega)
  refine ⟨m₂, q₃, by simp only [List.length_append, List.length_cons]; omega, ?_⟩
  simp only [List.append_assoc, List.cons_append]
  simp only [skipRest, hcomma, Cursor.next?, if_true, hq₁, bind, Except.bind, hq₂, hq₃]

theorem Spells.passes {part : Part} {bs : Bytes} (h : Spells part bs) : Passes part bs := by
  induction h with
  | null => exact passes_word (by decide) fun _ _ _ _ => rfl
  | true => exact passes_word (by decide) fun _ _ _ _ => rfl
  | false => exact passes_word (by decide) fun _ _ _ _ => rfl
  | number h => exact passes_number h
  | string h => exact passes_string h
  | empty bracket hws => exact passes_empty bracket hws
  | filled hkey hvalue htail ihvalue ihtail =>
    exact passes_filled hkey (ValueText.starts hvalue) htail.ends ihvalue ihtail
  | close bracket hws => exact passes_close bracket hws
  | next hws hkey _ htail ihvalue ihtail => exact passes_next hws hkey htail.ends ihvalue ihtail

/-- **Every value is passed over**, whatever ends it. -/
theorem skip_value {bs : Bytes} (h : ValueText bs) {n : Nat} (hn : 2 * bs.length ≤ n)
    {ws rest : Bytes} (hws : Blanks ws) (hrest : Ends rest) (p : Position) :
    ∃ q, skip n [] ⟨ws ++ (bs ++ rest), p⟩ = .ok ⟨rest, q⟩ := by
  obtain ⟨m, q, -, hq⟩ := h.passes [] p hn hws hrest
  refine ⟨q, ?_⟩
  rw [hq]
  cases m <;> rfl

end RowRelay.Json
