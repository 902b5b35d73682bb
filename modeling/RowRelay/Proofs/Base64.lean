import RowRelay.Base64
import RowRelay.Proofs.Text.Utf8

/-!
# Reading Base64 back

`decode_encode`: what is written for bytes is read as these bytes, group by group. No symbol is
blank, so the blanks around what is written can be told from it (`decodeText_text`).
-/

set_option autoImplicit false

namespace RowRelay.Text

theorem dropWhile_of_not_blank {cs : List Char} (hcs : ∀ c ∈ cs, isBlank c = false) :
    cs.dropWhile isBlank = cs := by
  cases cs with
  | nil => rfl
  | cons c cs => rw [List.dropWhile_cons_of_neg (by simp [hcs c List.mem_cons_self])]

theorem trim_blanks {ws cs ws' : List Char} (hws : ∀ c ∈ ws, isBlank c = true)
    (hcs : ∀ c ∈ cs, isBlank c = false) (hws' : ∀ c ∈ ws', isBlank c = true) :
    trim (ws ++ (cs ++ ws')) = cs := by
  rw [trim, List.dropWhile_append_of_pos hws]
  cases cs with
  | nil =>
    have hnone : (ws' ++ []).dropWhile isBlank = [] := List.dropWhile_append_of_pos hws'
    rw [List.append_nil] at hnone
    rw [List.nil_append, hnone]
    rfl
  | cons c cs =>
    have hfirst : ¬ isBlank c = true := by simp [hcs c List.mem_cons_self]
    have hback : ∀ d ∈ (c :: cs).reverse, isBlank d = false :=
      fun d hd => hcs d (List.mem_reverse.1 hd)
    rw [List.cons_append, List.dropWhile_cons_of_neg hfirst, ← List.cons_append,
      List.reverse_append,
      List.dropWhile_append_of_pos fun d hd => hws' d (List.mem_reverse.1 hd),
      dropWhile_of_not_blank hback, List.reverse_reverse]

end RowRelay.Text

namespace RowRelay.Base64

/-! ## Symbols -/

theorem value?_symbol {v : Nat} (h : v < 64) : value? (symbol v) = some v := by
  have hall : ∀ v < 64, value? (symbol v) = some v := by decide +kernel
  exact hall v h

theorem symbol_ne_pad {v : Nat} (h : v < 64) : symbol v ≠ pad := by
  intro heq
  have hvalue := value?_symbol h
  rw [heq] at hvalue
  cases hvalue

theorem value_symbol {v : Nat} (h : v < 64) (offset : Nat) :
    value offset (symbol v) = .ok v := by
  rw [value, value?_symbol h]

theorem bytes_of_values (a b c : UInt8) :
    (a.toNat / 4 * 4 + (a.toNat % 4 * 16 + b.toNat / 16) / 16).toUInt8 = a ∧
      ((a.toNat % 4 * 16 + b.toNat / 16) % 16 * 16 +
        (b.toNat % 16 * 4 + c.toNat / 64) / 4).toUInt8 = b ∧
      ((b.toNat % 16 * 4 + c.toNat / 64) % 4 * 64 + c.toNat % 64).toUInt8 = c := by
  have ha := a.toNat_lt
  have hb := b.toNat_lt
  have hc := c.toNat_lt
  have hbyte : ∀ {n : Nat} {x : UInt8}, n = x.toNat → n.toUInt8 = x := by
    rintro _ x rfl
    exact UInt8.ofNat_toNat
  exact ⟨hbyte (by omega), hbyte (by omega), hbyte (by omega)⟩

/-! ## The last group -/

theorem lastGroup_symbol {v : Nat} (h : v < 64) (start i : Nat) (symbols : List (UInt8 × Nat))
    (bs : Bytes) :
    lastGroup start i ⟨symbols, none, 0⟩ (symbol v :: bs) =
      lastGroup start (i + 1) ⟨symbols ++ [(symbol v, v)], none, 0⟩ bs := by
  rw [lastGroup, if_neg (symbol_ne_pad h)]
  simp only [value?_symbol h]

theorem bytes_one {u v : Nat} (a b : UInt8) (first : Option Nat) (start : Nat) (h : v % 16 = 0) :
    Group.bytes ⟨[(a, u), (b, v)], first, 2⟩ start = .ok [(u * 4 + v / 16).toUInt8] := by
  simp [Group.bytes, h]

theorem bytes_two {u v w : Nat} (a b c : UInt8) (first : Option Nat) (start : Nat)
    (h : w % 4 = 0) :
    Group.bytes ⟨[(a, u), (b, v), (c, w)], first, 1⟩ start =
      .ok [(u * 4 + v / 16).toUInt8, (v % 16 * 16 + w / 4).toUInt8] := by
  simp [Group.bytes, h]

theorem bytes_three (u v w x : Nat) (a b c d : UInt8) (first : Option Nat) (start : Nat) :
    Group.bytes ⟨[(a, u), (b, v), (c, w), (d, x)], first, 0⟩ start =
      .ok [(u * 4 + v / 16).toUInt8, (v % 16 * 16 + w / 4).toUInt8, (w % 4 * 64 + x).toUInt8] := by
  simp [Group.bytes]

theorem decodeFrom_one (a : UInt8) (start : Nat) : decodeFrom start (encode [a]) = .ok [a] := by
  have ha := a.toNat_lt
  obtain ⟨hbyte, -, -⟩ := bytes_of_values a 0 0
  have hpads : ∀ symbols : List (UInt8 × Nat),
      lastGroup start 2 ⟨symbols, none, 0⟩ [pad, pad] = .ok ⟨symbols, some 2, 2⟩ := fun _ => rfl
  rw [encode, decodeFrom, lastGroup_symbol (by omega), lastGroup_symbol (by omega), hpads]
  · refine (bytes_one _ _ _ _ (by omega)).trans ?_
    exact congrArg (fun b => Except.ok [b]) hbyte
  · simp

theorem decodeFrom_two (a b : UInt8) (start : Nat) :
    decodeFrom start (encode [a, b]) = .ok [a, b] := by
  have ha := a.toNat_lt
  have hb := b.toNat_lt
  obtain ⟨hbyte, hbyte', -⟩ := bytes_of_values a b 0
  have hpad : ∀ symbols : List (UInt8 × Nat),
      lastGroup start 3 ⟨symbols, none, 0⟩ [pad] = .ok ⟨symbols, some 3, 1⟩ := fun _ => rfl
  rw [encode, decodeFrom, lastGroup_symbol (by omega), lastGroup_symbol (by omega),
    lastGroup_symbol (by omega), hpad]
  · refine (bytes_two _ _ _ _ _ (by omega)).trans ?_
    exact congrArg₂ (fun a b => Except.ok [a, b]) hbyte hbyte'
  · simp

theorem decodeFrom_three (a b c : UInt8) (start : Nat) :
    decodeFrom start (encode [a, b, c]) = .ok [a, b, c] := by
  have ha := a.toNat_lt
  have hb := b.toNat_lt
  have hc := c.toNat_lt
  obtain ⟨hbyte, hbyte', hbyte''⟩ := bytes_of_values a b c
  rw [encode, encode, decodeFrom, lastGroup_symbol (by omega), lastGroup_symbol (by omega),
    lastGroup_symbol (by omega), lastGroup_symbol (by omega)]
  · refine (bytes_three _ _ _ _ _ _ _ _ _ start).trans ?_
    rw [hbyte, hbyte', hbyte'']
  · simp

/-! ## All groups -/

theorem length_encode : ∀ bs : Bytes, (encode bs).length % 4 = 0
  | [] => rfl
  | [_] => by simp [encode]
  | [_, _] => by simp [encode]
  | _ :: _ :: _ :: rest => by
    have hrest := length_encode rest
    rw [encode]
    simp only [List.length_cons]
    omega

theorem encode_ne_nil (b : UInt8) : ∀ bs : Bytes, encode (b :: bs) ≠ []
  | [] => by simp [encode]
  | [_] => by simp [encode]
  | _ :: _ :: _ => by simp [encode]

theorem decodeFrom_encode : ∀ (bs : Bytes) (start : Nat), decodeFrom start (encode bs) = .ok bs
  | [], _ => rfl
  | [a], start => decodeFrom_one a start
  | [a, b], start => decodeFrom_two a b start
  | [a, b, c], start => decodeFrom_three a b c start
  | a :: b :: c :: d :: rest, start => by
    have ha := a.toNat_lt
    have hb := b.toNat_lt
    have hc := c.toNat_lt
    obtain ⟨hbyte, hbyte', hbyte''⟩ := bytes_of_values a b c
    have hrest := decodeFrom_encode (d :: rest) (start + 4)
    obtain ⟨e, es, hes⟩ := List.exists_cons_of_ne_nil (encode_ne_nil d rest)
    rw [hes] at hrest
    rw [encode, hes, decodeFrom, value_symbol (by omega), value_symbol (by omega),
      value_symbol (by omega), value_symbol (by omega), hrest]
    change Except.ok (_ :: _ :: _ :: _) = _
    rw [hbyte, hbyte', hbyte'']

/-- **What is written for bytes is read as these bytes.** -/
theorem decode_encode (bs : Bytes) : decode (encode bs) = .ok bs := by
  unfold decode
  split
  · rw [if_neg, decodeFrom_encode]
    rintro ⟨hlength, -⟩
    rw [length_encode] at hlength
    cases hlength
  · next hnone =>
    have hempty : encode bs = [] := List.getLast?_eq_none_iff.1 hnone
    cases bs with
    | nil => rfl
    | cons b bs => exact absurd hempty (encode_ne_nil b bs)

/-! ## Texts -/

/-- The padded encoding of bytes, as a text. -/
def text (bs : Bytes) : List Char :=
  (encode bs).map fun b => Char.ofNat b.toNat

/-- The byte is a symbol or a pad. -/
def IsSign (b : UInt8) : Prop :=
  b ∈ alphabet ∨ b = pad

theorem isSign_symbol (v : Nat) : IsSign (symbol v) := by
  unfold symbol
  rw [List.getD_eq_getElem?_getD]
  cases h : alphabet[v]? with
  | none => exact .inr rfl
  | some b => exact .inl (List.mem_of_getElem? h)

theorem isSign_encode : ∀ (bs : Bytes), ∀ b ∈ encode bs, IsSign b
  | [] => List.forall_mem_nil _
  | [_] => by
    simp only [encode, List.forall_mem_cons]
    exact ⟨isSign_symbol _, isSign_symbol _, .inr rfl, .inr rfl, List.forall_mem_nil _⟩
  | [_, _] => by
    simp only [encode, List.forall_mem_cons]
    exact ⟨isSign_symbol _, isSign_symbol _, isSign_symbol _, .inr rfl, List.forall_mem_nil _⟩
  | _ :: _ :: _ :: rest => by
    simp only [encode, List.forall_mem_cons]
    exact ⟨isSign_symbol _, isSign_symbol _, isSign_symbol _, isSign_symbol _, isSign_encode rest⟩

/-- A sign is a character of ASCII that is not blank. -/
theorem IsSign.plain {b : UInt8} (h : IsSign b) :
    Utf8.encodeChar (Char.ofNat b.toNat) = [b] ∧ Text.isBlank (Char.ofNat b.toNat) = false := by
  have hall : ∀ b ∈ pad :: alphabet, Utf8.encodeChar (Char.ofNat b.toNat) = [b] ∧
      Text.isBlank (Char.ofNat b.toNat) = false := by decide +kernel
  rcases h with h | rfl
  · exact hall b (List.mem_cons_of_mem _ h)
  · exact hall pad List.mem_cons_self

theorem encode_text (bs : Bytes) : Utf8.encode (text bs) = encode bs := by
  have hall := isSign_encode bs
  unfold text
  generalize encode bs = signs at hall
  induction signs with
  | nil => rfl
  | cons b signs ih =>
    obtain ⟨hb, hsigns⟩ := List.forall_mem_cons.1 hall
    rw [List.map_cons, Utf8.encode, List.flatMap_cons, hb.plain.1, ← Utf8.encode, ih hsigns]
    rfl

theorem text_not_blank (bs : Bytes) : ∀ c ∈ text bs, Text.isBlank c = false := by
  intro c hc
  obtain ⟨b, hb, rfl⟩ := List.mem_map.1 hc
  exact (isSign_encode bs b hb).plain.2

/-- **What is written for bytes is read as these bytes**, also with blanks around it. -/
theorem decodeText_text {data : String} {bs : Bytes} {ws ws' : List Char}
    (hws : ∀ c ∈ ws, Text.isBlank c = true) (hws' : ∀ c ∈ ws', Text.isBlank c = true)
    (h : data.toList = ws ++ (text bs ++ ws')) : decodeText data = .ok bs := by
  rw [decodeText, h, Text.trim_blanks hws (text_not_blank bs) hws', encode_text, decode_encode]

end RowRelay.Base64
