import RowRelay.Json.Parse
import RowRelay.Proofs.Json.Reading
import RowRelay.Proofs.Json.Settled

/-!
# Reading values

`TextOf v bs`: the bytes render the value `v`, an object as the list of its members. Blanks stand
wherever the grammar allows them and strings have any spelling. The reader takes every such text for
what the value comes to when the last member of each key counts (`reads_value`), as long as the
value is nested no deeper than allowed and has whole numbers of 64 bits (`Fits`). What is written
for a value is one of its texts (`textOf_write`), and so it is read back (`parse_render`).
-/

set_option autoImplicit false

namespace RowRelay.Json

open Utf8 (encode)

/-! ## The texts of a value -/

mutual

def TextOf : Value → Bytes → Prop
  | .null, bs => bs = Bytes.ofAscii "null"
  | .bool true, bs => bs = Bytes.ofAscii "true"
  | .bool false, bs => bs = Bytes.ofAscii "false"
  | .number (.int n), bs => bs = encode (writeInt n)
  | .number (.float _), _ => False
  | .string s, bs => StringText s bs
  | .array vs, bs => ∃ texts, TextsOf vs texts ∧ ListText Eq texts bs
  | .object ms, bs => ∃ texts, MemberTextsOf ms texts ∧ ObjectText texts bs

/-- The texts render the values one by one. -/
def TextsOf : List Value → List Bytes → Prop
  | [], [] => True
  | v :: vs, bs :: texts => TextOf v bs ∧ TextsOf vs texts
  | _, _ => False

/-- The same keys with texts that render the values one by one. -/
def MemberTextsOf : List (String × Value) → List (String × Bytes) → Prop
  | [], [] => True
  | (key, v) :: ms, (key', bs) :: texts => key = key' ∧ TextOf v bs ∧ MemberTextsOf ms texts
  | _, _ => False

end

mutual

/-- At most so many arrays and objects lie inside one another, and all numbers are whole ones of 64
bits. -/
def Value.Fits : Value → (depth : Nat) → Prop
  | .null, _ => True
  | .bool _, _ => True
  | .number (.int n), _ => Int64.minValue.toInt ≤ n ∧ n < UInt64.size
  | .number (.float _), _ => False
  | .string _, _ => True
  | .array _, 0 => False
  | .array vs, depth + 1 => AllFit vs depth
  | .object _, 0 => False
  | .object ms, depth + 1 => MembersFit ms depth

def AllFit : List Value → (depth : Nat) → Prop
  | [], _ => True
  | v :: vs, depth => v.Fits depth ∧ AllFit vs depth

def MembersFit : List (String × Value) → (depth : Nat) → Prop
  | [], _ => True
  | (_, v) :: ms, depth => v.Fits depth ∧ MembersFit ms depth

end

/-! ## Values without brackets -/

/-- The reader of values that may be nested so deep. -/
abbrev readValue (depth : Nat) : Reader Value := fun n c => value n depth c

theorem value_blanks {ws : Bytes} (hws : Blanks ws) {b : UInt8} (hb : ¬ IsBlank b) (n depth : Nat)
    (tail : Bytes) (p : Position) :
    value (n + 1) depth ⟨ws ++ b :: tail, p⟩ =
      value (n + 1) depth ⟨b :: tail, ws.foldl Position.step p⟩ := by
  have hblanks := Cursor.skipBlanks_cons hws hb tail p
  have hnone := Cursor.skipBlanks_cons blanks_nil hb tail (ws.foldl Position.step p)
  simp only [List.nil_append, List.foldl_nil] at hnone
  simp only [value, hblanks, hnone]

theorem reads_of_first {depth : Nat} {b : UInt8} {tail : Bytes} {v : Value} (hb : ¬ IsBlank b)
    (h : ∀ {m : Nat} {rest : Bytes} (p : Position), 2 * tail.length < m → Ends rest →
      ∃ q, value (m + 1) depth ⟨b :: (tail ++ rest), p⟩ = .ok (v, ⟨rest, q⟩)) :
    Reads (readValue depth) (b :: tail) v := by
  intro n ws rest p hn hws hrest
  rw [List.length_cons] at hn
  obtain ⟨m, rfl⟩ : ∃ m, n = m + 1 := ⟨n - 1, by omega⟩
  obtain ⟨q, hq⟩ := h (m := m) (ws.foldl Position.step p) (by omega) hrest
  refine ⟨q, ?_⟩
  rw [List.cons_append, readValue, value_blanks hws hb, hq]

theorem reads_word {depth : Nat} {b : UInt8} {tail : Bytes} {v : Value} (hb : ¬ IsBlank b)
    (h : ∀ m rest p, value (m + 1) depth ⟨b :: rest, p⟩ =
      (word tail ⟨rest, p.step b⟩).bind fun c => .ok (v, c)) :
    Reads (readValue depth) (b :: tail) v := by
  refine reads_of_first hb fun {m rest} p _ _ => ?_
  obtain ⟨q, hq⟩ := word_text tail rest (p.step b)
  refine ⟨q, ?_⟩
  rw [h, hq]
  rfl

theorem reads_number {depth : Nat} {i : Int} (hlow : Int64.minValue.toInt ≤ i)
    (hhigh : i < UInt64.size) :
    Reads (readValue depth) (encode (writeInt i)) (.number (.int i)) := by
  obtain ⟨b, tail, hbs, hfirst, hnumber⟩ := number_writeInt hlow hhigh
  rw [hbs]
  refine reads_of_first (not_isBlank_number hfirst) fun {m rest} p _ hrest => ?_
  obtain ⟨q, hq⟩ := hnumber hrest p
  refine ⟨q, ?_⟩
  have hskip := Cursor.skipBlanks_cons blanks_nil (not_isBlank_number hfirst) (tail ++ rest) p
  simp only [List.nil_append, List.foldl_nil] at hskip
  rcases hfirst with rfl | hdigit
  · rw [if_pos rfl] at hq
    simp only [value, hskip, Cursor.next?, show (45 : UInt8) ≠ 110 by decide,
      show (45 : UInt8) ≠ 116 by decide, show (45 : UInt8) ≠ 102 by decide, if_false, if_true, hq]
    rfl
  · have hne : ∀ x : UInt8, isDigit x = false → b ≠ x := by
      rintro x hx rfl
      exact Bool.false_ne_true (hx.symm.trans hdigit)
    rw [if_neg (hne 45 rfl), List.cons_append] at hq
    simp only [value, hskip, Cursor.next?, hne 110 rfl, hne 116 rfl, hne 102 rfl, hne 45 rfl,
      hdigit, if_false, if_true, hq]
    rfl

theorem reads_stringValue {depth : Nat} {s : String} {bs : Bytes} (h : StringText s bs) :
    Reads (readValue depth) bs (.string s) := by
  obtain ⟨body, hbody, rfl⟩ := h
  refine reads_of_first (by decide) fun {m rest} p hm _ => ?_
  rw [List.length_append] at hm
  obtain ⟨q, hq⟩ := stringBody_text hbody (show body.length < m by omega) rest (p.step 34)
  refine ⟨q, ?_⟩
  rw [List.append_assoc, List.singleton_append]
  change (stringBody m ⟨body ++ 34 :: rest, p.step 34⟩).bind _ = _
  rw [hq]
  rfl

/-! ## Arrays and objects -/

theorem elements_items {depth : Nat} {texts : List Bytes} {vs : List Value}
    (hread : List.Forall₂ (fun bs v => Starts bs ∧ Reads (readValue depth) bs v) texts vs)
    (rest : Bytes) : ∀ {first : Bool} {body : Bytes} {n : Nat} (p : Position) (seen : List Value),
      ItemsText Eq first texts body → 2 * body.length + 1 < n →
      ∃ q, elements n depth first ⟨body ++ 93 :: rest, p⟩ seen =
        .ok (.array (seen.reverse ++ vs), ⟨rest, q⟩) := by
  induction hread with
  | nil =>
    intro first body n p seen h hn
    obtain ⟨m, rfl⟩ : ∃ m, n = m + 1 := ⟨n - 1, by omega⟩
    cases h with
    | nil hws =>
      obtain ⟨q, hq⟩ := nextElement_close hws first rest p
      refine ⟨q, ?_⟩
      simp only [elements, hq, bind, Except.bind, List.append_nil]
      rfl
  | @cons bs v texts vs hv _ ih =>
    intro first body n p seen h hn
    obtain ⟨m, rfl⟩ : ∃ m, n = m + 1 := ⟨n - 1, by omega⟩
    obtain ⟨hstarts, hreads⟩ := hv
    have hnonempty := hstarts.length_pos
    cases h with
    | @cons _ _ _ lead _ tail hlead hbs htail =>
      subst hbs
      simp only [List.length_append] at hn
      obtain ⟨q₁, hq₁⟩ := nextElement_lead hlead hstarts (tail ++ 93 :: rest) p
      have hends : Ends (tail ++ 93 :: rest) := htail.ends .array rest
      obtain ⟨q₂, hq₂⟩ := hreads (n := m) q₁ (by omega) blanks_nil hends
      obtain ⟨q₃, hq₃⟩ := ih (n := m) q₂ (v :: seen) htail (by omega)
      refine ⟨q₃, ?_⟩
      simp only [List.nil_append] at hq₂
      simp only [List.append_assoc]
      simp only [elements, hq₁, hq₂, hq₃, bind, Except.bind, List.reverse_cons,
        List.append_assoc, List.cons_append, List.nil_append]

theorem members_items {depth : Nat} {texts : List (String × Bytes)} {ms : List (String × Value)}
    (hread : List.Forall₂ (fun m m' => m.1 = m'.1 ∧ Reads (readValue depth) m.2 m'.2) texts ms)
    (rest : Bytes) :
    ∀ {first : Bool} {body : Bytes} {n : Nat} (p : Position) (seen : List (String × Value)),
      ItemsText (MemberText Eq) first texts body → 2 * body.length + 1 < n →
      ∃ q, members n depth first ⟨body ++ 125 :: rest, p⟩ seen =
        .ok (.object (ms.foldl (fun ms (key, v) => Members.insert key v ms) seen), ⟨rest, q⟩) := by
  induction hread with
  | nil =>
    intro first body n p seen h hn
    obtain ⟨m, rfl⟩ : ∃ m, n = m + 1 := ⟨n - 1, by omega⟩
    cases h with
    | nil hws =>
      obtain ⟨q, hq⟩ := nextMember_close hws first rest p
      refine ⟨q, ?_⟩
      simp only [members, hq, bind, Except.bind, List.foldl_nil]
      rfl
  | @cons t m texts ms hm _ ih =>
    intro first body n p seen h hn
    obtain ⟨k, rfl⟩ : ∃ k, n = k + 1 := ⟨n - 1, by omega⟩
    obtain ⟨hkey, hreads⟩ := hm
    obtain ⟨ws, value, tail, c, hws, hvalue, htail, hshorter, hnext, hbody⟩ := h.opened rest p
    obtain ⟨c', q₁, hname, hcolon⟩ := hbody (n := k) (by omega)
    have hends : Ends (tail ++ 125 :: rest) := htail.ends .object rest
    subst hvalue
    obtain ⟨q₂, hq₂⟩ := hreads (n := k) q₁ (by omega) hws hends
    obtain ⟨q₃, hq₃⟩ := ih (n := k) q₂ (Members.insert m.1 m.2 seen) htail (by omega)
    refine ⟨q₃, ?_⟩
    rw [hkey] at hname
    simp only [members, hnext, hname, hcolon, hq₂, hq₃, bind, Except.bind, List.foldl_cons]

theorem reads_array {depth : Nat} {texts : List Bytes} {vs : List Value} {bs : Bytes}
    (hread : List.Forall₂ (fun bs v => Starts bs ∧ Reads (readValue depth) bs v) texts vs)
    (h : ListText Eq texts bs) : Reads (readValue (depth + 1)) bs (.array vs) := by
  obtain ⟨body, hbody, rfl⟩ := h
  refine reads_of_first (by decide) fun {m rest} p hm _ => ?_
  rw [List.length_append, List.length_singleton] at hm
  obtain ⟨q, hq⟩ := elements_items hread rest (p.step 91) [] hbody (show _ < m by omega)
  refine ⟨q, ?_⟩
  rw [List.append_assoc]
  exact hq

theorem reads_object {depth : Nat} {texts : List (String × Bytes)} {ms : List (String × Value)}
    {bs : Bytes}
    (hread : List.Forall₂ (fun m m' => m.1 = m'.1 ∧ Reads (readValue depth) m.2 m'.2) texts ms)
    (h : ObjectText texts bs) :
    Reads (readValue (depth + 1)) bs (.object (Members.ofList ms)) := by
  obtain ⟨body, hbody, rfl⟩ := h
  refine reads_of_first (by decide) fun {m rest} p hm _ => ?_
  rw [List.length_append, List.length_singleton] at hm
  obtain ⟨q, hq⟩ := members_items hread rest (p.step 123) [] hbody (show _ < m by omega)
  refine ⟨q, ?_⟩
  rw [List.append_assoc]
  exact hq

/-! ## All values -/

theorem starts_value : ∀ {v : Value} {depth : Nat} {bs : Bytes}, v.Fits depth → TextOf v bs →
    Starts bs
  | .null, _, _, _, h => h ▸ ⟨110, _, rfl, by decide, by decide⟩
  | .bool true, _, _, _, h => h ▸ ⟨116, _, rfl, by decide, by decide⟩
  | .bool false, _, _, _, h => h ▸ ⟨102, _, rfl, by decide, by decide⟩
  | .number (.int n), _, _, hfits, h => by
    obtain ⟨b, tail, hbs, hfirst, -⟩ := number_writeInt hfits.1 hfits.2
    rw [TextOf] at h
    rw [h, hbs]
    rcases hfirst with rfl | hdigit
    · exact ⟨45, _, rfl, by decide, by decide⟩
    · exact starts_digit hdigit tail
  | .string _, _, _, _, h => (starts_string h).1
  | .array _, _, _, _, ⟨_, _, _, _, h⟩ => h ▸ ⟨91, _, rfl, by decide, by decide⟩
  | .object _, _, _, _, ⟨_, _, _, _, h⟩ => h ▸ ⟨123, _, rfl, by decide, by decide⟩

mutual

/-- **Every text of a value is read as what the value comes to.** -/
theorem reads_value : ∀ {v : Value} {depth : Nat} {bs : Bytes}, v.Fits depth → TextOf v bs →
    Reads (readValue depth) bs v.settle
  | .null, _, _, _, h => h ▸ reads_word (by decide) fun _ _ _ => rfl
  | .bool true, _, _, _, h => h ▸ reads_word (by decide) fun _ _ _ => rfl
  | .bool false, _, _, _, h => h ▸ reads_word (by decide) fun _ _ _ => rfl
  | .number (.int _), _, _, hfits, h => h ▸ reads_number hfits.1 hfits.2
  | .string _, _, _, _, h => reads_stringValue h
  | .array _, _ + 1, _, hfits, ⟨_, htexts, hbs⟩ => reads_array (reads_values hfits htexts) hbs
  | .object _, _ + 1, _, hfits, ⟨_, htexts, hbs⟩ => reads_object (reads_members hfits htexts) hbs

theorem reads_values : ∀ {vs : List Value} {depth : Nat} {texts : List Bytes}, AllFit vs depth →
    TextsOf vs texts → List.Forall₂ (fun bs v => Starts bs ∧ Reads (readValue depth) bs v) texts
      (settleAll vs)
  | [], _, [], _, _ => .nil
  | _ :: _, _, _ :: _, hfits, h =>
    .cons ⟨starts_value hfits.1 h.1, reads_value hfits.1 h.1⟩ (reads_values hfits.2 h.2)

theorem reads_members : ∀ {ms : List (String × Value)} {depth : Nat}
    {texts : List (String × Bytes)}, MembersFit ms depth → MemberTextsOf ms texts →
    List.Forall₂ (fun m m' => m.1 = m'.1 ∧ Reads (readValue depth) m.2 m'.2) texts
      (settleMembers ms)
  | [], _, [], _, _ => .nil
  | (_, _) :: _, _, (_, _) :: _, hfits, h =>
    .cons ⟨h.1.symm, reads_value hfits.1 h.2.1⟩ (reads_members hfits.2 h.2.2)

end

/-- Every whole text of a value is read as what the value comes to. -/
theorem parse_text {v : Value} {bs : Bytes} (hfits : v.Fits maxDepth) (h : FileText TextOf v bs) :
    parse bs = .ok v.settle := by
  obtain ⟨ws, text, ws', hws, htext, hws', rfl⟩ := h
  exact readAll_reads (reads_value hfits htext) hws hws'

/-! ## What is written -/

mutual

/-- **What is written for a value is one of its texts.** -/
theorem textOf_write : ∀ {v : Value} {depth : Nat}, v.Fits depth → TextOf v (encode v.write)
  | .null, _, _ => rfl
  | .bool true, _, _ => rfl
  | .bool false, _, _ => rfl
  | .number (.int _), _, _ => rfl
  | .string s, _, _ => stringText_write s
  | .array vs, _ + 1, hfits => ⟨_, textsOf_write hfits, listText_write vs⟩
  | .object ms, _ + 1, hfits => ⟨_, memberTextsOf_write hfits, objectText_write ms⟩

theorem textsOf_write : ∀ {vs : List Value} {depth : Nat}, AllFit vs depth →
    TextsOf vs (vs.map fun v => encode v.write)
  | [], _, _ => trivial
  | _ :: _, _, hfits => ⟨textOf_write hfits.1, textsOf_write hfits.2⟩

theorem memberTextsOf_write : ∀ {ms : List (String × Value)} {depth : Nat}, MembersFit ms depth →
    MemberTextsOf ms (ms.map fun m => (m.1, encode m.2.write))
  | [], _, _ => trivial
  | (_, _) :: _, _, hfits => ⟨rfl, textOf_write hfits.1, memberTextsOf_write hfits.2⟩

end

theorem fileText_write {v : Value} {depth : Nat} (hfits : v.Fits depth) :
    FileText TextOf v (encode v.write) := by
  refine ⟨[], encode v.write, [], blanks_nil, textOf_write hfits, blanks_nil, ?_⟩
  rw [List.append_nil, List.nil_append]

end RowRelay.Json
