import RowRelay.Json.Record
import RowRelay.Proofs.Json.Members
import RowRelay.Proofs.Json.Rendering
import RowRelay.Proofs.Json.Skip
import RowRelay.Proofs.Json.Text

/-!
# Reading typed values

`Reads read bs x`: the reader takes the bytes for the value, whatever blanks stand before them and
whatever ends the value behind them, and stops there. Strings in any spelling are read so, and with
a reader of items so are lists (`reads_list`) and maps (`reads_map`), in any rendering.
-/

set_option autoImplicit false

namespace RowRelay.Json

open Utf8 (encode)

variable {α β : Type}

/-- The bytes are read as the value, on a budget of more than two calls for each of them. -/
def Reads (read : Reader α) (bs : Bytes) (x : α) : Prop :=
  ∀ ⦃n : Nat⦄ ⦃ws rest : Bytes⦄ (p : Position), 2 * bs.length < n → Blanks ws → Ends rest →
    ∃ q, read n ⟨ws ++ (bs ++ rest), p⟩ = .ok (x, ⟨rest, q⟩)

theorem Reads.map {read : Reader α} {bs : Bytes} {x : α} (h : Reads read bs x) (f : α → β) {y : β}
    (hy : f x = y) :
    Reads (fun n c => do
      let (x, c) ← read n c
      return (f x, c)) bs y := by
  intro n ws rest p hn hws hrest
  obtain ⟨q, hq⟩ := h p hn hws hrest
  refine ⟨q, ?_⟩
  dsimp only
  rw [hq, ← hy]
  rfl

/-! ## Whole texts -/

/-- A whole text is read when what stands in it between blanks is. -/
theorem readAll_reads {read : Reader α} {x : α} {bs : Bytes} (h : Reads read bs x) {ws ws' : Bytes}
    (hws : Blanks ws) (hws' : Blanks ws') : readAll read (ws ++ (bs ++ ws')) = .ok x := by
  have hends : Ends ws' := fun b hb => .inl (hws' b (List.mem_of_mem_head? hb))
  obtain ⟨q, hq⟩ := h (n := budget (ws ++ (bs ++ ws'))) ⟨1, 0⟩ (by
    simp only [budget, List.length_append]
    omega) hws hends
  rw [readAll, Cursor.ofBytes, hq]
  simp only [bind, Except.bind, Cursor.skipBlanks_end hws']
  rfl

/-! ## Scalars -/

theorem readString_text {s : String} {bs : Bytes} (h : StringText s bs) {n : Nat}
    (hn : bs.length ≤ n) {ws : Bytes} (hws : Blanks ws) (rest : Bytes) (p : Position) :
    ∃ q, readString n ⟨ws ++ (bs ++ rest), p⟩ = .ok (s, ⟨rest, q⟩) := by
  obtain ⟨body, hbody, rfl⟩ := h
  have hquote := Cursor.skipBlanks_cons hws (show ¬ IsBlank 34 by decide) (body ++ 34 :: rest) p
  obtain ⟨q, hq⟩ := stringBody_text hbody (show body.length < n by
    simp only [List.length_cons, List.length_append] at hn
    omega) rest ((ws.foldl Position.step p).step 34)
  refine ⟨q, ?_⟩
  simp only [List.cons_append, List.append_assoc, List.nil_append]
  simp only [readString, hquote, Cursor.next?, hq]

theorem reads_string {s : String} {bs : Bytes} (h : StringText s bs) : Reads readString bs s :=
  fun _ _ rest p hn hws _ => readString_text h (by omega) hws rest p

theorem starts_string {s : String} {bs : Bytes} (h : StringText s bs) :
    Starts bs ∧ bs.head? ≠ some 110 := by
  obtain ⟨body, -, rfl⟩ := h
  exact ⟨⟨34, _, rfl, by decide, by decide⟩, by simp⟩

theorem not_isBlank_number {b : UInt8} (h : b = 45 ∨ isDigit b = true) : ¬ IsBlank b := by
  rcases h with rfl | h
  · decide
  · exact not_isBlank_digit h

theorem reads_int {i least greatest : Int} (hleast : least ≤ i) (hgreatest : i ≤ greatest)
    (hlow : Int64.minValue.toInt ≤ i) (hhigh : i < UInt64.size) (expected : String) :
    Reads (readInt least greatest expected) (encode (writeInt i)) i := by
  intro n ws rest p hn hws hrest
  obtain ⟨b, tail, hbs, hfirst, hnumber⟩ := number_writeInt hlow hhigh
  obtain ⟨q, hq⟩ := hnumber hrest (ws.foldl Position.step p)
  have hskip := Cursor.skipBlanks_cons hws (not_isBlank_number hfirst) (tail ++ rest) p
  refine ⟨q, ?_⟩
  rw [hbs, List.cons_append]
  simp only [readInt, hskip, Cursor.next?]
  rcases hfirst with rfl | hdigit
  · rw [if_pos rfl] at hq
    simp only [if_true, bind, Except.bind, hq, hleast, hgreatest, and_self]
  · have hminus : b ≠ 45 := by
      rintro rfl
      cases hdigit
    rw [if_neg hminus] at hq
    simp only [List.cons_append] at hq
    simp only [hminus, if_false, hdigit, if_true, bind, Except.bind, hq, hleast, hgreatest,
      and_self]

/-! ## Values that may be missing -/

theorem readOption_null {read : Reader α} :
    Reads (readOption read) (Bytes.ofAscii "null") none := by
  intro n ws rest p _ hws _
  have hskip := Cursor.skipBlanks_cons hws (show ¬ IsBlank 110 by decide)
    (Bytes.ofAscii "ull" ++ rest) p
  obtain ⟨q, hq⟩ := word_text (Bytes.ofAscii "ull") rest ((ws.foldl Position.step p).step 110)
  refine ⟨q, ?_⟩
  change readOption read n ⟨ws ++ 110 :: (Bytes.ofAscii "ull" ++ rest), p⟩ = _
  simp only [readOption, hskip, Cursor.next?, hq, bind, Except.bind]
  rfl

/-- A text that is read as a value, and begins otherwise than `null`, is read as this value. -/
theorem readOption_some {read : Reader α} {bs : Bytes} {x : α} (h : Reads read bs x)
    (hstarts : Starts bs) (hnull : bs.head? ≠ some 110) : Reads (readOption read) bs (some x) := by
  intro n ws rest p hn hws hrest
  obtain ⟨b, tail, rfl, hb, -⟩ := hstarts
  have hskip := Cursor.skipBlanks_cons hws hb (tail ++ rest) p
  obtain ⟨q, hq⟩ := h (ws.foldl Position.step p) hn blanks_nil hrest
  have hb : b ≠ 110 := fun h => hnull (congrArg some h)
  refine ⟨q, ?_⟩
  simp only [List.nil_append, List.cons_append] at hq
  simp only [readOption, List.cons_append, hskip, Cursor.next?]
  split
  · next heq =>
    cases heq
    exact absurd rfl hb
  · simp only [bind, Except.bind, hq]
    rfl

/-- **What may be missing is read** when what is there is read, and does not begin like `null`. -/
theorem reads_option {text : α → Bytes → Prop} {read : Reader α}
    (hread : ∀ {x bs}, text x bs → Reads read bs x ∧ Starts bs ∧ bs.head? ≠ some 110)
    {o : Option α} {bs : Bytes} (h : OptionText text o bs) : Reads (readOption read) bs o := by
  cases o with
  | none =>
    obtain rfl : bs = Bytes.ofAscii "null" := h
    exact readOption_null
  | some x =>
    obtain ⟨hreads, hstarts, hnull⟩ := hread h
    exact readOption_some hreads hstarts hnull

/-! ## Lists -/

theorem ItemsText.ends {ι : Type} {text : ι → Bytes → Prop} {is : List ι} {bs : Bytes}
    (h : ItemsText text false is bs) (bracket : Bracket) (rest : Bytes) :
    Ends (bs ++ bracket.close :: rest) := by
  cases h with
  | nil hws => exact ends_blanks hws (by cases bracket <;> decide) _
  | cons hlead =>
    obtain ⟨ws, ws', hws, -, rfl⟩ := hlead
    simp only [List.append_assoc, List.cons_append]
    exact ends_blanks hws (.inl rfl) _

theorem nextElement_close {ws : Bytes} (hws : Blanks ws) (first : Bool) (rest : Bytes)
    (p : Position) : ∃ q, nextElement first ⟨ws ++ 93 :: rest, p⟩ = .ok (.closed ⟨rest, q⟩) := by
  have hclose := Cursor.skipBlanks_cons hws (show ¬ IsBlank 93 by decide) rest p
  refine ⟨(ws.foldl Position.step p).step 93, ?_⟩
  simp only [nextElement, hclose, Cursor.next?, if_true]

theorem nextElement_lead {first : Bool} {lead bs : Bytes} (hlead : LeadText first lead)
    (hstarts : Starts bs) (rest : Bytes) (p : Position) :
    ∃ q, nextElement first ⟨lead ++ (bs ++ rest), p⟩ = .ok (.opened ⟨bs ++ rest, q⟩) := by
  obtain ⟨b, tail, rfl, hb, hclose⟩ := hstarts
  cases first with
  | true =>
    have hskip := Cursor.skipBlanks_cons hlead hb (tail ++ rest) p
    refine ⟨lead.foldl Position.step p, ?_⟩
    simp only [nextElement, List.cons_append, hskip, Cursor.next?, hclose, if_false, if_true]
  | false =>
    obtain ⟨ws, ws', hws, hws', rfl⟩ := hlead
    have hcomma := Cursor.skipBlanks_cons hws (show ¬ IsBlank 44 by decide)
      (ws' ++ b :: (tail ++ rest)) p
    have hskip := Cursor.skipBlanks_cons hws' hb (tail ++ rest) ((ws.foldl Position.step p).step 44)
    refine ⟨ws'.foldl Position.step ((ws.foldl Position.step p).step 44), ?_⟩
    simp only [List.append_assoc, List.cons_append]
    simp only [nextElement, hcomma, hskip, Cursor.next?, hclose, if_false, if_true,
      show (44 : UInt8) ≠ 93 by decide, Bool.false_eq_true]

variable {text : α → Bytes → Prop} {read : Reader α}

theorem readElements_items (hread : ∀ {x bs}, text x bs → Starts bs ∧ Reads read bs x)
    {first : Bool} {xs : List α} {body : Bytes} (h : ItemsText text first xs body) (rest : Bytes) :
    ∀ {n : Nat} (p : Position) (seen : List α), 2 * body.length + 1 < n →
      ∃ q, readElements read n first ⟨body ++ 93 :: rest, p⟩ seen =
        .ok (seen.reverse ++ xs, ⟨rest, q⟩) := by
  induction h with
  | @nil first _ hws =>
    intro n p seen hn
    obtain ⟨m, rfl⟩ : ∃ m, n = m + 1 := ⟨n - 1, by omega⟩
    obtain ⟨q, hq⟩ := nextElement_close hws first rest p
    refine ⟨q, ?_⟩
    simp only [readElements, hq, bind, Except.bind, List.append_nil]
    rfl
  | @cons first x xs lead bs tail hlead hx htail ih =>
    intro n p seen hn
    obtain ⟨m, rfl⟩ : ∃ m, n = m + 1 := ⟨n - 1, by omega⟩
    obtain ⟨hstarts, hreads⟩ := hread hx
    have hnonempty := hstarts.length_pos
    simp only [List.length_append] at hn
    obtain ⟨q₁, hq₁⟩ := nextElement_lead hlead hstarts (tail ++ 93 :: rest) p
    have hends : Ends (tail ++ 93 :: rest) := htail.ends .array rest
    obtain ⟨q₂, hq₂⟩ := hreads (n := m) q₁ (by omega) blanks_nil hends
    obtain ⟨q₃, hq₃⟩ := ih (n := m) q₂ (x :: seen) (by omega)
    refine ⟨q₃, ?_⟩
    simp only [List.nil_append] at hq₂
    simp only [List.append_assoc]
    simp only [readElements, hq₁, hq₂, hq₃, bind, Except.bind, List.reverse_cons,
      List.append_assoc, List.cons_append, List.nil_append]

/-- **A list is read** when the items are. -/
theorem reads_list (hread : ∀ {x bs}, text x bs → Starts bs ∧ Reads read bs x) {xs : List α}
    {bs : Bytes} (h : ListText text xs bs) : Reads (readList read) bs xs := by
  intro n ws rest p hn hws _
  obtain ⟨body, hbody, rfl⟩ := h
  simp only [List.length_cons, List.length_append, List.length_nil] at hn
  have hopen := Cursor.skipBlanks_cons hws (show ¬ IsBlank 91 by decide) (body ++ 93 :: rest) p
  obtain ⟨q, hq⟩ := readElements_items hread hbody rest (n := n)
    ((ws.foldl Position.step p).step 91) [] (by omega)
  refine ⟨q, ?_⟩
  simp only [Bracket.opening, Bracket.close, List.cons_append, List.append_assoc, List.nil_append]
  simp only [readList, hopen, Cursor.next?, hq]
  rfl

/-! ## Maps -/

theorem nextMember_close {ws : Bytes} (hws : Blanks ws) (first : Bool) (rest : Bytes)
    (p : Position) : ∃ q, nextMember first ⟨ws ++ 125 :: rest, p⟩ = .ok (.closed ⟨rest, q⟩) := by
  have hclose := Cursor.skipBlanks_cons hws (show ¬ IsBlank 125 by decide) rest p
  refine ⟨(ws.foldl Position.step p).step 125, ?_⟩
  simp only [nextMember, hclose, Cursor.next?, if_true]

theorem nextMember_lead {first : Bool} {lead : Bytes} (hlead : LeadText first lead) (rest : Bytes)
    (p : Position) :
    ∃ q, nextMember first ⟨lead ++ 34 :: rest, p⟩ = .ok (.opened ⟨rest, q⟩) := by
  have hquote : ¬ IsBlank 34 := by decide
  cases first with
  | true =>
    have hskip := Cursor.skipBlanks_cons hlead hquote rest p
    refine ⟨(lead.foldl Position.step p).step 34, ?_⟩
    simp only [nextMember, hskip, Cursor.next?, if_true, if_false,
      show (34 : UInt8) ≠ 125 by decide]
  | false =>
    obtain ⟨ws, ws', hws, hws', rfl⟩ := hlead
    have hcomma := Cursor.skipBlanks_cons hws (show ¬ IsBlank 44 by decide) (ws' ++ 34 :: rest) p
    have hskip := Cursor.skipBlanks_cons hws' hquote rest ((ws.foldl Position.step p).step 44)
    refine ⟨(ws'.foldl Position.step ((ws.foldl Position.step p).step 44)).step 34, ?_⟩
    simp only [List.append_assoc, List.cons_append]
    simp only [nextMember, hcomma, hskip, Cursor.next?, if_false, if_true,
      show (44 : UInt8) ≠ 125 by decide, Bool.false_eq_true]

/-- At the first of some members, its key is read and then its colon. What is left of it are blanks
and the text of its value, and behind it stand the other members. -/
theorem ItemsText.opened {m : String × α} {ms : List (String × α)} {first : Bool} {body : Bytes}
    (h : ItemsText (MemberText text) first (m :: ms) body) (rest : Bytes) (p : Position) :
    ∃ ws value tail c, Blanks ws ∧ text m.2 value ∧ ItemsText (MemberText text) false ms tail ∧
      value.length + tail.length < body.length ∧
      nextMember first ⟨body ++ 125 :: rest, p⟩ = .ok (.opened c) ∧
      ∀ {n : Nat}, body.length ≤ n → ∃ c' q, stringBody n c = .ok (m.1, c') ∧
        colon c' = .ok ⟨ws ++ (value ++ (tail ++ 125 :: rest)), q⟩ := by
  cases h with
  | @cons _ _ _ lead _ tail hlead hmember htail =>
    obtain ⟨_, ws, ws', value, ⟨key, hkey, rfl⟩, hws, hws', hvalue, rfl⟩ := hmember
    obtain ⟨q, hq⟩ := nextMember_lead hlead
      (key ++ 34 :: (ws ++ 58 :: (ws' ++ (value ++ (tail ++ 125 :: rest))))) p
    refine ⟨ws', value, tail,
      ⟨key ++ 34 :: (ws ++ 58 :: (ws' ++ (value ++ (tail ++ 125 :: rest)))), q⟩, hws', hvalue,
      htail, ?_, ?_, fun {n} hn => ?_⟩
    · simp only [List.length_append, List.length_cons]
      omega
    · simp only [List.append_assoc, List.cons_append, List.nil_append]
      exact hq
    · simp only [List.length_append, List.length_cons] at hn
      obtain ⟨q', hq'⟩ := stringBody_text hkey (show key.length < n by omega)
        (ws ++ 58 :: (ws' ++ (value ++ (tail ++ 125 :: rest)))) q
      have hcolon := Cursor.skipBlanks_cons hws (show ¬ IsBlank 58 by decide)
        (ws' ++ (value ++ (tail ++ 125 :: rest))) q'
      refine ⟨_, (ws.foldl Position.step q').step 58, hq', ?_⟩
      simp only [colon, hcolon, Cursor.next?, if_true]

theorem readEntries_items (hread : ∀ {x bs}, text x bs → Reads read bs x)
    {es : List (String × α)} (rest : Bytes) :
    ∀ {first : Bool} {body : Bytes} {n : Nat} (p : Position) (seen : List (String × α)),
      ItemsText (MemberText text) first es body → 2 * body.length + 1 < n →
      ∃ q, readEntries read n first ⟨body ++ 125 :: rest, p⟩ seen =
        .ok (es.foldl (fun ms (key, x) => Members.insert key x ms) seen, ⟨rest, q⟩) := by
  induction es with
  | nil =>
    intro first body n p seen h hn
    obtain ⟨m, rfl⟩ : ∃ m, n = m + 1 := ⟨n - 1, by omega⟩
    cases h with
    | nil hws =>
      obtain ⟨q, hq⟩ := nextMember_close hws first rest p
      refine ⟨q, ?_⟩
      simp only [readEntries, hq, bind, Except.bind, List.foldl_nil]
      rfl
  | cons e es ih =>
    intro first body n p seen h hn
    obtain ⟨m, rfl⟩ : ∃ m, n = m + 1 := ⟨n - 1, by omega⟩
    obtain ⟨ws, value, tail, c, hws, hvalue, htail, hshorter, hnext, hkey⟩ := h.opened rest p
    obtain ⟨c', q₁, hbody, hcolon⟩ := hkey (n := m) (by omega)
    have hends : Ends (tail ++ 125 :: rest) := htail.ends .object rest
    obtain ⟨q₂, hq₂⟩ := hread hvalue (n := m) q₁ (by omega) hws hends
    obtain ⟨q₃, hq₃⟩ := ih (n := m) q₂ (Members.insert e.1 e.2 seen) htail (by omega)
    refine ⟨q₃, ?_⟩
    simp only [readEntries, hnext, hbody, hcolon, hq₂, hq₃, bind, Except.bind, List.foldl_cons]

/-- **A map is read**, from its entries in any order, when the values are. -/
theorem reads_map (hread : ∀ {x bs}, text x bs → Reads read bs x) {entries : List (String × α)}
    {bs : Bytes} (h : MapText text entries bs) : Reads (readMap read) bs entries := by
  intro n ws rest p hn hws _
  obtain ⟨hsorted, es, hperm, body, hbody, rfl⟩ := h
  simp only [List.length_cons, List.length_append, List.length_nil] at hn
  have hopen := Cursor.skipBlanks_cons hws (show ¬ IsBlank 123 by decide) (body ++ 125 :: rest) p
  obtain ⟨q, hq⟩ := readEntries_items hread rest (n := n) ((ws.foldl Position.step p).step 123) []
    hbody (by omega)
  rw [← Members.ofList, Members.ofList_perm hperm hsorted] at hq
  refine ⟨q, ?_⟩
  simp only [Bracket.opening, Bracket.close, List.cons_append, List.append_assoc, List.nil_append]
  simp only [readMap, hopen, Cursor.next?, hq]

end RowRelay.Json
