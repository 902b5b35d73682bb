import RowRelay.Proofs.Json.Reading

/-!
# Reading records

A record is read from the members of an object, in their order: `Filled` follows how they fill in
its fields, and `Filled.reads` says that the reader does so from every text of the members. Where a
shape follows rules (`Follows`), every rendering by the rules fills in the record that it renders
(`Remains.filled`), so that it is read as this record (`reads_record`).
-/

set_option autoImplicit false

namespace RowRelay.Json

variable {α : Type}

/-! ## Members -/

/-- Members fill in a record one after the other, and no field is missing in the end. Those of other
names are passed over. -/
inductive Filled (shape : Shape α) :
    (seen : List String) → α → List (String × Bytes) → α → Prop
  | nil {seen : List String} {x : α} : shape.missing? seen = none → Filled shape seen x [] x
  | field {field : Field α} {key : String} {bs : Bytes} {ms : List (String × Bytes)}
      {seen : List String} {x y z : α} :
      shape.fields.find? (·.name = key) = some field → key ∉ seen → Reads (field.read x) bs y →
      Filled shape (key :: seen) y ms z → Filled shape seen x ((key, bs) :: ms) z
  | other {key : String} {bs : Bytes} {ms : List (String × Bytes)} {seen : List String} {x z : α} :
      shape.fields.find? (·.name = key) = none → ValueText bs →
      Filled shape seen x ms z → Filled shape seen x ((key, bs) :: ms) z

variable {shape : Shape α}

theorem Filled.readMembers {seen : List String} {x y : α} {ms : List (String × Bytes)}
    (h : Filled shape seen x ms y) (rest : Bytes) :
    ∀ {n : Nat} {first : Bool} {body : Bytes} (p : Position),
      ItemsText (MemberText Eq) first ms body → 2 * body.length + 1 < n →
      ∃ q, shape.readMembers n first ⟨body ++ 125 :: rest, p⟩ seen x = .ok (y, ⟨rest, q⟩) := by
  induction h with
  | nil hmissing =>
    intro n first body p hbody hn
    obtain ⟨m, rfl⟩ : ∃ m, n = m + 1 := ⟨n - 1, by omega⟩
    cases hbody with
    | nil hws =>
      obtain ⟨q, hq⟩ := nextMember_close hws first rest p
      refine ⟨q, ?_⟩
      simp only [Shape.readMembers, hq, hmissing, bind, Except.bind]
      rfl
  | @field field key bs ms seen x y z hfind hseen hread _ ih =>
    intro n first body p hbody hn
    obtain ⟨m, rfl⟩ : ∃ m, n = m + 1 := ⟨n - 1, by omega⟩
    obtain ⟨ws, value, tail, c, hws, rfl, htail, hshorter, hnext, hkey⟩ := hbody.opened rest p
    obtain ⟨c', q₁, hname, hcolon⟩ := hkey (n := m) (by omega)
    have hends : Ends (tail ++ 125 :: rest) := htail.ends .object rest
    obtain ⟨q₂, hq₂⟩ := hread (n := m) q₁ (by dsimp only at hshorter; omega) hws hends
    obtain ⟨q₃, hq₃⟩ := ih (n := m) q₂ htail (by omega)
    refine ⟨q₃, ?_⟩
    simp only [Shape.readMembers, hnext, hname, hfind, hseen, if_false, hcolon, hq₂, hq₃, bind,
      Except.bind]
  | @other key bs ms seen x z hfind hvalue _ ih =>
    intro n first body p hbody hn
    obtain ⟨m, rfl⟩ : ∃ m, n = m + 1 := ⟨n - 1, by omega⟩
    obtain ⟨ws, value, tail, c, hws, rfl, htail, hshorter, hnext, hkey⟩ := hbody.opened rest p
    obtain ⟨c', q₁, hname, hcolon⟩ := hkey (n := m) (by omega)
    have hends : Ends (tail ++ 125 :: rest) := htail.ends .object rest
    obtain ⟨q₂, hq₂⟩ := skip_value hvalue (n := m) (by dsimp only at hshorter; omega) hws hends q₁
    obtain ⟨q₃, hq₃⟩ := ih (n := m) q₂ htail (by omega)
    refine ⟨q₃, ?_⟩
    simp only [Shape.readMembers, hnext, hname, hfind, hcolon, hq₂, hq₃, bind, Except.bind]

/-- **A record is read from every text of its members.** -/
theorem Filled.reads {ms : List (String × Bytes)} {x : α} (h : Filled shape [] shape.empty ms x)
    {bs : Bytes} (hbs : ObjectText ms bs) : Reads shape.read bs x := by
  intro n ws rest p hn hws _
  obtain ⟨body, hbody, rfl⟩ := hbs
  simp only [List.length_cons, List.length_append, List.length_nil] at hn
  have hopen := Cursor.skipBlanks_cons hws (show ¬ IsBlank 123 by decide) (body ++ 125 :: rest) p
  obtain ⟨q, hq⟩ := h.readMembers rest (n := n) ((ws.foldl Position.step p).step 123) hbody
    (by omega)
  refine ⟨q, ?_⟩
  simp only [Bracket.opening, Bracket.close, List.cons_append, List.append_assoc, List.nil_append]
  simp only [Shape.read, hopen, Cursor.next?, hq]

/-! ## Rules -/

/-- What a field holds when the fields of the names `seen` were read: its value, or else the value
of an empty record. -/
def shown {β : Type} (seen : List String) (name : String) (value empty : β) : β :=
  if name ∈ seen then value else empty

section

variable {β : Type} {seen : List String} {name other : String} {value empty : β}

@[simp] theorem shown_nil : shown [] name value empty = empty :=
  if_neg List.not_mem_nil

@[simp] theorem shown_self : shown (name :: seen) name value empty = value :=
  if_pos List.mem_cons_self

theorem shown_other (h : name ≠ other) :
    shown (other :: seen) name value empty = shown seen name value empty := by
  simp [shown, h]

theorem shown_full (h : name ∈ seen ∨ value = empty) : shown seen name value empty = value := by
  unfold shown
  split
  · rfl
  · next hunseen => exact (h.resolve_left hunseen).symm

end

/-- A field is read by a rule. `view x seen` is the record that has the fields of `x` whose names
were seen, and is empty in the others. -/
structure Field.Follows (view : α → List String → α) (field : Field α) (rule : Rule α) : Prop where
  name : field.name = rule.name
  required : field.presence = .required → ∀ x, ¬ rule.omittable x
  reads : ∀ {x : α} (seen : List String) {bs : Bytes}, rule.text x bs →
    Reads (field.read (view x seen)) bs (view x (rule.name :: seen))

/-- The fields of a shape are read by rules, and those that may be left out are empty. -/
structure Shape.Follows (shape : Shape α) (rules : List (Rule α)) (view : α → List String → α) :
    Prop where
  empty : ∀ x, view x [] = shape.empty
  fields : List.Forall₂ (Field.Follows view) shape.fields rules
  full : ∀ {x : α} {seen : List String},
    (∀ rule ∈ rules, rule.name ∈ seen ∨ rule.omittable x) → view x seen = x

variable {rules : List (Rule α)} {view : α → List String → α}

theorem names_of_follows {fields : List (Field α)}
    (h : List.Forall₂ (Field.Follows view) fields rules) :
    fields.map (·.name) = rules.map (·.name) := by
  induction h with
  | nil => rfl
  | cons hfield _ ih => rw [List.map_cons, List.map_cons, hfield.name, ih]

theorem rule_of_follows {fields : List (Field α)}
    (h : List.Forall₂ (Field.Follows view) fields rules) {field : Field α} (hmem : field ∈ fields) :
    ∃ rule ∈ rules, field.Follows view rule := by
  induction h with
  | nil => cases hmem
  | @cons _ rule _ _ hfollows _ ih =>
    rcases List.mem_cons.1 hmem with rfl | hmem
    · exact ⟨rule, List.mem_cons_self, hfollows⟩
    · obtain ⟨rule', hrule', hfollows'⟩ := ih hmem
      exact ⟨rule', List.mem_cons_of_mem _ hrule', hfollows'⟩

/-- What is left to read of a record whose fields of the names `seen` were read. -/
structure Remains (rules : List (Rule α)) (x : α) (seen : List String)
    (ms : List (String × Bytes)) : Prop where
  once : ∀ rule ∈ rules, (seen ++ ms.map (·.1)).count rule.name ≤ 1
  present : ∀ rule ∈ rules, rule.name ∈ seen ++ ms.map (·.1) ∨ rule.omittable x
  text : ∀ m ∈ ms, ∀ rule ∈ rules, rule.name = m.1 → rule.text x m.2
  other : ∀ m ∈ ms, m.1 ∉ rules.map (·.name) → ValueText m.2

theorem Renders.remains {x : α} {ms : List (String × Bytes)} (h : Renders rules x ms) :
    Remains rules x [] ms :=
  ⟨h.once, h.present, h.text, h.other⟩

/-- Behind a field, one of the names seen is its own. -/
theorem Remains.field {x : α} {seen : List String} {m : String × Bytes}
    {ms : List (String × Bytes)} (h : Remains rules x seen (m :: ms)) :
    Remains rules x (m.1 :: seen) ms := by
  have hperm : (seen ++ (m :: ms).map (·.1)).Perm (m.1 :: seen ++ ms.map (·.1)) :=
    List.perm_middle
  refine ⟨fun rule hrule => ?_, fun rule hrule => ?_, fun m hm => ?_, fun m hm => ?_⟩
  · rw [← hperm.count_eq]
    exact h.once rule hrule
  · rw [← hperm.mem_iff]
    exact h.present rule hrule
  · exact h.text m (List.mem_cons_of_mem _ hm)
  · exact h.other m (List.mem_cons_of_mem _ hm)

theorem Remains.skip {x : α} {seen : List String} {m : String × Bytes}
    {ms : List (String × Bytes)} (h : Remains rules x seen (m :: ms))
    (hm : m.1 ∉ rules.map (·.name)) : Remains rules x seen ms := by
  have hne : ∀ rule ∈ rules, rule.name ≠ m.1 := fun rule hrule heq =>
    hm (List.mem_map.2 ⟨rule, hrule, heq⟩)
  refine ⟨fun rule hrule => ?_, fun rule hrule => ?_, fun m hm => ?_, fun m hm => ?_⟩
  · have hcount := h.once rule hrule
    rw [List.map_cons, List.count_append, List.count_cons_of_ne (hne rule hrule).symm,
      ← List.count_append] at hcount
    exact hcount
  · refine (h.present rule hrule).imp_left fun hmem => ?_
    rw [List.map_cons, List.mem_append, List.mem_cons] at hmem
    rcases hmem with hmem | hmem | hmem
    · exact List.mem_append_left _ hmem
    · exact absurd hmem (hne rule hrule)
    · exact List.mem_append_right _ hmem
  · exact h.text m (List.mem_cons_of_mem _ hm)
  · exact h.other m (List.mem_cons_of_mem _ hm)

theorem Remains.filled (hshape : shape.Follows rules view) {x : α} {ms : List (String × Bytes)} :
    ∀ {seen : List String}, Remains rules x seen ms → Filled shape seen (view x seen) ms x := by
  induction ms with
  | nil =>
    intro seen h
    have hpresent : ∀ rule ∈ rules, rule.name ∈ seen ∨ rule.omittable x := by
      simpa using h.present
    have hmissing : shape.missing? seen = none := by
      simp only [Shape.missing?, Option.map_eq_none_iff, List.find?_eq_none, decide_eq_true_eq]
      rintro field hfield ⟨hrequired, hunseen⟩
      obtain ⟨rule, hrule, hfollows⟩ := rule_of_follows hshape.fields hfield
      rw [hfollows.name] at hunseen
      exact (hpresent rule hrule).elim hunseen (hfollows.required hrequired x)
    rw [hshape.full hpresent]
    exact .nil hmissing
  | cons m ms ih =>
    intro seen h
    cases hfind : shape.fields.find? (·.name = m.1) with
    | some field =>
      have hname : field.name = m.1 := by simpa using List.find?_some hfind
      obtain ⟨rule, hrule, hfollows⟩ :=
        rule_of_follows hshape.fields (List.mem_of_find?_eq_some hfind)
      have hrule' : rule.name = m.1 := hfollows.name.symm.trans hname
      have hunseen : m.1 ∉ seen := by
        intro hmem
        have hcount := h.once rule hrule
        have hpos := List.count_pos_iff.2 hmem
        rw [hrule', List.map_cons, List.count_append, List.count_cons_self] at hcount
        omega
      have hread := hfollows.reads seen (h.text m List.mem_cons_self rule hrule hrule')
      rw [hrule'] at hread
      exact .field hfind hunseen hread (ih h.field)
    | none =>
      have hother : m.1 ∉ rules.map (·.name) := by
        rw [← names_of_follows hshape.fields]
        simpa [List.find?_eq_none] using hfind
      exact .other hfind (h.other m List.mem_cons_self hother) (ih (h.skip hother))

/-- **Every rendering of a record is read as the record.** -/
theorem reads_record (hshape : shape.Follows rules view) {x : α} {bs : Bytes}
    (h : RecordText rules x bs) : Reads shape.read bs x := by
  obtain ⟨ms, hrenders, hbs⟩ := h
  have hfilled := hrenders.remains.filled hshape
  rw [hshape.empty] at hfilled
  exact hfilled.reads hbs

theorem starts_record {x : α} {bs : Bytes} (h : RecordText rules x bs) :
    Starts bs ∧ bs.head? ≠ some 110 := by
  obtain ⟨ms, -, body, -, rfl⟩ := h
  exact ⟨⟨123, _, rfl, by decide, by decide⟩, by simp [Bracket.opening]⟩

end RowRelay.Json
