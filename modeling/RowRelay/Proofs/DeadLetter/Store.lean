import RowRelay.DeadLetter.Store
import RowRelay.Proofs.Bytes
import RowRelay.Proofs.DeadLetter.Table

/-!
# What a store holds

`Store.Holds s n l`: the letter `l` lies in the store under its time and the number `n`, or it gave
way to as many letters as are allowed, all with greater keys. A letter just recorded is held
(`record_holds`), and it stays held whatever is written behind it, on a disk that may fail at any
step, as long as no number comes back (`Holds.write`). So of all that is written one after the
other, every letter whose writing succeeded is held in the end (`writeAll_holds`).
-/

set_option autoImplicit false

namespace RowRelay.Store

/-! ## Keys -/

theorem key_inj {t t' : Int64} {n n' : Nat} (h : key t n = key t' n') :
    t = t' ∧ n.toUInt64 = n'.toUInt64 := by
  obtain ⟨ht, hn⟩ := List.append_inj h (by simp)
  exact ⟨by simpa using congrArg UInt64.toInt64 (Bytes.ofWord_inj ht), Bytes.ofWord_inj hn⟩

/-- Numbers less than 2^64 apart are told apart by the keys. -/
theorem toUInt64_ne {n n' : Nat} (hlt : n < n') (hnear : n' < n + UInt64.size) :
    n.toUInt64 ≠ n'.toUInt64 := by
  intro h
  have hmod : n % 2 ^ 64 = n' % 2 ^ 64 := by simpa using congrArg UInt64.toNat h
  rw [UInt64.size] at hnear
  omega

/-! ## One letter -/

@[simp] theorem trim_next (s : Store) : s.trim.next = s.next := by
  unfold trim
  split <;> rfl

@[simp] theorem trim_recorded (s : Store) : s.trim.recorded = s.recorded := by
  unfold trim
  split <;> rfl

@[simp] theorem trim_limits (s : Store) : s.trim.limits = s.limits := by
  unfold trim
  split <;> rfl

@[simp] theorem trimUpTo_next (s : Store) (removed : Nat) :
    (s.trimUpTo removed).next = s.next := by
  unfold trimUpTo
  split <;> rfl

/-- There are never more entries too many than there are. -/
theorem trim_eq (s : Store) : s.trim = s.trimUpTo s.size := by
  unfold trim trimUpTo
  split
  · rw [size, Nat.min_eq_right (Nat.sub_le _ _)]
  · rfl

@[simp] theorem enter_next (s : Store) (l : DeadLetter) : (s.enter l).next = s.next + 1 := rfl

@[simp] theorem enter_limits (s : Store) (l : DeadLetter) : (s.enter l).limits = s.limits := rfl

@[simp] theorem record_next (s : Store) (l : DeadLetter) : (s.record l).next = s.next + 1 := by
  simp [record]

@[simp] theorem record_recorded (s : Store) (l : DeadLetter) :
    (s.record l).recorded = recordNumber s.recorded s.next := by
  rw [record, trim_recorded]
  rfl

@[simp] theorem record_limits (s : Store) (l : DeadLetter) : (s.record l).limits = s.limits := by
  simp [record]

@[simp] theorem purge_next (s : Store) (now : Int64) : (s.purge now).next = s.next := by
  unfold purge
  split <;> rfl

@[simp] theorem purge_recorded (s : Store) (now : Int64) :
    (s.purge now).recorded = s.recorded := by
  unfold purge
  split <;> rfl

@[simp] theorem purge_limits (s : Store) (now : Int64) : (s.purge now).limits = s.limits := by
  unfold purge
  split <;> rfl

theorem size_record_le {s : Store} {most : UInt64} (h : s.limits.maxEntries = some most)
    (l : DeadLetter) : (s.record l).size ≤ most.toNat := by
  simp only [record, trim, enter_limits, h, size, Table.size_dropLeast]
  omega

def Holds (s : Store) (number : Nat) (l : DeadLetter) : Prop :=
  (key l.failedAt number, l.encode) ∈ s.table.entries ∨
    ∃ most, s.limits.maxEntries = some most ∧
      most.toNat ≤ s.table.greater (key l.failedAt number)

section
variable {s : Store} {number : Nat} {l : DeadLetter}

/-- However far trimming comes, what goes gives way to as many greater entries as are allowed. -/
theorem Holds.trimUpTo (h : s.Holds number l) (removed : Nat) :
    (s.trimUpTo removed).Holds number l := by
  unfold Store.trimUpTo
  split
  · next most hmost =>
    have hn := Nat.min_le_right removed (s.table.size - most.toNat)
    rcases h with hmem | ⟨most', hmost', hcount⟩
    · refine (Table.mem_or_lt_dropLeast _ hmem).imp_right fun ⟨hne, hlt⟩ => ⟨most, hmost, ?_⟩
      rw [Table.greater_of_forall hlt, Table.size_dropLeast]
      omega
    · cases hmost.symm.trans hmost'
      exact .inr ⟨most, hmost, Table.le_greater_dropLeast hn hcount⟩
  · exact h

theorem Holds.trim (h : s.Holds number l) : s.trim.Holds number l :=
  s.trim_eq ▸ h.trimUpTo s.size

theorem enter_holds (s : Store) (l : DeadLetter) : (s.enter l).Holds s.next l :=
  .inl (Table.mem_putIn_self ..)

/-- The entry of another letter leaves a letter held, if it has another number. -/
theorem Holds.enter (h : s.Holds number l) (hne : number.toUInt64 ≠ s.next.toUInt64)
    (l' : DeadLetter) : (s.enter l').Holds number l := by
  have hkey : key l.failedAt number ≠ key l'.failedAt s.next := fun heq => hne (key_inj heq).2
  refine h.imp (fun hmem => Table.mem_putIn_of_ne hmem hkey) fun ⟨most, hmost, hcount⟩ => ?_
  exact ⟨most, hmost, hcount.trans (Table.greater_put_le ..)⟩

end

theorem record_holds (s : Store) (l : DeadLetter) : (s.record l).Holds s.next l :=
  (s.enter_holds l).trim

/-- Among no more letters than allowed, all that there are have taken the place of one that gave
way. -/
theorem Holds.mem_or_all {s : Store} {number : Nat} {l : DeadLetter} (h : s.Holds number l)
    (hsize : ∀ most, s.limits.maxEntries = some most → s.size ≤ most.toNat) :
    (key l.failedAt number, l.encode) ∈ s.table.entries ∨
      ∃ most, s.limits.maxEntries = some most ∧ s.size = most.toNat ∧
        ∀ e ∈ s.table.entries, key l.failedAt number < e.1 := by
  refine h.imp_right fun ⟨most, hmost, hcount⟩ => ?_
  have hle := hsize most hmost
  have hall : s.table.greater (key l.failedAt number) = s.table.entries.length :=
    Nat.le_antisymm List.countP_le_length (hle.trans hcount)
  refine ⟨most, hmost, Nat.le_antisymm hle (hcount.trans_eq hall), fun e he => ?_⟩
  exact of_decide_eq_true (List.countP_eq_length.1 hall e he)

/-! ## Letters one after the other -/

/-- The store after letters were recorded one after the other. -/
def recordAll (s : Store) (letters : List DeadLetter) : Store :=
  letters.foldl record s

@[simp] theorem recordAll_cons (s : Store) (l : DeadLetter) (ls : List DeadLetter) :
    s.recordAll (l :: ls) = (s.record l).recordAll ls := rfl

theorem recordAll_append (s : Store) (ls ms : List DeadLetter) :
    s.recordAll (ls ++ ms) = (s.recordAll ls).recordAll ms :=
  List.foldl_append

/-! ## Letters written to a disk that may fail -/

/-- A letter that is recorded, and the step of the recording at which the disk fails, if it does. -/
structure Write where
  letter : DeadLetter
  fault? : Option RecordFault
  deriving DecidableEq, Repr

/-- The letter, if it was recorded without a fault. -/
def Write.kept? (w : Write) : Option DeadLetter :=
  match w.fault? with
  | none => some w.letter
  | some _ => none

/-- The store after a write. -/
def write (s : Store) (w : Write) : Store :=
  (s.tryRecord w.letter w.fault?).2

/-- The store after writes, one after the other. -/
def writeAll (s : Store) (ws : List Write) : Store :=
  ws.foldl write s

@[simp] theorem writeAll_nil (s : Store) : s.writeAll [] = s := rfl

@[simp] theorem writeAll_cons (s : Store) (w : Write) (ws : List Write) :
    s.writeAll (w :: ws) = (s.write w).writeAll ws := rfl

theorem writeAll_append (s : Store) (ws ws' : List Write) :
    s.writeAll (ws ++ ws') = (s.writeAll ws).writeAll ws' :=
  List.foldl_append

/-- Where no write fails, letters are recorded one after the other. -/
theorem writeAll_eq_recordAll {ws : List Write} (h : ∀ w ∈ ws, w.fault? = none) :
    ∀ s : Store, s.writeAll ws = s.recordAll (ws.filterMap Write.kept?) := by
  induction ws with
  | nil => exact fun _ => rfl
  | cons w ws ih =>
    obtain ⟨hw, hws⟩ := List.forall_mem_cons.1 h
    obtain ⟨letter, _⟩ := w
    obtain rfl : _ = none := hw
    exact fun s => ih hws _

theorem next_write (s : Store) (w : Write) :
    s.next ≤ (s.write w).next ∧ (s.write w).next ≤ s.next + 1 := by
  obtain ⟨letter, _ | fault⟩ := w
  · simp [write, tryRecord]
  · cases fault <;> simp [write, tryRecord, recordUntil, number]

theorem next_writeAll {ws : List Write} (h : ∀ w ∈ ws, w.fault? = none) :
    ∀ s : Store, (s.writeAll ws).next = s.next + ws.length := by
  induction ws with
  | nil => exact fun _ => rfl
  | cons w ws ih =>
    obtain ⟨hw, hws⟩ := List.forall_mem_cons.1 h
    obtain ⟨letter, _⟩ := w
    obtain rfl : _ = none := hw
    intro s
    rw [writeAll_cons, ih hws, List.length_cons, write, tryRecord, record_next]
    omega

/-- **A letter that is held stays held**, whatever becomes of a write behind it, if its number is
not given again. -/
theorem Holds.write {s : Store} {number : Nat} {l : DeadLetter} (h : s.Holds number l)
    (hne : number.toUInt64 ≠ s.next.toUInt64) (w : Write) : (s.write w).Holds number l := by
  obtain ⟨letter, _ | fault⟩ := w
  · exact (h.enter hne letter).trim
  · cases fault with
    | encoding | numbering | entering => exact h
    | trimming removed => exact (h.enter hne letter).trimUpTo removed
    | flushing => exact (h.enter hne letter).trim

theorem Holds.writeAll {number : Nat} {l : DeadLetter} (ws : List Write) :
    ∀ {s : Store}, s.Holds number l → number < s.next →
      s.next + ws.length ≤ number + UInt64.size → (s.writeAll ws).Holds number l := by
  induction ws with
  | nil => exact fun h _ _ => h
  | cons w ws ih =>
    intro s h hlt hnear
    rw [List.length_cons] at hnear
    have hnext := s.next_write w
    exact ih (h.write (toUInt64_ne hlt (by omega)) w) (by omega) (by omega)

/-- **Of letters written one after the other**, each one whose writing succeeded is held. -/
theorem writeAll_holds (s : Store) (before : List Write) (l : DeadLetter) {after : List Write}
    (hfit : after.length < UInt64.size) :
    (s.writeAll (before ++ ⟨l, none⟩ :: after)).Holds (s.writeAll before).next l := by
  rw [writeAll_append, writeAll_cons]
  refine (record_holds _ l).writeAll after ?_ ?_
  · simp
  · simp only [record_next]
    omega

end RowRelay.Store
