import RowRelay.DeadLetter.Directory
import RowRelay.DeadLetter.Letter
import RowRelay.DeadLetter.Table

/-!
# The store of dead letters

Letters lie in a table under the time of their failure and a number that grows with every letter,
both as eight bytes with the most significant first. The bytes of a time before 1970 begin with a
one and so come after those of any later time. `Store.record` keeps at most so many entries, those
with the greatest keys; `Store.load` removes what is older than the time to live and hands out the
rest in the order of the keys.

Recording takes several steps, at each of which the disk may fail (`RecordFault`).
`Store.tryRecord` is a recording on such a disk: it is `Store.record` if no step fails, and else
leaves what the steps before have made of the store.
-/

set_option autoImplicit false

namespace RowRelay

/-! ## Errors -/

inductive StoreError where
  /-- The directory cannot be made. -/
  | directory (cause : DirectoryFault)
  /-- The directory is in use. -/
  | locked
  /-- The database failed, and says why. -/
  | database (cause : String)
  /-- A letter has no form in which it could be stored. -/
  | encoding (cause : String)
  deriving DecidableEq, Repr

def StoreError.message : StoreError → String
  | .directory cause => s!"dead-letter store error: IO error: {cause.message}"
  | .locked => "dead-letter store error: IO error: could not acquire the lock of the directory"
  | .database cause => s!"dead-letter store error: {cause}"
  | .encoding cause => s!"dead-letter record could not be encoded: {cause}"

/-! ## Limits -/

/-- How long letters are kept, in seconds, and how many. -/
structure Limits where
  ttlSecs : Option Int64 := none
  maxEntries : Option UInt64 := none
  deriving DecidableEq, Repr

/-- The nearest number of 64 bits with a sign. -/
def clamp64 (n : Int) : Int :=
  max Int64.minValue.toInt (min Int64.maxValue.toInt n)

/-- The time before which letters have expired. -/
def Limits.expiry? (limits : Limits) (now : Int64) : Option Int :=
  limits.ttlSecs.map fun ttl => clamp64 (now.toInt - clamp64 (ttl.toInt * 1000))

structure Store where
  table : Table
  limits : Limits
  /-- The number of the next letter. -/
  next : Nat
  /-- The number on record, from which numbering goes on when the store is opened again. -/
  recorded : Nat

namespace Store

/-! ## Numbers -/

/-- Not every number is put on record, only the multiples of this one. -/
def numberStep : Nat := 1000000

/-- The number at which a store goes on that is opened again. It lies beyond all that can have been
given since the one on record. -/
def resumeAt (recorded : Nat) : Nat :=
  recorded + 2 * numberStep

/-- The number on record once a number was given. -/
def recordNumber (recorded number : Nat) : Nat :=
  max recorded (number / numberStep * numberStep)

/-! ## Opening -/

def create (limits : Limits) : Store :=
  ⟨.empty, limits, 0, 0⟩

/-- The same store, opened again. -/
def reopen (s : Store) (limits : Limits) : Store :=
  { s with limits, next := resumeAt s.recorded }

/-- What stands at the path of a store. -/
inductive Site where
  | vacant
  | closed (s : Store)
  /-- A store that is open already. -/
  | inUse
  /-- Nothing, and no directory can be made. -/
  | barred (cause : DirectoryFault)

/-- The directory inside that of a store which is made first. -/
def innerDirectory : String := "blobs"

/-- What stands at a path where no store has been before, among files by their names. -/
def siteOf (files : List String) (path : String) : Site :=
  match makeDirectory files path innerDirectory with
  | .ok _ => .vacant
  | .error cause => .barred cause

/-- Opens the store at a path. Where nothing stands an empty one is made. -/
def openAt (site : Site) (limits : Limits) : Except StoreError Store :=
  match site with
  | .vacant => .ok (create limits)
  | .closed s => .ok (s.reopen limits)
  | .inUse => .error .locked
  | .barred cause => .error (.directory cause)

def size (s : Store) : Nat :=
  s.table.size

/-! ## Recording -/

/-- The key of a letter: its time, then its number. -/
def key (failedAt : Int64) (number : Nat) : Bytes :=
  Bytes.ofWord failedAt.toUInt64 ++ Bytes.ofWord number.toUInt64

/-- Removes the least keys while there are more entries than allowed. -/
def trim (s : Store) : Store :=
  match s.limits.maxEntries with
  | some most => { s with table := s.table.dropLeast (s.table.size - most.toNat) }
  | none => s

/-- Gives the number of the next letter. -/
def number (s : Store) : Store :=
  { s with next := s.next + 1, recorded := recordNumber s.recorded s.next }

/-- Makes the entry of a letter, under the number given for it. -/
def enter (s : Store) (letter : DeadLetter) : Store :=
  { s.number with table := s.table.put (key letter.failedAt s.next) letter.encode }

/-- Records a letter, on a disk that does not fail. -/
def record (s : Store) (letter : DeadLetter) : Store :=
  trim (s.enter letter)

/-! ## Recording on a disk that fails -/

/-- The step of a recording that fails, and what the library that fails says about it. -/
inductive RecordFault where
  | encoding (cause : String)
  | numbering (cause : String)
  | entering (cause : String)
  /-- So many of the entries that are too many were removed before. -/
  | trimming (removed : Nat) (cause : String)
  /-- All is done but for making it last. -/
  | flushing (cause : String)
  deriving DecidableEq, Repr

def RecordFault.error : RecordFault → StoreError
  | .encoding cause => .encoding cause
  | .numbering cause | .entering cause | .trimming _ cause | .flushing cause => .database cause

/-- Removes the least keys while there are more entries than allowed, but no more than so many. -/
def trimUpTo (removed : Nat) (s : Store) : Store :=
  match s.limits.maxEntries with
  | some most =>
    { s with table := s.table.dropLeast (min removed (s.table.size - most.toNat)) }
  | none => s

/-- What is left of the recording of a letter when one of its steps fails. -/
def recordUntil (s : Store) (letter : DeadLetter) : RecordFault → Store
  | .encoding _ | .numbering _ => s
  | .entering _ => s.number
  | .trimming removed _ => (s.enter letter).trimUpTo removed
  | .flushing _ => s.record letter

/-- Records a letter on a disk that fails at a step, or at none. -/
def tryRecord (s : Store) (letter : DeadLetter) :
    Option RecordFault → Except StoreError Unit × Store
  | none => (.ok (), s.record letter)
  | some fault => (.error fault.error, s.recordUntil letter fault)

/-! ## Loading -/

/-- Whether a key is old enough to go. A key of fewer than eight bytes has no time. -/
def isExpired (expiry : Int) (key : Bytes) : Bool :=
  match Bytes.word? key with
  | some w => decide (w.toInt64.toInt < expiry)
  | none => false

/-- Removes what has expired. -/
def purge (s : Store) (now : Int64) : Store :=
  match s.limits.expiry? now with
  | some expiry => { s with table := s.table.filter fun e => !isExpired expiry e.1 }
  | none => s

/-- What the entries spell, in the order of their keys: letters, and faults of what is no letter. -/
def contents (s : Store) : List (Except Json.Fault DeadLetter) :=
  s.table.entries.map fun e => DeadLetter.decode e.2

/-- The letters, oldest first, the faults passed over, and the store without what has expired. -/
def load (s : Store) (now : Int64) : List DeadLetter × List Json.Fault × Store :=
  let s := s.purge now
  (s.contents.filterMap Except.toOption,
    s.contents.filterMap (fun e => match e with
      | .ok _ => none
      | .error fault => some fault), s)

/-- How a log line tells of an entry that is no letter. -/
def unreadable (fault : Json.Fault) : String :=
  s!"skipping unreadable dead letter: {fault.message}"

/-- A store as it is shown to a programmer. -/
def describe (s : Store) : String :=
  let option (x : Option String) : String := match x with
    | some x => s!"Some({x})"
    | none => "None"
  "DeadLetterStore \x7b db: \"sled::Db\", ttl_seconds: " ++
    option (s.limits.ttlSecs.map fun ttl => toString ttl.toInt) ++ ", max_entries: " ++
    option (s.limits.maxEntries.map fun most => toString most.toNat) ++ " \x7d"

end Store

end RowRelay
