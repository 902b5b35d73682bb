import RowRelay.Proofs.Setup.FileValues
import RowRelay.Proofs.Setup.TextSettings

/-!
# Number settings

A whole number that a setup gives in plain decimal is either refused or the setting
(`load_number`): none is cut down to the width of its setting, and none gives way to a default.
The number may stand in a variable, which overrides the setup file, or in the file
(`NumberSetting.Written`): in JSON and YAML in its text, and in another format in what the reader
of the format makes of the text.
-/

set_option autoImplicit false

namespace RowRelay.Setup

open Json

/-! ## Settings that are whole numbers -/

inductive NumberSetting where
  | batchSize
  | insertRetries
  | insertRetryBaseMs
  | emptyBackoffInitialMs
  | emptyBackoffMaxMs
  | requestTimeoutSecs
  | maxEntries
  | ttlSecs
  deriving DecidableEq, Repr

namespace NumberSetting

/-- The keys of the section and of the setting in it. -/
def place : NumberSetting → String × String
  | .batchSize => ("relay", "batch_size")
  | .insertRetries => ("relay", "insert_retries")
  | .insertRetryBaseMs => ("relay", "insert_retry_base_ms")
  | .emptyBackoffInitialMs => ("relay", "empty_backoff_initial_ms")
  | .emptyBackoffMaxMs => ("relay", "empty_backoff_max_ms")
  | .requestTimeoutSecs => ("endpoints", "request_timeout_secs")
  | .maxEntries => ("dead_letter", "max_entries")
  | .ttlSecs => ("dead_letter", "ttl_secs")

def name (s : NumberSetting) : String :=
  s.place.1 ++ "." ++ s.place.2

/-- The number that settings have for it, if they have one. -/
def value : NumberSetting → Settings → Option Int
  | .batchSize, settings => some settings.relay.batchSize.toNat
  | .insertRetries, settings => some settings.relay.insertRetries.toNat
  | .insertRetryBaseMs, settings => some settings.relay.insertRetryBaseMs.toNat
  | .emptyBackoffInitialMs, settings => some settings.relay.emptyBackoffInitialMs.toNat
  | .emptyBackoffMaxMs, settings => some settings.relay.emptyBackoffMaxMs.toNat
  | .requestTimeoutSecs, settings => some settings.endpoints.requestTimeoutSecs.toNat
  | .maxEntries, settings => settings.deadLetter.maxEntries.map fun n => (n.toNat : Int)
  | .ttlSecs, settings => settings.deadLetter.ttlSecs.map Int64.toInt

/-- The number that a draft has for it. -/
def drafted : NumberSetting → Draft → Option Int
  | .batchSize, d => d.relay.batchSize.map fun n => (n.toNat : Int)
  | .insertRetries, d => d.relay.insertRetries.map fun n => (n.toNat : Int)
  | .insertRetryBaseMs, d => d.relay.insertRetryBaseMs.map fun n => (n.toNat : Int)
  | .emptyBackoffInitialMs, d => d.relay.emptyBackoffInitialMs.map fun n => (n.toNat : Int)
  | .emptyBackoffMaxMs, d => d.relay.emptyBackoffMaxMs.map fun n => (n.toNat : Int)
  | .requestTimeoutSecs, d => d.endpoints.requestTimeoutSecs.map fun n => (n.toNat : Int)
  | .maxEntries, d => d.deadLetter.maxEntries.map fun n => (n.toNat : Int)
  | .ttlSecs, d => d.deadLetter.ttlSecs.map Int64.toInt

theorem ofName_name (s : NumberSetting) :
    Path.ofName s.name = [.key s.place.1, .key s.place.2] := by
  cases s <;> decide +kernel

theorem ofName_section (s : NumberSetting) : Path.ofName s.place.1 = [.key s.place.1] := by
  cases s <;> decide +kernel

end NumberSetting

/-! ## From a draft to settings -/

theorem NumberSetting.value_of_drafted (s : NumberSetting) {d : Draft} {settings : Settings}
    {z : Int} (h : d.complete = .ok settings) (hz : s.drafted d = some z) :
    s.value settings = some z := by
  have heffective := (Draft.met_of_complete h).1
  cases s
  all_goals
    obtain ⟨n, hn, rfl⟩ := Option.map_eq_some_iff.1 hz
    simp [value, heffective.relay, heffective.endpoints, heffective.deadLetter, hn]

/-! ## Numbers in a section -/

/-- The scalars that are a whole number: the number, and its text in plain decimal, which is what
stands in a file whose format has no numbers. -/
inductive Scalar.Spells (z : Int) : Scalar → Prop
  | int : Spells z (.int z)
  | text : Spells z (.text (String.ofList (writeInt z)))

theorem Scalar.Spells.isNil {z : Int} {v : Scalar} (h : v.Spells z) (o : Option String) :
    (Tree.scalar o v).isNil = false := by
  cases h <;> rfl

/-- A whole number is taken as it is or refused. `toInt` is the number that something taken is. -/
def TakesExactly {γ : Type} (convert : Conversion γ) (toInt : γ → Int) : Prop :=
  ∀ {key : String} {o : Option String} {z : Int} {v : Scalar} {x : γ}, v.Spells z →
    convert key (.scalar o v) = .ok x → toInt x = z

theorem whole_spells {least greatest z n : Int} {expected key : String}
    {spelled? : List Char → Option Int}
    (hspelled : ∀ {m : Int}, spelled? (writeInt z) = some m → m = z ∧ least ≤ z ∧ z ≤ greatest)
    {o : Option String} {v : Scalar} (hv : v.Spells z)
    (h : whole least greatest expected spelled? key (.scalar o v) = .ok n) :
    n = z ∧ least ≤ z ∧ z ≤ greatest := by
  cases hv with
  | int =>
    obtain ⟨hbounds, h⟩ | ⟨-, h⟩ := ite_eq_iff.1 h
    · cases h
      exact ⟨rfl, hbounds⟩
    · cases h
  | text =>
    -- plain decimal is no yes and no no
    have hyes : Text.lowerCase (String.ofList (writeInt z)) ∉ yes := fun hmem =>
      lowerCase_writeInt z (List.mem_append_left _ hmem) rfl
    have hno : Text.lowerCase (String.ofList (writeInt z)) ∉ no := fun hmem =>
      lowerCase_writeInt z (List.mem_append_right _ hmem) rfl
    simp only [whole, if_neg hyes, if_neg hno, String.toList_ofList] at h
    split at h
    · next hread =>
      cases h
      exact hspelled hread
    · cases h

theorem signed64_exact : TakesExactly signed64 Int64.toInt := by
  intro key o z v x hv h
  obtain ⟨n, hn, h⟩ := ok_of_bind h
  cases h
  obtain ⟨rfl, hlow, hhigh⟩ := whole_spells Decimal.eq_of_signed64?_writeInt hv hn
  exact Int64.toInt_ofInt_of_le hlow (Int.lt_of_le_of_lt hhigh (by decide))

theorem unsigned64_exact : TakesExactly unsigned64 fun n => (n.toNat : Int) := by
  intro key o z v x hv h
  obtain ⟨n, hn, h⟩ := ok_of_bind h
  cases h
  have hspelled : ∀ {m : Int},
      (Decimal.unsigned64? (writeInt z)).map Int.ofNat = some m →
        m = z ∧ 0 ≤ z ∧ z ≤ UInt64.size - 1 := by
    intro m hm
    obtain ⟨k, hk, rfl⟩ := Option.map_eq_some_iff.1 hm
    obtain ⟨rfl, hsize⟩ := Decimal.eq_of_unsigned64?_writeInt hk
    exact ⟨rfl, by omega, by omega⟩
  obtain ⟨rfl, hlow, hhigh⟩ := whole_spells hspelled hv hn
  have hsize : n.toNat < UInt64.size := by omega
  have hback : n.toNat.toUInt64.toNat = n.toNat := UInt64.toNat_ofNat_of_lt' hsize
  exact (congrArg Nat.cast hback).trans (Int.toNat_of_nonneg hlow)

theorem unsigned32_exact : TakesExactly unsigned32 fun n => (n.toNat : Int) := by
  intro key o z v x hv h
  obtain ⟨n, hn, h⟩ := ok_of_bind h
  split at h
  · next hsize =>
    cases h
    have hback : n.toUInt32.toNat = n.toNat :=
      (UInt64.toNat_toUInt32 n).trans (Nat.mod_eq_of_lt hsize)
    exact (congrArg Nat.cast hback).trans (unsigned64_exact hv hn)
  · cases h

namespace Section

variable {α γ : Type} {sec : Section α} {key parent : String} {es : List (String × Tree)}

theorem read_number {convert : Conversion γ} {toInt : γ → Int} (hexact : TakesExactly convert toInt)
    {get : α → Option Int} {put : α → γ → α}
    (hkeeps : ∀ s ∈ sec.settings, s.key ≠ key → s.Keeps get)
    (hs : sec.settings.find? (fun s => s.key == key) = some (setting key convert put))
    (hput : ∀ a x, get (put a x) = some (toInt x)) (hsorted : es.Pairwise (·.1 < ·.1))
    {o o' : Option String} {z : Int} {v : Scalar} (hv : v.Spells z)
    (hz : es.lookup key = some (.scalar o v)) {a a' : α}
    (h : sec.read a parent (.table o' es) = .ok a') : get a' = some z := by
  obtain ⟨b, x, hx, hget⟩ := read_setting hkeeps hs hsorted (hv.isNil o) hz h
  rw [hget, hput, hexact hv hx]

end Section

/-! ## From a tree to a draft -/

section
variable {parent key : String} {es : List (String × Tree)} {o o' : Option String} {z : Int}
  {v : Scalar} (hsorted : es.Pairwise (·.1 < ·.1)) (hv : v.Spells z)
  (hz : es.lookup key = some (.scalar o v))
include hsorted hv hz

theorem relay_number {get : RelayDraft → Option Int}
    (h : (key, get) ∈ [("batch_size", fun d => d.batchSize.map fun n => (n.toNat : Int)),
      ("insert_retries", fun d => d.insertRetries.map fun n => (n.toNat : Int)),
      ("insert_retry_base_ms", fun d => d.insertRetryBaseMs.map fun n => (n.toNat : Int)),
      ("empty_backoff_initial_ms", fun d => d.emptyBackoffInitialMs.map fun n => (n.toNat : Int)),
      ("empty_backoff_max_ms", fun d => d.emptyBackoffMaxMs.map fun n => (n.toNat : Int))])
    {d d' : RelayDraft} (hread : relaySection.read d parent (.table o' es) = .ok d') :
    get d' = some z := by
  have hkeeps : ∀ s ∈ relaySection.settings, s.key ≠ key → s.Keeps get := by
    intro s hs hne
    simp only [relaySection, List.mem_cons, List.not_mem_nil, or_false] at hs
    simp only [List.mem_cons, Prod.mk.injEq, List.not_mem_nil, or_false] at h
    rcases h with ⟨rfl, rfl⟩ | ⟨rfl, rfl⟩ | ⟨rfl, rfl⟩ | ⟨rfl, rfl⟩ | ⟨rfl, rfl⟩
    all_goals
      rcases hs with rfl | rfl | rfl | rfl | rfl | rfl | rfl | rfl
      all_goals first
        | exact absurd rfl hne
        | exact keeps_setting _ fun _ _ => rfl
  simp only [List.mem_cons, Prod.mk.injEq, List.not_mem_nil, or_false] at h
  rcases h with ⟨rfl, rfl⟩ | ⟨rfl, rfl⟩ | ⟨rfl, rfl⟩ | ⟨rfl, rfl⟩ | ⟨rfl, rfl⟩
  · exact Section.read_number unsigned32_exact hkeeps rfl (fun _ _ => rfl) hsorted hv hz hread
  · exact Section.read_number unsigned32_exact hkeeps rfl (fun _ _ => rfl) hsorted hv hz hread
  · exact Section.read_number unsigned64_exact hkeeps rfl (fun _ _ => rfl) hsorted hv hz hread
  · exact Section.read_number unsigned64_exact hkeeps rfl (fun _ _ => rfl) hsorted hv hz hread
  · exact Section.read_number unsigned64_exact hkeeps rfl (fun _ _ => rfl) hsorted hv hz hread

theorem endpoint_number {get : EndpointDraft → Option Int}
    (h : (key, get) ∈ [("request_timeout_secs",
      fun d => d.requestTimeoutSecs.map fun n => (n.toNat : Int))])
    {d d' : EndpointDraft} (hread : endpointSection.read d parent (.table o' es) = .ok d') :
    get d' = some z := by
  obtain ⟨rfl, rfl⟩ := Prod.mk.inj (List.mem_singleton.1 h)
  have hkeeps : ∀ s ∈ endpointSection.settings, s.key ≠ "request_timeout_secs" →
      s.Keeps fun d => d.requestTimeoutSecs.map fun n => (n.toNat : Int) := by
    intro s hs hne
    simp only [endpointSection, List.mem_cons, List.not_mem_nil, or_false] at hs
    rcases hs with rfl | rfl | rfl
    · exact keeps_setting _ fun _ _ => rfl
    · exact keeps_setting _ fun _ _ => rfl
    · exact absurd rfl hne
  exact Section.read_number unsigned64_exact hkeeps rfl (fun _ _ => rfl) hsorted hv hz hread

theorem deadLetter_number {get : DeadLetterDraft → Option Int}
    (h : (key, get) ∈ [("max_entries", fun d => d.maxEntries.map fun n => (n.toNat : Int)),
      ("ttl_secs", fun d => d.ttlSecs.map Int64.toInt)])
    {d d' : DeadLetterDraft} (hread : deadLetterSection.read d parent (.table o' es) = .ok d') :
    get d' = some z := by
  have hkeeps : ∀ s ∈ deadLetterSection.settings, s.key ≠ key → s.Keeps get := by
    intro s hs hne
    simp only [deadLetterSection, List.mem_cons, List.not_mem_nil, or_false] at hs
    simp only [List.mem_cons, Prod.mk.injEq, List.not_mem_nil, or_false] at h
    rcases h with ⟨rfl, rfl⟩ | ⟨rfl, rfl⟩
    all_goals
      rcases hs with rfl | rfl | rfl
      all_goals first
        | exact absurd rfl hne
        | exact keeps_setting _ fun _ _ => rfl
  simp only [List.mem_cons, Prod.mk.injEq, List.not_mem_nil, or_false] at h
  rcases h with ⟨rfl, rfl⟩ | ⟨rfl, rfl⟩
  · exact Section.read_number unsigned64_exact hkeeps rfl (fun _ _ => rfl) hsorted hv hz hread
  · exact Section.read_number signed64_exact hkeeps rfl (fun _ _ => rfl) hsorted hv hz hread

end

namespace NumberSetting

variable (s : NumberSetting)

theorem sections_keep :
    ∀ part ∈ sections.settings, part.key ≠ s.place.1 → part.Keeps s.drafted := by
  intro part hpart hne
  simp only [sections, List.mem_cons, List.not_mem_nil, or_false] at hpart
  rcases hpart with rfl | rfl | rfl | rfl | rfl | rfl
  all_goals cases s
  all_goals first
    | exact absurd rfl hne
    | exact keeps_setting _ fun _ _ => rfl

/-- What the draft has for a number setting is the number that the tree gives. -/
theorem drafted_of_gives {t : Tree} (hsorted : t.SortedTo 2) {o : Option String} {z : Int}
    {v : Scalar} (hv : v.Spells z) (hz : t.Gives s.place.1 s.place.2 (.scalar o v)) {d : Draft}
    (h : Draft.ofTree t = .ok d) : s.drafted d = some z := by
  obtain ⟨o', es, hsection, hkey⟩ := hz
  have hes : es.Pairwise (·.1 < ·.1) := (hsorted.2 _ (Members.mem_of_lookup hsection)).1
  obtain ⟨part, hpart⟩ : ∃ part, sections.settings.find? (·.key == s.place.1) = some part := by
    cases s <;> exact ⟨_, rfl⟩
  obtain ⟨b, b', hb, hget⟩ :=
    Section.readEntries_lookup s.sections_keep hpart hsorted.1 hsection h
  rw [hget]
  cases s
  all_goals
    cases hpart
    obtain ⟨y, hy, rfl⟩ := ok_of_map hb
  · exact relay_number hes hv hkey (.head _) hy
  · exact relay_number hes hv hkey (.tail _ (.head _)) hy
  · exact relay_number hes hv hkey (.tail _ (.tail _ (.head _))) hy
  · exact relay_number hes hv hkey (.tail _ (.tail _ (.tail _ (.head _)))) hy
  · exact relay_number hes hv hkey (.tail _ (.tail _ (.tail _ (.tail _ (.head _))))) hy
  · exact endpoint_number hes hv hkey (.head _) hy
  · exact deadLetter_number hes hv hkey (.head _) hy
  · exact deadLetter_number hes hv hkey (.tail _ (.head _)) hy

end NumberSetting

/-! ## What is written in plain decimal -/

/-- A sign and digits begin with none of the marks of another base. -/
theorem int?_writeInt (n : Int) :
    Yaml.Scalar.int? (writeInt n) = Decimal.signed64? 10 (writeInt n) := by
  have hchars : ∀ c ∈ writeInt n, c ≠ 'x' ∧ c ≠ 'o' ∧ c ≠ '+' := by
    intro c hc
    rcases Decimal.mem_writeInt hc with rfl | hdigit
    · decide
    · refine ⟨?_, ?_, ?_⟩ <;> rintro rfl <;> cases hdigit
  unfold Yaml.Scalar.int?
  split
  · next heq => exact absurd rfl (hchars 'x' (by simp [heq])).1
  · next heq => exact absurd rfl (hchars 'o' (by simp [heq])).2.1
  · next heq => exact absurd rfl (hchars '+' (by simp [heq])).2.2
  · rfl

theorem ofPlain_writeInt {z : Int} (hlow : Int64.minValue.toInt ≤ z)
    (hhigh : z ≤ Int64.maxValue.toInt) : Yaml.Scalar.ofPlain (writeInt z) = .int z := by
  rw [Yaml.Scalar.ofPlain, int?_writeInt, Decimal.signed64?_writeInt hlow hhigh]

/-- The file has the number for a setting. -/
inductive SetupFile.Numbers (readers : Readers) (file : SetupFile) (s : NumberSetting) (z : Int) :
    Prop
  /-- It stands in plain decimal in a text in JSON: in the last member of its key, in the last
  member of its section. -/
  | json {ms ms' : List (String × Value)} : file.format = .json →
      FileText TextOf (.object ms) (Utf8.ofString (textOf file.content)) →
      (Value.object ms).Fits maxDepth → ms.reverse.lookup s.place.1 = some (.object ms') →
      ms'.reverse.lookup s.place.2 = some (.number (.int z)) →
      (∀ m ∈ ms, m.1 ≠ s.place.1 → Tree.Apart s.place.1 s.place.2 (Path.ofName m.1)) →
      Numbers readers file s z
  /-- It stands in plain decimal, as a plain scalar, in a document in YAML. -/
  | yaml {entries entries' : List (Yaml.Node × Yaml.Node)} : file.format = .yaml →
      Yaml.parse (textOf file.content).toList = some [.mapping entries] →
      underKey? s.place.1 entries = some (.mapping entries') →
      underKey? s.place.2 entries' = some (.scalar (.ofPlain (writeInt z))) →
      (∀ e ∈ entries, ∀ name, keyOfYaml? e.1 = some name → name ≠ s.place.1 →
        Tree.Apart s.place.1 s.place.2 (Path.ofName name)) →
      Numbers readers file s z
  /-- It is what the reader of another format finds in the text, in the section and under the key:
  a number, or a text in plain decimal. -/
  | foreign {format : ForeignFormat} {o o' o'' : Option String} {es es' : List (String × Tree)}
      {v : Scalar} : file.format = .foreign format →
      readers format file.name (textOf file.content) = .ok (.table o es) →
      (Tree.table o es).SortedTo 2 → es.lookup s.place.1 = some (.table o' es') →
      es'.lookup s.place.2 = some (.scalar o'' v) → v.Spells z →
      (∀ e ∈ es, e.1 ≠ s.place.1 → Tree.Apart s.place.1 s.place.2 (Path.ofName e.1)) →
      Numbers readers file s z
  /-- The values of the file give it, however its text spells the number and its place. -/
  | given {values : List (String × Tree)} {o : Option String} {v : Scalar} :
      file.values readers = .ok values → v.Spells z →
      (Tree.empty.putAll values).Gives s.place.1 s.place.2 (.scalar o v) →
      Numbers readers file s z

/-- The number is what the setup has for a setting: it stands in plain decimal in the last variable
for the setting, whatever the file says, or in the file, where no variable is for the setting. -/
inductive NumberSetting.Written (s : NumberSetting) (readers : Readers) (folder : Folder)
    (path : String) (z : Int) : (environment : List (String × String)) → Prop
  | inVariable {before after : List (String × String)} {name : String} :
      settingOf? name = some s.name → Untouched s.place.1 s.place.2 after →
      Written s readers folder path z (before ++ (name, String.ofList (writeInt z)) :: after)
  | inFile {environment : List (String × String)} {file : SetupFile} :
      findFile? folder path = some file → file.Numbers readers s z →
      Untouched s.place.1 s.place.2 environment → Written s readers folder path z environment

section
variable {s : NumberSetting} {readers : Readers} {z : Int} (hlow : Int64.minValue.toInt ≤ z)
  (hhigh : z ≤ Int64.maxValue.toInt)
include hlow hhigh

theorem SetupFile.Numbers.gives {file : SetupFile} (h : file.Numbers readers s z)
    {values : List (String × Tree)} (hvalues : file.values readers = .ok values) :
    ∃ o v, v.Spells z ∧ (Tree.empty.putAll values).Gives s.place.1 s.place.2 (.scalar o v) := by
  cases h with
  | json hformat htext hfits hsection hkey hapart =>
    cases hvalues.symm.trans (values_json readers hformat hfits htext)
    exact ⟨_, _, .int, gives_json s.ofName_section hsection hkey hapart⟩
  | yaml hformat htext hsection hkey hapart =>
    obtain ⟨o, hof⟩ := values_yaml hformat htext hvalues
    rw [ofPlain_writeInt hlow hhigh] at hkey
    exact ⟨_, _, .int, gives_yaml rfl s.ofName_section hof hsection hkey hapart⟩
  | foreign hformat hread hsorted hsection hkey hv hapart =>
    cases hvalues.symm.trans (values_foreign hformat hread)
    have hsorted' := (hsorted.2 _ (Members.mem_of_lookup hsection)).1
    exact ⟨_, _, hv, Tree.gives_putAll s.ofName_section hsorted.1 hsection hsorted' hkey hapart _⟩
  | given hvalues' hv hgives =>
    cases hvalues.symm.trans hvalues'
    exact ⟨_, _, hv, hgives⟩

variable {folder : Folder} {path : String} {environment : List (String × String)}

/-- What the setup file and the variables say together gives the number that is written. -/
theorem NumberSetting.Written.gives (h : s.Written readers folder path z environment) {t : Tree}
    (ht : gather readers folder environment path = .ok t) :
    ∃ o v, v.Spells z ∧ t.Gives s.place.1 s.place.2 (.scalar o v) := by
  cases h with
  | inVariable hname hafter =>
    have hgives := gather_variable hname s.ofName_name hafter ht
    rw [ofVariable_writeInt hlow hhigh] at hgives
    exact ⟨_, _, .int, hgives⟩
  | @inFile _ file hfile hnumbers henvironment =>
    cases hvalues : file.values readers with
    | error fault =>
      simp only [gather, hfile, hvalues] at ht
      cases ht
    | ok values =>
      obtain ⟨o, v, hv, hgives⟩ := hnumbers.gives hlow hhigh hvalues
      exact ⟨o, v, hv, gather_file hfile hvalues hgives henvironment ht⟩

/-- **An accepted number is the number that is written.** Loading a setup that has a whole number
of 64 bits for a setting fails, or gives settings with exactly this number. -/
theorem load_number (h : s.Written readers folder path z environment) :
    (∃ fault, load readers folder environment path = .error fault) ∨
      ∃ settings, load readers folder environment path = .ok settings ∧
        s.value settings = some z := by
  cases hload : load readers folder environment path with
  | error fault => exact .inl ⟨fault, rfl⟩
  | ok settings =>
    obtain ⟨t, ht, hdraft⟩ := ok_of_bind hload
    obtain ⟨d, hd, hsettings⟩ := ok_of_bind hdraft
    obtain ⟨o, v, hv, hgives⟩ := h.gives hlow hhigh ht
    have hdrafted := s.drafted_of_gives (gather_sorted ht) hv hgives hd
    exact .inr ⟨settings, rfl, s.value_of_drafted hsettings hdrafted⟩

end

/-! ## A number in two formats and in a variable -/

/-- Letters are kept as long as a number of 64 bits allows. -/
def numberMembers : List (String × Value) :=
  [("dead_letter", .object [("ttl_secs", .number (.int 9223372036854775807))])]

def numberFile : SetupFile :=
  ⟨"setup.json", .json, Utf8.encode (Value.object numberMembers).write⟩

/-- The same in INI, a format without numbers. -/
def iniText : String := "[dead_letter]\nttl_secs=9223372036854775807\n"

def iniFile : SetupFile :=
  ⟨"setup.ini", .foreign .ini, Utf8.ofString iniText⟩

/-- The entries that the text in INI stands for. -/
def iniEntries (origin : String) : List (String × Tree) :=
  [("dead_letter", .table (some origin)
    [("ttl_secs", .scalar (some origin) (.text (String.ofList (writeInt 9223372036854775807))))])]

/-- Readers who know this text alone. -/
def iniReaders : Readers := fun format origin text =>
  if format = .ini ∧ text = iniText then .ok (.table none (iniEntries origin))
  else refusing format origin text

/-- A folder with a single file. -/
def folderOf (file : SetupFile) : Folder :=
  [(file.name, file.content)]

theorem findFile_folderOf {file : SetupFile} (extension : String)
    (hname : nameInFolder? file.name = some file.name)
    (hextension : extension? file.name = some extension)
    (hformat : extensions.lookup extension = some file.format) :
    findFile? (folderOf file) file.name = some file := by
  simp [findFile?, Folder.read?, folderOf, hname, hextension, hformat]

/-- The largest batch size that there is. -/
def numberVariables : List (String × String) :=
  sampleTarget ++ [("RELAY_RELAY__BATCH_SIZE", String.ofList (writeInt 4294967295))]

def numberSettings : Settings :=
  { target := ⟨"p", "d", "t", "s"⟩
    relay := { batchSize := 4294967295 }
    deadLetter := { ttlSecs := some 9223372036854775807 } }

theorem load_number_sample :
    NumberSetting.ttlSecs.value numberSettings = some 9223372036854775807 ∧
      NumberSetting.batchSize.value numberSettings = some 4294967295 ∧
      load iniReaders (folderOf numberFile) numberVariables "setup.json" = .ok numberSettings ∧
      load iniReaders (folderOf iniFile) numberVariables "setup.ini" = .ok numberSettings := by
  have hload : load iniReaders (folderOf numberFile) numberVariables "setup.json" =
      .ok numberSettings := ok_of_toOption (by decide +kernel)
  have hload' : load iniReaders (folderOf iniFile) numberVariables "setup.ini" =
      .ok numberSettings := ok_of_toOption (by decide +kernel)
  have hfind : findFile? (folderOf numberFile) "setup.json" = some numberFile :=
    findFile_folderOf "json" (by decide +kernel) (by decide +kernel) rfl
  have hfind' : findFile? (folderOf iniFile) "setup.ini" = some iniFile :=
    findFile_folderOf "ini" (by decide +kernel) (by decide +kernel) rfl
  have hfits : (Value.object numberMembers).Fits maxDepth :=
    ⟨⟨⟨by decide, by decide⟩, trivial⟩, trivial⟩
  have htext : Utf8.ofString (textOf numberFile.content) =
      Utf8.encode (Value.object numberMembers).write := by decide +kernel
  have hnumbers : numberFile.Numbers iniReaders .ttlSecs 9223372036854775807 :=
    .json rfl (htext ▸ fileText_write hfits) hfits rfl rfl (by decide +kernel)
  have hread : textOf iniFile.content = iniText := by decide +kernel
  have hnumbers' : iniFile.Numbers iniReaders .ttlSecs 9223372036854775807 :=
    .foreign rfl (if_pos ⟨rfl, hread⟩) (by simp [Tree.SortedTo, Tree.entries, iniEntries]) rfl rfl
      .text (by decide +kernel)
  have huntouched : ∀ e ∈ numberVariables, ∀ setting ∈ settingOf? e.1,
      Tree.Apart "dead_letter" "ttl_secs" (Path.ofName setting) := by decide +kernel
  have hfile := load_number (by decide) (by decide) (.inFile hfind hnumbers huntouched)
  have hfile' := load_number (by decide) (by decide) (.inFile hfind' hnumbers' huntouched)
  have hvariable : NumberSetting.batchSize.Written iniReaders (folderOf iniFile) "setup.ini"
      4294967295 numberVariables :=
    .inVariable (by decide +kernel) fun _ h => absurd h List.not_mem_nil
  have hbatch := load_number (by decide) (by decide) hvariable
  rw [hload] at hfile
  rw [hload'] at hfile' hbatch
  obtain ⟨_, ⟨⟩⟩ | ⟨_, ⟨⟩, hfile⟩ := hfile
  obtain ⟨_, ⟨⟩⟩ | ⟨_, ⟨⟩, hfile'⟩ := hfile'
  obtain ⟨_, ⟨⟩⟩ | ⟨_, ⟨⟩, hbatch⟩ := hbatch
  exact ⟨hfile, hbatch, hload, hload'⟩

end RowRelay.Setup
