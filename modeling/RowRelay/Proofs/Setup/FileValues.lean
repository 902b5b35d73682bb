import Mathlib.Data.List.Forall2
import RowRelay.Proofs.Json.Values
import RowRelay.Proofs.Setup.Tree
import RowRelay.Setup.File

/-!
# What a setup file gives

A file gives a setting when its last entry for the section is a table whose last entry for the
setting is a scalar, and no other entry of the file leads there (`gives_putAll`). This is so for a
text in JSON, whose members are read as the texts of the grammar say (`values_json`), and for the
document of a text in YAML (`values_yaml`).
-/

set_option autoImplicit false

namespace RowRelay.Setup

open Json

/-! ## In another format -/

/-- The values of a file in another format are those of the table that its reader finds. -/
theorem values_foreign {readers : Readers} {file : SetupFile} {format : ForeignFormat}
    (hformat : file.format = .foreign format) {o : Option String} {es : List (String × Tree)}
    (hread : readers format file.name (textOf file.content) = .ok (.table o es)) :
    file.values readers = .ok es := by
  have htree : file.tree readers = .ok (.table o es) := by
    simp only [SetupFile.tree, hformat, hread, Except.mapError]
  rw [SetupFile.values, htree]

/-! ## A section laid over nothing or over something -/

namespace Tree

variable {sectionKey key : String} {o o' : Option String} {v : Scalar}

theorem lookup_overlayEntries_of_ne {es : List (String × Tree)} (h : ∀ e ∈ es, e.1 ≠ key) :
    ∀ base : List (String × Tree), (overlayEntries base es).lookup key = base.lookup key := by
  induction es with
  | nil => exact fun _ => rfl
  | cons e es ih =>
    intro base
    obtain ⟨he, h⟩ := List.forall_mem_cons.1 h
    rw [overlayEntries, ih h, Members.lookup_insert, if_neg (Ne.symm he)]

/-- A scalar takes the place of what stood under its key. -/
theorem lookup_overlayEntries {es : List (String × Tree)} (hsorted : es.Pairwise (·.1 < ·.1))
    (hv : es.lookup key = some (.scalar o v)) :
    ∀ base : List (String × Tree), (overlayEntries base es).lookup key = some (.scalar o v) := by
  induction es with
  | nil => cases hv
  | cons e es ih =>
    intro base
    obtain ⟨k, t⟩ := e
    obtain ⟨hk, hsorted⟩ := List.pairwise_cons.1 hsorted
    rw [overlayEntries]
    rw [Members.lookup_cons] at hv
    split at hv
    · next heq =>
      subst heq
      cases hv
      have hnone : ∀ e ∈ es, e.1 ≠ key := fun e he heq => String.lt_irrefl key (heq ▸ hk e he)
      rw [lookup_overlayEntries_of_ne hnone, Members.lookup_insert, if_pos rfl, overlay]
    · exact ih hsorted hv _

/-- A section that has a scalar for a setting, laid over a tree, gives it there. -/
theorem gives_put_table (t : Tree) (sectionKey : String) (o' : Option String)
    {es : List (String × Tree)} (hsorted : es.Pairwise (·.1 < ·.1))
    (hv : es.lookup key = some (.scalar o v)) :
    (t.put [.key sectionKey] (.table o' es)).Gives sectionKey key (.scalar o v) := by
  refine ⟨_, _, (Members.lookup_insert ..).trans (if_pos rfl), ?_⟩
  exact lookup_overlayEntries hsorted hv _

/-- **What a section of a file has for a setting** is given where no other entry of the file leads
there. -/
theorem gives_putAll {values es : List (String × Tree)}
    (hname : Path.ofName sectionKey = [.key sectionKey]) (hvalues : values.Pairwise (·.1 < ·.1))
    (hsection : values.lookup sectionKey = some (.table o' es))
    (hsorted : es.Pairwise (·.1 < ·.1)) (hv : es.lookup key = some (.scalar o v))
    (hapart : ∀ e ∈ values, e.1 ≠ sectionKey → Apart sectionKey key (.ofName e.1)) (t : Tree) :
    (t.putAll values).Gives sectionKey key (.scalar o v) := by
  obtain ⟨before, after, rfl, -⟩ := List.lookup_eq_some_iff.1 hsection
  have hafter := (List.pairwise_cons.1 (List.pairwise_append.1 hvalues).2.1).1
  rw [putAll_append]
  have hput := gives_put_table (t.putAll before) sectionKey o' hsorted hv
  rw [← hname] at hput
  refine hput.putAll _ fun e he => hapart e (by simp [he]) fun heq => ?_
  exact String.lt_irrefl sectionKey (heq ▸ hafter e he)

end Tree

/-! ## In JSON -/

theorem entriesOfJson_eq (origin : String) (ms : List (String × Value)) :
    entriesOfJson origin ms = ms.map fun m => (m.1, Tree.ofJson origin m.2) := by
  induction ms with
  | nil => rfl
  | cons m ms ih => rw [entriesOfJson, ih, List.map_cons]

theorem lookup_entriesOfJson (origin key : String) (ms : List (String × Value)) :
    (entriesOfJson origin ms).lookup key = (ms.lookup key).map (Tree.ofJson origin) := by
  rw [entriesOfJson_eq, Members.lookup_map]

theorem entriesOfJson_sorted (origin : String) {ms : List (String × Value)}
    (h : ms.Pairwise (·.1 < ·.1)) : (entriesOfJson origin ms).Pairwise (·.1 < ·.1) := by
  rw [entriesOfJson_eq]
  exact List.pairwise_map.2 h

theorem values_json (readers : Readers) {file : SetupFile} (hformat : file.format = .json)
    {ms : List (String × Value)} (hfits : (Value.object ms).Fits maxDepth)
    (htext : FileText TextOf (.object ms) (Utf8.ofString (textOf file.content))) :
    file.values readers = .ok (entriesOfJson file.name (Members.ofList (settleMembers ms))) := by
  have htree : file.tree readers = .ok (.ofJson file.name (Value.object ms).settle) := by
    simp only [SetupFile.tree, hformat, parse_text hfits htext]
  rw [Value.settle, Tree.ofJson] at htree
  rw [SetupFile.values, htree]

/-- **A number in a text in JSON** is given where it stands in the last member of its key, in the
last member of its section. -/
theorem gives_json {origin sectionKey key : String} {ms ms' : List (String × Value)} {z : Int}
    (hname : Path.ofName sectionKey = [.key sectionKey])
    (hsection : ms.reverse.lookup sectionKey = some (.object ms'))
    (hkey : ms'.reverse.lookup key = some (.number (.int z)))
    (hapart : ∀ m ∈ ms, m.1 ≠ sectionKey → Tree.Apart sectionKey key (.ofName m.1)) :
    (Tree.empty.putAll (entriesOfJson origin (Members.ofList (settleMembers ms)))).Gives
      sectionKey key (.scalar (some origin) (.int z)) := by
  have hvalue : (entriesOfJson origin (Members.ofList (settleMembers ms))).lookup sectionKey =
      some (.table (some origin) (entriesOfJson origin (Members.ofList (settleMembers ms')))) := by
    rw [lookup_entriesOfJson, lookup_settleMembers, hsection]
    rfl
  refine Tree.gives_putAll hname (entriesOfJson_sorted _ (Members.ofList_sorted _)) hvalue
    (entriesOfJson_sorted _ (Members.ofList_sorted _)) ?_ (fun e he => ?_) _
  · rw [lookup_entriesOfJson, lookup_settleMembers, hkey]
    rfl
  · rw [entriesOfJson_eq] at he
    obtain ⟨m, hm, rfl⟩ := List.mem_map.1 he
    have hlookup := Members.lookup_of_mem (Members.ofList_sorted _) hm
    rw [lookup_settleMembers] at hlookup
    obtain ⟨v, hv, -⟩ := Option.map_eq_some_iff.1 hlookup
    exact hapart (m.1, v) (List.mem_reverse.1 (Members.mem_of_lookup hv))

/-! ## In YAML -/

/-- The last value that the entries of a mapping have under a key. -/
def underKey? (key : String) (entries : List (Yaml.Node × Yaml.Node)) : Option Yaml.Node :=
  (entries.reverse.find? fun e => keyOfYaml? e.1 == some key).map (·.2)

/-- The entry of a tree says what the entry of a mapping says. -/
def SameEntry (origin : String) (e : Yaml.Node × Yaml.Node) (y : String × Tree) : Prop :=
  keyOfYaml? e.1 = some y.1 ∧ Tree.ofYaml? origin e.2 = some y.2

theorem sameEntries_of_entriesOfYaml (origin : String) :
    ∀ {entries : List (Yaml.Node × Yaml.Node)} {es : List (String × Tree)},
      entriesOfYaml? origin entries = some es → List.Forall₂ (SameEntry origin) entries es
  | [], es, h => by
    cases h
    exact .nil
  | (k, node) :: entries, es, h => by
    simp only [entriesOfYaml?, Option.bind_eq_bind, Option.bind_eq_some_iff, Option.pure_def,
      Option.some.injEq] at h
    obtain ⟨name, hname, t, ht, rest, hrest, rfl⟩ := h
    exact .cons ⟨hname, ht⟩ (sameEntries_of_entriesOfYaml origin hrest)

theorem lookup_sameEntries {origin key : String} {entries : List (Yaml.Node × Yaml.Node)}
    {es : List (String × Tree)} (h : List.Forall₂ (SameEntry origin) entries es)
    {e : Yaml.Node × Yaml.Node}
    (he : entries.find? (fun e => keyOfYaml? e.1 == some key) = some e) :
    ∃ t, es.lookup key = some t ∧ Tree.ofYaml? origin e.2 = some t := by
  induction h with
  | nil => cases he
  | @cons e' y entries es hsame _ ih =>
    obtain ⟨k, t⟩ := y
    obtain ⟨hkey, ht⟩ := hsame
    rw [List.find?_cons, hkey] at he
    rw [Members.lookup_cons]
    by_cases hk : key = k
    · subst hk
      simp only [beq_self_eq_true, Option.some.injEq] at he
      exact ⟨t, if_pos rfl, he ▸ ht⟩
    · have hne : (some k == some key) = false := by simpa using Ne.symm hk
      rw [hne] at he
      rw [if_neg hk]
      exact ih he

theorem key_of_sameEntries {origin : String} {entries : List (Yaml.Node × Yaml.Node)}
    {es : List (String × Tree)} (h : List.Forall₂ (SameEntry origin) entries es) :
    ∀ y ∈ es, ∃ e ∈ entries, keyOfYaml? e.1 = some y.1 := by
  induction h with
  | nil => exact nofun
  | cons hsame _ ih =>
    refine List.forall_mem_cons.2 ⟨⟨_, List.mem_cons_self, hsame.1⟩, fun y hy => ?_⟩
    obtain ⟨e, he, hkey⟩ := ih y hy
    exact ⟨e, List.mem_cons_of_mem _ he, hkey⟩

/-- Under a key of a mapping stands what its last value there says. -/
theorem ofYaml_mapping {origin : String} {entries : List (Yaml.Node × Yaml.Node)} {t : Tree}
    (h : Tree.ofYaml? origin (.mapping entries) = some t) :
    ∃ es, t = .table (some origin) es ∧ es.Pairwise (·.1 < ·.1) ∧
      (∀ e ∈ es, ∃ e' ∈ entries, keyOfYaml? e'.1 = some e.1) ∧
      ∀ (key : String) (node : Yaml.Node), underKey? key entries = some node →
        ∃ t', es.lookup key = some t' ∧ Tree.ofYaml? origin node = some t' := by
  rw [Tree.ofYaml?] at h
  obtain ⟨es, hes, rfl⟩ := Option.map_eq_some_iff.1 h
  have hsame := sameEntries_of_entriesOfYaml origin hes
  refine ⟨_, rfl, Members.ofList_sorted es, fun e he => ?_, fun key node hnode => ?_⟩
  · have hlookup := Members.lookup_of_mem (Members.ofList_sorted es) he
    rw [Members.lookup_ofList] at hlookup
    exact key_of_sameEntries hsame e (List.mem_reverse.1 (Members.mem_of_lookup hlookup))
  · obtain ⟨e, he, rfl⟩ := Option.map_eq_some_iff.1 hnode
    obtain ⟨t', ht', hof⟩ := lookup_sameEntries (List.rel_reverse hsame) he
    exact ⟨t', by rw [Members.lookup_ofList, ht'], hof⟩

theorem values_yaml {readers : Readers} {file : SetupFile} (hformat : file.format = .yaml)
    {entries : List (Yaml.Node × Yaml.Node)}
    (htext : Yaml.parse (textOf file.content).toList = some [.mapping entries])
    {values : List (String × Tree)} (h : file.values readers = .ok values) :
    ∃ o, Tree.ofYaml? file.name (.mapping entries) = some (.table o values) := by
  have htree : file.tree readers = treeOfYaml file.name (textOf file.content).toList := by
    simp only [SetupFile.tree, hformat]
  rw [SetupFile.values, htree] at h
  simp only [treeOfYaml, htext] at h
  cases hof : Tree.ofYaml? file.name (.mapping entries) with
  | none =>
    rw [hof] at h
    cases h
  | some t =>
    rw [hof] at h
    obtain ⟨es, rfl, -⟩ := ofYaml_mapping hof
    cases h
    exact ⟨_, rfl⟩

/-- **A scalar in a document in YAML** is given where it is the last value of its key, in the last
value of its section. -/
theorem gives_yaml {origin sectionKey key : String} {o : Option String}
    {entries entries' : List (Yaml.Node × Yaml.Node)} {values : List (String × Tree)}
    {s : Yaml.Scalar} {v : Scalar} (hv : Scalar.ofYaml? s = some v)
    (hname : Path.ofName sectionKey = [.key sectionKey])
    (hof : Tree.ofYaml? origin (.mapping entries) = some (.table o values))
    (hsection : underKey? sectionKey entries = some (.mapping entries'))
    (hkey : underKey? key entries' = some (.scalar s))
    (hapart : ∀ e ∈ entries, ∀ name, keyOfYaml? e.1 = some name → name ≠ sectionKey →
      Tree.Apart sectionKey key (.ofName name)) :
    (Tree.empty.putAll values).Gives sectionKey key (.scalar (some origin) v) := by
  obtain ⟨es, hes, hsorted, hkeys, hunder⟩ := ofYaml_mapping hof
  cases hes
  obtain ⟨t, ht, hoft⟩ := hunder _ _ hsection
  obtain ⟨es', rfl, hsorted', -, hunder'⟩ := ofYaml_mapping hoft
  obtain ⟨t', ht', hoft'⟩ := hunder' _ _ hkey
  rw [Tree.ofYaml?, hv] at hoft'
  cases hoft'
  refine Tree.gives_putAll hname hsorted ht hsorted' ht' (fun e he => ?_) _
  obtain ⟨e', he', hname'⟩ := hkeys e he
  exact hapart e' he' e.1 hname'

end RowRelay.Setup
