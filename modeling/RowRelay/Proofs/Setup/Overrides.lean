import RowRelay.Proofs.Setup.TextSettings

/-!
# Which spelling of a name counts

The entries of a table stand for the names of the target in whatever case they are spelled. For
each name the spelling in lower case counts if it is there, and else the other one if there is only
one; entries that stand for something else have no say, and neither have capitals beyond ASCII
(`LowerCaseWins`). A variable gives a name in lower case, and so it wins over all spellings in the
setup file (`VariableWins`).

* `lower_case_wins`: both hold of every name.
-/

set_option autoImplicit false

namespace RowRelay.Setup.TargetDraft

variable {key : String} {get : TargetDraft → Option String} {es es' : List (String × String)}

/-- What the entries of a table, in the order in which they are read, set for a name. -/
structure LowerCaseWins (key : String) (get : TargetDraft → Option String)
    (es : List (String × String)) : Prop where
  /-- The name in lower case counts, whatever other spellings there are. -/
  exact : ∀ x, (key, x) ∈ es → get (ofEntries es) = some x
  /-- Without it a spelling counts that is the only one. -/
  single : (∀ x, (key, x) ∉ es) → ∀ e ∈ es, Text.lowerCase e.1 = key →
    (∀ e' ∈ es, Text.lowerCase e'.1 = key → e'.1 = e.1) → get (ofEntries es) = some e.2
  /-- Without any spelling there is no value. -/
  absent : (∀ e ∈ es, Text.lowerCase e.1 ≠ key) → get (ofEntries es) = none
  /-- Keys that stand for something else have no say. -/
  others : ∀ es' : List (String × String), es'.filter (fun e => Text.lowerCase e.1 = key) =
    es.filter (fun e => Text.lowerCase e.1 = key) → get (ofEntries es') = get (ofEntries es)
  /-- Nor does it matter what counts as a capital beyond ASCII. -/
  capitals : ∀ capital : Char → Bool, (∀ c, c.toNat < 0x80 → capital c = c.isUpper) →
    get ((capitalsFirst capital es).foldl set {}) = get (ofEntries es)

/-- The last variable for a name decides about it, whatever the setup file holds. -/
def VariableWins (key : String) (get : TargetDraft → Option String) : Prop :=
  ∀ (readers : Readers) (folder : Folder) (path : String) (before after : List (String × String))
    (name x : String) (t : Tree) (d : Draft),
    settingOf? name = some ("env." ++ key) → Untouched "env" key after →
    gather readers folder (before ++ (name, x) :: after) path = .ok t → Draft.ofTree t = .ok d →
    get d.target = (Scalar.ofVariable x).text?

section
variable (h : (key, get) ∈ names)
include h

/-- Only the entries that stand for a name decide about it. -/
theorem get_ofEntries_congr (hsame : spellings key es' = spellings key es) :
    get (ofEntries es') = get (ofEntries es) := by
  rw [get_ofEntries h, get_ofEntries h, hsame]

theorem get_ofEntries_absent (hnone : ∀ e ∈ es, Text.lowerCase e.1 ≠ key) :
    get (ofEntries es) = none := by
  have hempty : spellings key es = [] := by
    rw [spellings, List.filter_eq_nil_iff]
    simpa using hnone
  rw [get_ofEntries h, hempty]
  rfl

theorem get_ofEntries_single (hmap : (es.map (·.1)).Nodup) (hnone : ∀ x, (key, x) ∉ es)
    {e : String × String} (he : e ∈ es) (heq : Text.lowerCase e.1 = key)
    (honly : ∀ e' ∈ es, Text.lowerCase e'.1 = key → e'.1 = e.1) :
    get (ofEntries es) = some e.2 := by
  have hall : ∀ e' ∈ spellings key es, e'.2 = e.2 := by
    intro e' he'
    obtain ⟨he', heq'⟩ := mem_spellings.1 he'
    exact value_eq_of_key hmap he e' he' (honly e' he' heq')
  have hkeys : ∀ e' ∈ es, e'.1 ≠ key := by
    intro e' he' hkey
    exact hnone e'.2 (hkey ▸ he')
  rw [get_ofEntries_capital h hkeys]
  exact lastValue_append (mem_spellings.2 ⟨he, heq⟩) hall []

/-- A name of the target is one of the settings that are texts. -/
theorem textSetting_of_names :
    ∃ s : TextSetting, s.place = ("env", key) ∧ ∀ d : Draft, s.drafted d = get d.target := by
  simp only [names, List.mem_cons, Prod.mk.injEq, List.not_mem_nil, or_false] at h
  rcases h with ⟨rfl, rfl⟩ | ⟨rfl, rfl⟩ | ⟨rfl, rfl⟩ | ⟨rfl, rfl⟩
  · exact ⟨.projectId, rfl, fun _ => rfl⟩
  · exact ⟨.datasetId, rfl, fun _ => rfl⟩
  · exact ⟨.tableId, rfl, fun _ => rfl⟩
  · exact ⟨.subscription, rfl, fun _ => rfl⟩

theorem variableWins_of_names : VariableWins key get := by
  intro readers folder path before after name x t d hname hafter ht hd
  obtain ⟨s, hplace, hdrafted⟩ := textSetting_of_names h
  have hname' : settingOf? name = some s.name := by
    rw [hname, TextSetting.name, hplace]
    rfl
  have hafter' : Untouched s.place.1 s.place.2 after := by
    rw [hplace]
    exact hafter
  obtain ⟨hsorted, hgives⟩ := gather_gives s hname' hafter' ht
  obtain ⟨y, hy⟩ := text?_ofVariable x
  rw [← hdrafted, hy]
  exact drafted_of_gives s hsorted hy hgives hd

/-- **The spelling in lower case wins**, in whatever order the entries of a table are read, and so
does a variable. -/
theorem lower_case_wins (hmap : (es.map (·.1)).Nodup) :
    LowerCaseWins key get es ∧ VariableWins key get := by
  refine ⟨⟨fun x hmem => ?_, fun hnone e he heq honly => ?_, fun hnone => ?_, fun es' hsame => ?_,
    fun capital hascii => ?_⟩, variableWins_of_names h⟩
  · exact get_ofEntries_exact h hmem (value_eq_of_key hmap hmem)
  · exact get_ofEntries_single h hmap hnone he heq honly
  · exact get_ofEntries_absent h hnone
  · exact get_ofEntries_congr h hsame
  · rw [foldl_set_capitalsFirst hascii]

end

/-! ## A name spelled in three ways -/

/-- A setup file that spells a name in two ways. -/
def twoSpellings : Folder :=
  [("setup.json", Bytes.ofAscii ("\x7b\"env\":\x7b\"PROJECT_ID\":\"taxi-project\"," ++
    "\"Project_Id\":\"old-project\"\x7d\x7d"))]

theorem lower_case_wins_sample :
    (ofEntries [("PROJECT_ID", "p1"), ("project_id", "p2"), ("Project_Id", "p3")]).projectId =
        some "p2" ∧
      (ofEntries [("Straße", "s"), ("TABLE_ID", "t")]).tableId = some "t" ∧
      ∃ t d,
        gather refusing twoSpellings [("RELAY_ENV__PROJECT_ID", "other-project")] "setup" = .ok t ∧
        Draft.ofTree t = .ok d ∧ d.target.projectId = some "other-project" := by
  have hexact : LowerCaseWins "project_id" projectId
      [("PROJECT_ID", "p1"), ("project_id", "p2"), ("Project_Id", "p3")] ∧
      VariableWins "project_id" projectId := lower_case_wins (.head _) (by decide)
  have hsingle : LowerCaseWins "table_id" tableId [("Straße", "s"), ("TABLE_ID", "t")] ∧
      VariableWins "table_id" tableId :=
    lower_case_wins (.tail _ (.tail _ (.head _))) (by decide)
  have hdraft : (gather refusing twoSpellings [("RELAY_ENV__PROJECT_ID", "other-project")] "setup"
      >>= Draft.ofTree).toOption.isSome = true := by decide +kernel
  obtain ⟨d, hd⟩ := Option.isSome_iff_exists.1 hdraft
  obtain ⟨t, ht, hd⟩ := ok_of_bind (ok_of_toOption hd)
  refine ⟨hexact.1.exact "p2" (by decide), ?_, t, d, ht, hd, ?_⟩
  · refine hsingle.1.single (fun x => by simp) ("TABLE_ID", "t") (by decide) (by decide +kernel) ?_
    decide +kernel
  · have hvariable := hexact.2 refusing twoSpellings "setup" [] [] "RELAY_ENV__PROJECT_ID"
      "other-project" t d (by decide +kernel) nofun ht hd
    rw [hvariable]
    decide +kernel

end RowRelay.Setup.TargetDraft
