import RowRelay.Proofs.Decimal
import RowRelay.Proofs.Setup.Acceptance
import RowRelay.Proofs.Setup.Gather
import RowRelay.Proofs.Setup.Sections
import RowRelay.Proofs.Setup.Target

/-!
# Text settings from the environment

A variable that gives a text setting overrides the setup file, and the setting is then the text of
what the variable stands for (`load_text_variable`). This is the text of the variable itself unless
it reads as a yes or no or as a number (`IsWord`); a number comes back as it is usually written, so
that zeros in front are lost (`not_load_verbatim`).
-/

set_option autoImplicit false

namespace RowRelay.Setup

open Json

/-! ## Settings that are texts -/

inductive TextSetting where
  | projectId
  | datasetId
  | tableId
  | subscription
  | accessToken
  | pubsubUrl
  | bigqueryUrl
  | letterPath
  | logLevel
  deriving DecidableEq, Repr

namespace TextSetting

/-- The keys of the section and of the setting in it. -/
def place : TextSetting → String × String
  | .projectId => ("env", "project_id")
  | .datasetId => ("env", "dataset_id")
  | .tableId => ("env", "table_id")
  | .subscription => ("env", "subscription")
  | .accessToken => ("auth", "access_token")
  | .pubsubUrl => ("endpoints", "pubsub_url")
  | .bigqueryUrl => ("endpoints", "bigquery_url")
  | .letterPath => ("dead_letter", "path")
  | .logLevel => ("logging", "level")

def name (s : TextSetting) : String :=
  s.place.1 ++ "." ++ s.place.2

/-- What settings have for it. -/
def value : TextSetting → Settings → Option String
  | .projectId, settings => some settings.target.projectId
  | .datasetId, settings => some settings.target.datasetId
  | .tableId, settings => some settings.target.tableId
  | .subscription, settings => some settings.target.subscription
  | .accessToken, settings => settings.auth.accessToken
  | .pubsubUrl, settings => some settings.endpoints.pubsubUrl
  | .bigqueryUrl, settings => some settings.endpoints.bigqueryUrl
  | .letterPath, settings => some settings.deadLetter.path
  | .logLevel, settings => some settings.logging.level

/-- What a draft has for it. -/
def drafted : TextSetting → Draft → Option String
  | .projectId, d => d.target.projectId
  | .datasetId, d => d.target.datasetId
  | .tableId, d => d.target.tableId
  | .subscription, d => d.target.subscription
  | .accessToken, d => d.auth.accessToken
  | .pubsubUrl, d => d.endpoints.pubsubUrl
  | .bigqueryUrl, d => d.endpoints.bigqueryUrl
  | .letterPath, d => d.deadLetter.path
  | .logLevel, d => d.logging.level

theorem ofName_name (s : TextSetting) : Path.ofName s.name = [.key s.place.1, .key s.place.2] := by
  cases s <;> decide +kernel

end TextSetting

/-! ## From a draft to settings -/

theorem TextSetting.value_of_drafted (s : TextSetting) {d : Draft} {settings : Settings}
    {x : String} (h : d.complete = .ok settings) (hx : s.drafted d = some x) :
    s.value settings = some x := by
  have heffective := (Draft.met_of_complete h).1
  cases s with
  | projectId | datasetId | tableId | subscription =>
    rw [drafted, heffective.target] at hx
    exact hx
  | accessToken =>
    rw [value, heffective.auth]
    exact hx
  | pubsubUrl | bigqueryUrl =>
    rw [drafted] at hx
    rw [value, heffective.endpoints, hx]
    rfl
  | letterPath =>
    rw [drafted] at hx
    rw [value, heffective.deadLetter, hx]
    rfl
  | logLevel =>
    rw [drafted] at hx
    rw [value, heffective.logging, hx]
    rfl

/-! ## From a tree to a draft -/

theorem sections_keep (s : TextSetting) :
    ∀ part ∈ sections.settings, part.key ≠ s.place.1 → part.Keeps s.drafted := by
  intro part hpart hne
  simp only [sections, List.mem_cons, List.not_mem_nil, or_false] at hpart
  rcases hpart with rfl | rfl | rfl | rfl | rfl | rfl
  all_goals cases s
  all_goals first
    | exact absurd rfl hne
    | exact keeps_setting _ fun _ _ => rfl

section
variable {parent : String} {es : List (String × Tree)} {o o' : Option String} {v : Scalar}
  {x : String} (hsorted : es.Pairwise (·.1 < ·.1)) (hx : v.text? = some x)
include hsorted hx

theorem endpoints_text {key : String} {get : EndpointDraft → Option String}
    (h : (key, get) ∈ [("pubsub_url", EndpointDraft.pubsubUrl),
      ("bigquery_url", EndpointDraft.bigqueryUrl)]) (hv : es.lookup key = some (.scalar o v))
    {d d' : EndpointDraft} (hread : endpointSection.read d parent (.table o' es) = .ok d') :
    get d' = some x := by
  simp only [List.mem_cons, Prod.mk.injEq, List.not_mem_nil, or_false] at h
  rcases h with ⟨rfl, rfl⟩ | ⟨rfl, rfl⟩
  all_goals
    refine Section.read_text (fun s hs hne => ?_) rfl (fun a y => ?_) hsorted hx hv hread
    · simp only [endpointSection, List.mem_cons, List.not_mem_nil, or_false] at hs
      rcases hs with rfl | rfl | rfl
      all_goals first
        | exact absurd rfl hne
        | exact keeps_setting _ fun _ _ => rfl
    · rfl

theorem auth_text (hv : es.lookup "access_token" = some (.scalar o v)) {d d' : AuthSettings}
    (hread : authSection.read d parent (.table o' es) = .ok d') : d'.accessToken = some x := by
  refine Section.read_text (fun s hs hne => ?_) rfl (fun a y => ?_) hsorted hx hv hread
  · obtain rfl := List.mem_singleton.1 hs
    exact absurd rfl hne
  · rfl

theorem deadLetter_text (hv : es.lookup "path" = some (.scalar o v)) {d d' : DeadLetterDraft}
    (hread : deadLetterSection.read d parent (.table o' es) = .ok d') : d'.path = some x := by
  refine Section.read_text (fun s hs hne => ?_) rfl (fun a y => ?_) hsorted hx hv hread
  · simp only [deadLetterSection, List.mem_cons, List.not_mem_nil, or_false] at hs
    rcases hs with rfl | rfl | rfl
    · exact absurd rfl hne
    · exact keeps_setting _ fun _ _ => rfl
    · exact keeps_setting _ fun _ _ => rfl
  · rfl

theorem logging_text (hv : es.lookup "level" = some (.scalar o v)) {d d' : LoggingDraft}
    (hread : loggingSection.read d parent (.table o' es) = .ok d') : d'.level = some x := by
  refine Section.read_text (fun s hs hne => ?_) rfl (fun a y => ?_) hsorted hx hv hread
  · obtain rfl := List.mem_singleton.1 hs
    exact absurd rfl hne
  · rfl

end

/-- What the draft has for a text setting is the text of the scalar that the tree gives. -/
theorem drafted_of_gives (s : TextSetting) {t : Tree} (hsorted : t.SortedTo 2) {o : Option String}
    {v : Scalar} {x : String} (hx : v.text? = some x)
    (hv : t.Gives s.place.1 s.place.2 (.scalar o v)) {d : Draft} (h : Draft.ofTree t = .ok d) :
    s.drafted d = some x := by
  obtain ⟨o', es, hsection, hkey⟩ := hv
  have hes : es.Pairwise (·.1 < ·.1) := (hsorted.2 _ (Members.mem_of_lookup hsection)).1
  obtain ⟨part, hpart⟩ : ∃ part, sections.settings.find? (·.key == s.place.1) = some part := by
    cases s <;> exact ⟨_, rfl⟩
  obtain ⟨b, b', hb, hget⟩ :=
    Section.readEntries_lookup (sections_keep s) hpart hsorted.1 hsection h
  rw [hget]
  cases s
  all_goals
    cases hpart
    obtain ⟨y, hy, rfl⟩ := ok_of_map hb
  · exact target_lookup (.head _) hes hx hkey hy
  · exact target_lookup (.tail _ (.head _)) hes hx hkey hy
  · exact target_lookup (.tail _ (.tail _ (.head _))) hes hx hkey hy
  · exact target_lookup (.tail _ (.tail _ (.tail _ (.head _)))) hes hx hkey hy
  · exact auth_text hes hx hkey hy
  · exact endpoints_text hes hx (.head _) hkey hy
  · exact endpoints_text hes hx (.tail _ (.head _)) hkey hy
  · exact deadLetter_text hes hx hkey hy
  · exact logging_text hes hx hkey hy

/-! ## What a variable stands for -/

/-- The text reads neither as a yes or no nor as a number. -/
def IsWord (x : String) : Prop :=
  Text.lowerCase x ≠ "true" ∧ Text.lowerCase x ≠ "false" ∧
    Decimal.signed64? 10 x.toList = none ∧ Decimal.double? x.toList = none

instance (x : String) : Decidable (IsWord x) := by
  unfold IsWord
  infer_instance

theorem text?_ofVariable (x : String) : ∃ y, (Scalar.ofVariable x).text? = some y := by
  unfold Scalar.ofVariable
  split
  · exact ⟨_, rfl⟩
  · exact ⟨_, rfl⟩
  · split
    · exact ⟨_, rfl⟩
    · split <;> exact ⟨_, rfl⟩

theorem ofVariable_of_isWord {x : String} (h : IsWord x) : Scalar.ofVariable x = .text x := by
  obtain ⟨htrue, hfalse, hint, hfloat⟩ := h
  unfold Scalar.ofVariable
  split
  · next heq => exact absurd heq htrue
  · next heq => exact absurd heq hfalse
  · rw [hint, hfloat]

/-- A sign or a digit begins no yes or no. -/
theorem lowerCase_writeInt (n : Int) {word : String} (hword : word ∈ yes ++ no) :
    Text.lowerCase (String.ofList (writeInt n)) ≠ word := by
  intro heq
  obtain ⟨c, cs, hcs, hc⟩ := Decimal.writeInt_cons n
  have hascii : c.toNat < 0x80 ∧ c.isUpper = false := by
    rcases hc with rfl | hdigit
    · decide
    · have hcode : 48 ≤ c.toNat ∧ c.toNat ≤ 57 := by
        simpa [Char.isDigit, UInt32.le_iff_toNat_le] using hdigit
      refine ⟨by omega, Bool.eq_false_iff.2 fun hupper => ?_⟩
      have hle : 65 ≤ c.toNat := UInt32.le_iff_toNat_le.1 (of_decide_eq_true hupper).1
      omega
  have hchars := congrArg String.toList heq
  rw [Text.lowerCase, String.toList_ofList, String.toList_ofList, hcs,
    Text.lowerCaseAfter_cons hascii.1 hascii.2] at hchars
  have hbegins : ∀ word ∈ yes ++ no,
      (word.toList.head?.all fun c => c != '-' && !c.isDigit) = true := by
    decide +kernel
  have hfirst := hbegins word hword
  rw [← hchars] at hfirst
  rcases hc with rfl | hdigit
  · simp at hfirst
  · simp [hdigit] at hfirst

theorem ofVariable_writeInt {n : Int} (hlow : Int64.minValue.toInt ≤ n)
    (hhigh : n ≤ Int64.maxValue.toInt) :
    Scalar.ofVariable (String.ofList (writeInt n)) = .int n := by
  have hread := Decimal.signed64?_writeInt hlow hhigh
  unfold Scalar.ofVariable
  split
  · next heq => exact absurd heq (lowerCase_writeInt n (by decide))
  · next heq => exact absurd heq (lowerCase_writeInt n (by decide))
  · rw [String.toList_ofList, hread]

/-- The texts that a variable stands for as they are: words, yes and no in lower case, and whole
numbers in plain decimal. -/
inductive Verbatim : String → Prop
  | word {x : String} : IsWord x → Verbatim x
  | yes : Verbatim "true"
  | no : Verbatim "false"
  | whole {n : Int} : Int64.minValue.toInt ≤ n → n ≤ Int64.maxValue.toInt →
      Verbatim (String.ofList (writeInt n))

theorem Verbatim.text_eq {x : String} (h : Verbatim x) :
    (Scalar.ofVariable x).text? = some x := by
  cases h with
  | word hword => rw [ofVariable_of_isWord hword, Scalar.text?]
  | yes => decide +kernel
  | no => decide +kernel
  | whole hlow hhigh => rw [ofVariable_writeInt hlow hhigh, Scalar.text?]

/-! ## From the environment to the settings -/

section
variable (s : TextSetting) {readers : Readers} {folder : Folder} {path : String}
  {before after : List (String × String)} {name x : String}
  (hname : settingOf? name = some s.name)
  (hafter : ∀ e ∈ after, ∀ setting, settingOf? e.1 = some setting →
    Tree.Apart s.place.1 s.place.2 (Path.ofName setting))
include hname hafter

/-- What the setup file and the variables say together gives what the last variable for a setting
stands for. -/
theorem gather_gives {t : Tree}
    (h : gather readers folder (before ++ (name, x) :: after) path = .ok t) :
    t.SortedTo 2 ∧
      t.Gives s.place.1 s.place.2 (.scalar (some variableOrigin) (.ofVariable x)) :=
  ⟨gather_sorted h, gather_variable hname s.ofName_name hafter h⟩

/-- **A variable that gives a text setting** overrides everything else, and the setting is the text
of what the variable stands for. It is the text of the variable where this is `Verbatim`. -/
theorem load_text_variable {settings : Settings}
    (h : load readers folder (before ++ (name, x) :: after) path = .ok settings) :
    s.value settings = (Scalar.ofVariable x).text? ∧
      (Verbatim x → s.value settings = some x) := by
  obtain ⟨t, ht, h⟩ := ok_of_bind h
  obtain ⟨d, hd, hsettings⟩ := ok_of_bind h
  obtain ⟨hsorted, hgives⟩ := gather_gives s hname hafter ht
  obtain ⟨y, hy⟩ := text?_ofVariable x
  have hdrafted := drafted_of_gives s hsorted hy hgives hd
  have hvalue := s.value_of_drafted hsettings hdrafted
  rw [hvalue, hy]
  refine ⟨rfl, fun hverbatim => ?_⟩
  rw [← hy, hverbatim.text_eq]

end

/-! ## A token as a text and as a number -/

/-- A folder with a setup file that has a token. -/
def sampleFolder : Folder :=
  [("setup.json", Bytes.ofAscii "\x7b\"auth\":\x7b\"access_token\":\"007\"\x7d\x7d")]

/-- The names of the target. -/
def sampleTarget : List (String × String) :=
  [("RELAY_ENV__PROJECT_ID", "p"), ("RELAY_ENV__DATASET_ID", "d"), ("RELAY_ENV__TABLE_ID", "t"),
    ("RELAY_ENV__SUBSCRIPTION", "s")]

def sampleSettings (token : String) : Settings :=
  { target := ⟨"p", "d", "t", "s"⟩, auth := ⟨some token⟩ }

theorem load_text_variable_sample :
    let environment := sampleTarget ++ ("RELAY_AUTH__ACCESS_TOKEN", "ya29.token") ::
      [("RELAY_LOGGING__LEVEL", "info"), ("HOME", "/")]
    load refusing sampleFolder environment "setup" = .ok (sampleSettings "ya29.token") ∧
      Verbatim "ya29.token" ∧
      TextSetting.accessToken.value (sampleSettings "ya29.token") = some "ya29.token" := by
  have hname : settingOf? "RELAY_AUTH__ACCESS_TOKEN" = some TextSetting.accessToken.name := by
    decide +kernel
  have hafter : ∀ e ∈ [("RELAY_LOGGING__LEVEL", "info"), ("HOME", "/")], ∀ setting,
      settingOf? e.1 = some setting → Tree.Apart "auth" "access_token" (Path.ofName setting) := by
    have hall : ∀ e ∈ [("RELAY_LOGGING__LEVEL", "info"), ("HOME", "/")],
        ∀ setting ∈ settingOf? e.1, Tree.Apart "auth" "access_token" (Path.ofName setting) := by
      decide +kernel
    exact hall
  have hload : load refusing sampleFolder
      (sampleTarget ++ ("RELAY_AUTH__ACCESS_TOKEN", "ya29.token") ::
        [("RELAY_LOGGING__LEVEL", "info"), ("HOME", "/")]) "setup" =
      .ok (sampleSettings "ya29.token") :=
    ok_of_toOption (by decide +kernel)
  have hverbatim : Verbatim "ya29.token" := .word (by decide +kernel)
  exact ⟨hload, hverbatim,
    (load_text_variable .accessToken hname hafter hload).2 hverbatim⟩

/-- Not every text is taken as it is: zeros in front are lost in a variable, and kept in a file. -/
theorem not_load_verbatim :
    load refusing sampleFolder sampleTarget "setup" = .ok (sampleSettings "007") ∧
      load refusing [] (sampleTarget ++ [("RELAY_AUTH__ACCESS_TOKEN", "007")]) "setup" =
        .ok (sampleSettings "7") ∧
      ¬ ∀ (s : TextSetting) (readers : Readers) (folder : Folder) (path : String)
        (before after : List (String × String)) (name x : String) (settings : Settings),
        settingOf? name = some s.name →
        (∀ e ∈ after, ∀ setting, settingOf? e.1 = some setting →
          Tree.Apart s.place.1 s.place.2 (Path.ofName setting)) →
        load readers folder (before ++ (name, x) :: after) path = .ok settings →
        s.value settings = some x := by
  have hload : load refusing [] (sampleTarget ++ [("RELAY_AUTH__ACCESS_TOKEN", "007")]) "setup" =
      .ok (sampleSettings "7") := ok_of_toOption (by decide +kernel)
  refine ⟨ok_of_toOption (by decide +kernel), hload, fun hall => ?_⟩
  have htoken := hall .accessToken refusing [] "setup" sampleTarget []
    "RELAY_AUTH__ACCESS_TOKEN" "007" (sampleSettings "7") (by decide +kernel) nofun hload
  revert htoken
  decide

end RowRelay.Setup
