import Mathlib.Data.List.Induction
import Mathlib.Data.List.Nodup
import RowRelay.Proofs.Text.LowerCase
import RowRelay.Setup.Draft

/-!
# Spellings of the target's names

The keys of the target may be spelled in any case. Of the entries that stand for one of its four
names (`spellings`), those with a capital are read first, and the last one read counts
(`get_ofEntries`). Without capitals there is but the name itself: it counts where it is among the
keys (`get_ofEntries_exact`), and elsewhere the last of the other spellings does
(`get_ofEntries_capital`). Capitals beyond ASCII do not matter (`foldl_set_capitalsFirst`).

* `ofEntries_perm_iff`: the entries of a table may be read in any order exactly if each name is
  among the keys or has one value under all of its spellings.
-/

set_option autoImplicit false

namespace RowRelay.Setup.TargetDraft

/-! ## The four names -/

/-- The four names by their keys. -/
def names : List (String × (TargetDraft → Option String)) :=
  [("project_id", projectId), ("dataset_id", datasetId), ("table_id", tableId),
    ("subscription", subscription)]

theorem eq_of_names {d d' : TargetDraft} (h : ∀ name ∈ names, name.2 d = name.2 d') : d = d' := by
  simp only [names, List.forall_mem_cons] at h
  obtain ⟨hproject, hdataset, htable, hsubscription, -⟩ := h
  cases d
  cases d'
  simp_all

section
variable {key : String} {get : TargetDraft → Option String} (h : (key, get) ∈ names)
include h

theorem mem_keys : key ∈ ["project_id", "dataset_id", "table_id", "subscription"] :=
  List.mem_map_of_mem (f := (·.1)) h

theorem isPlain_of_names : ∀ c ∈ key.toList, Text.IsPlain c := by
  have hall : ∀ key ∈ ["project_id", "dataset_id", "table_id", "subscription"],
      key.toList.all (Text.IsPlain ·) = true := by decide
  simpa using List.all_eq_true.1 (hall key (mem_keys h))

theorem lowerCase_key : Text.lowerCase key = key ∧ hasCapital key = false := by
  have hall : ∀ key ∈ ["project_id", "dataset_id", "table_id", "subscription"],
      Text.lowerCase key = key ∧ hasCapital key = false := by decide +kernel
  exact hall key (mem_keys h)

/-- Without capitals only the key itself stands for a name. -/
theorem eq_key_of_lowerCase {spelling : String} (hcapital : hasCapital spelling = false)
    (heq : Text.lowerCase spelling = key) : spelling = key := by
  refine Text.eq_of_lowerCase heq (isPlain_of_names h) fun c hc => ?_
  rw [hasCapital, List.any_eq_false] at hcapital
  simpa using hcapital c hc

theorem get_set (d : TargetDraft) (e : String × String) :
    get (d.set e) = if Text.lowerCase e.1 = key then some e.2 else get d := by
  simp only [names, List.mem_cons, Prod.mk.injEq, List.not_mem_nil, or_false] at h
  unfold set
  rcases h with ⟨rfl, rfl⟩ | ⟨rfl, rfl⟩ | ⟨rfl, rfl⟩ | ⟨rfl, rfl⟩
  all_goals split <;> simp_all

end

/-! ## What counts for a name -/

/-- The entries that stand for a name, however they spell it. -/
def spellings (key : String) (es : List (String × String)) : List (String × String) :=
  es.filter fun e => Text.lowerCase e.1 = key

theorem mem_spellings {key : String} {es : List (String × String)} {e : String × String} :
    e ∈ spellings key es ↔ e ∈ es ∧ Text.lowerCase e.1 = key := by
  simp [spellings]

/-- The entries whose key has a capital, and behind them the others. -/
def capitalsFirst (capital : Char → Bool) (es : List (String × String)) :
    List (String × String) :=
  es.filter (fun e => e.1.toList.any capital) ++ es.filter fun e => !e.1.toList.any capital

theorem spellings_capitalsFirst (key : String) (capital : Char → Bool)
    (es : List (String × String)) :
    spellings key (capitalsFirst capital es) = capitalsFirst capital (spellings key es) := by
  simp only [spellings, capitalsFirst, List.filter_append, List.filter_filter, Bool.and_comm]

/-- The value of the last entry, if there is one. -/
def lastValue (es : List (String × String)) : Option String :=
  es.getLast?.map (·.2)

theorem lastValue_concat (es : List (String × String)) (e : String × String) :
    lastValue (es ++ [e]) = some e.2 := by
  simp [lastValue]

theorem lastValue_append {e : String × String} {es : List (String × String)} (he : e ∈ es)
    (hall : ∀ e' ∈ es, e'.2 = e.2) (before : List (String × String)) :
    lastValue (before ++ es) = some e.2 := by
  have hne := List.ne_nil_of_mem he
  rw [← hall _ (List.getLast_mem hne), lastValue, List.getLast?_append_of_ne_nil _ hne,
    List.getLast?_eq_some_getLast hne, Option.map_some]

section
variable {key : String} {get : TargetDraft → Option String} (h : (key, get) ∈ names)
include h

/-- **The last entry that stands for a name counts.** -/
theorem get_foldl_set (es : List (String × String)) :
    get (es.foldl set {}) = lastValue (spellings key es) := by
  induction es using List.reverseRecOn with
  | nil =>
    simp only [names, List.mem_cons, Prod.mk.injEq, List.not_mem_nil, or_false] at h
    rcases h with ⟨-, rfl⟩ | ⟨-, rfl⟩ | ⟨-, rfl⟩ | ⟨-, rfl⟩ <;> rfl
  | append_singleton es e ih =>
    rw [List.foldl_concat, get_set h, ih, spellings, spellings, List.filter_append]
    by_cases heq : Text.lowerCase e.1 = key
    · simp [heq, lastValue_concat]
    · simp [heq]

theorem get_ofEntries (es : List (String × String)) :
    get (ofEntries es) = lastValue (capitalsFirst Text.isCapital (spellings key es)) := by
  rw [← spellings_capitalsFirst, ← get_foldl_set h]
  rfl

/-- **The name itself counts** if it is among the keys. -/
theorem get_ofEntries_exact {x : String} {es : List (String × String)} (hmem : (key, x) ∈ es)
    (hone : ∀ e ∈ es, e.1 = key → e.2 = x) : get (ofEntries es) = some x := by
  obtain ⟨hlower, hcapital⟩ := lowerCase_key h
  have hsmall : (key, x) ∈ (spellings key es).filter fun e => !hasCapital e.1 :=
    List.mem_filter.2 ⟨mem_spellings.2 ⟨hmem, hlower⟩, by simp [hcapital]⟩
  rw [get_ofEntries h]
  refine lastValue_append hsmall (fun e he => ?_) _
  obtain ⟨he, hsmall⟩ := List.mem_filter.1 he
  obtain ⟨he, heq⟩ := mem_spellings.1 he
  exact hone e he (eq_key_of_lowerCase h (by simpa using hsmall) heq)

/-- **Elsewhere the last of the other spellings counts.** -/
theorem get_ofEntries_capital {es : List (String × String)} (hnone : ∀ e ∈ es, e.1 ≠ key) :
    get (ofEntries es) = lastValue (spellings key es) := by
  have hall : ∀ e ∈ spellings key es, e.1.toList.any Text.isCapital = true := by
    intro e he
    obtain ⟨he, heq⟩ := mem_spellings.1 he
    by_contra hcapital
    exact hnone e he (eq_key_of_lowerCase h (by simpa [hasCapital] using hcapital) heq)
  rw [get_ofEntries h, capitalsFirst, List.filter_eq_self.2 hall,
    List.filter_eq_nil_iff.2 fun e he => by simp [hall e he], List.append_nil]

end

/-- **Capitals beyond ASCII do not matter**: whatever counts as one, the target is the same. -/
theorem foldl_set_capitalsFirst {capital : Char → Bool}
    (hascii : ∀ c, c.toNat < 0x80 → capital c = c.isUpper) (es : List (String × String)) :
    (capitalsFirst capital es).foldl set {} = ofEntries es := by
  refine eq_of_names fun ⟨key, get⟩ h => ?_
  have hsame : ∀ e ∈ spellings key es,
      e.1.toList.any capital = e.1.toList.any Text.isCapital := by
    intro e he
    have hlow := Text.ascii_of_lowerCase (mem_spellings.1 he).2 (isPlain_of_names h)
    rw [Bool.eq_iff_iff, List.any_eq_true, List.any_eq_true]
    refine exists_congr fun c => and_congr_right fun hc => ?_
    rw [hascii c (hlow c hc), Text.isCapital_ascii (hlow c hc)]
  dsimp only
  rw [get_ofEntries h, get_foldl_set h, spellings_capitalsFirst, capitalsFirst, capitalsFirst]
  congr 2
  · exact List.filter_congr hsame
  · exact List.filter_congr fun e he => by rw [hsame e he]

/-! ## The order of the entries -/

/-- Entries settle a name if it is itself among the keys, or has one value under all of its
spellings. -/
def Settled (key : String) (es : List (String × String)) : Prop :=
  (∃ x, (key, x) ∈ es) ∨
    ∀ e ∈ es, ∀ e' ∈ es, Text.lowerCase e.1 = key → Text.lowerCase e'.1 = key → e.2 = e'.2

section
variable {es es' : List (String × String)}

/-- Entries of a table under one key have one value. -/
theorem value_eq_of_key (hmap : (es.map (·.1)).Nodup) {key x : String} (hmem : (key, x) ∈ es) :
    ∀ e ∈ es, e.1 = key → e.2 = x := by
  intro e he hkey
  rw [List.inj_on_of_nodup_map hmap he hmem hkey]

theorem get_ofEntries_perm {key : String} {get : TargetDraft → Option String}
    (h : (key, get) ∈ names) (hmap : (es.map (·.1)).Nodup) (hsettled : Settled key es)
    (hperm : es'.Perm es) : get (ofEntries es') = get (ofEntries es) := by
  by_cases hexact : ∃ x, (key, x) ∈ es
  · obtain ⟨x, hmem⟩ := hexact
    have hone := value_eq_of_key hmap hmem
    rw [get_ofEntries_exact h hmem hone,
      get_ofEntries_exact h (hperm.mem_iff.2 hmem) fun e he => hone e (hperm.mem_iff.1 he)]
  · have hagree := hsettled.resolve_left hexact
    have hnone : ∀ e ∈ es, e.1 ≠ key := fun e he hkey => hexact ⟨e.2, hkey ▸ he⟩
    have hsame : (spellings key es').Perm (spellings key es) := hperm.filter _
    rw [get_ofEntries_capital h hnone,
      get_ofEntries_capital h fun e he => hnone e (hperm.mem_iff.1 he)]
    cases hspellings : spellings key es with
    | nil =>
      rw [hspellings] at hsame
      rw [hsame.eq_nil]
    | cons e rest =>
      have he : e ∈ spellings key es := hspellings ▸ List.mem_cons_self
      have hall : ∀ e' ∈ spellings key es, e'.2 = e.2 := fun e' he' =>
        hagree e' (mem_spellings.1 he').1 e (mem_spellings.1 he).1 (mem_spellings.1 he').2
          (mem_spellings.1 he).2
      have hlast := lastValue_append he hall []
      have hlast' := lastValue_append (hsame.mem_iff.2 he)
        (fun e' he' => hall e' (hsame.mem_iff.1 he')) []
      rw [← hspellings]
      exact hlast'.trans hlast.symm

/-- A spelling that is moved to the end counts, where the name itself is not among the keys. -/
theorem get_ofEntries_moved {key : String} {get : TargetDraft → Option String}
    (h : (key, get) ∈ names) (hnone : ∀ e ∈ es, e.1 ≠ key) {e : String × String} (he : e ∈ es)
    (heq : Text.lowerCase e.1 = key) : get (ofEntries (es.erase e ++ [e])) = some e.2 := by
  have hnone' : ∀ e' ∈ es.erase e ++ [e], e'.1 ≠ key := by
    intro e' he'
    rcases List.mem_append.1 he' with he' | he'
    · exact hnone e' (List.mem_of_mem_erase he')
    · exact hnone e' (List.mem_singleton.1 he' ▸ he)
  have hmoved : spellings key (es.erase e ++ [e]) = spellings key (es.erase e) ++ [e] := by
    simp [spellings, heq]
  rw [get_ofEntries_capital h hnone', hmoved, lastValue_concat]

/-- **When the order of entries does not matter.** The entries of a table may be read in any order
exactly if they settle each name. -/
theorem ofEntries_perm_iff (hmap : (es.map (·.1)).Nodup) :
    (∀ es' : List (String × String), es'.Perm es → ofEntries es' = ofEntries es) ↔
      ∀ name ∈ names, Settled name.1 es := by
  constructor
  · intro hfree ⟨key, get⟩ h
    by_contra hopen
    obtain ⟨hexact, hdiffer⟩ := not_or.1 hopen
    apply hdiffer
    intro e he e' he' heq heq'
    have hnone : ∀ e ∈ es, e.1 ≠ key := fun e he hkey => hexact ⟨e.2, hkey ▸ he⟩
    have hmoved : ∀ {e}, e ∈ es → (es.erase e ++ [e]).Perm es := fun {e} he =>
      (List.perm_append_singleton e _).trans (List.perm_cons_erase he).symm
    have hsame := (hfree _ (hmoved he)).trans (hfree _ (hmoved he')).symm
    have hget := congrArg get hsame
    rw [get_ofEntries_moved h hnone he heq, get_ofEntries_moved h hnone he' heq'] at hget
    exact Option.some.inj hget
  · intro hsettled es' hperm
    exact eq_of_names fun name h => get_ofEntries_perm h hmap (hsettled name h) hperm

/-- A name in lower case beside two other spellings of it, and one under a single other spelling. -/
theorem ofEntries_perm_iff_sample :
    let es := [("Project_Id", "p1"), ("PROJECT_ID", "p2"), ("project_id", "p3"), ("TABLE_ID", "t")]
    (es.map (·.1)).Nodup ∧ ofEntries es.reverse = ofEntries es := by
  intro es
  have hmap : (es.map (·.1)).Nodup := by decide
  refine ⟨hmap, (ofEntries_perm_iff hmap).2 ?_ es.reverse (List.reverse_perm es)⟩
  have hsettled : ∀ name ∈ names, name.1 ∈ es.map (·.1) ∨ ∀ e ∈ es, ∀ e' ∈ es,
      Text.lowerCase e.1 = name.1 → Text.lowerCase e'.1 = name.1 → e.2 = e'.2 := by
    decide +kernel
  intro name h
  refine (hsettled name h).imp_left fun hkey => ?_
  obtain ⟨⟨key, x⟩, he, rfl⟩ := List.mem_map.1 hkey
  exact ⟨x, he⟩

/-- **Two other spellings leave a name to the order of the entries.** -/
theorem not_ofEntries_perm :
    (ofEntries [("PROJECT_ID", "taxi-project"), ("Project_Id", "other-project")]).projectId =
        some "other-project" ∧
      (ofEntries [("Project_Id", "other-project"), ("PROJECT_ID", "taxi-project")]).projectId =
        some "taxi-project" ∧
      ¬ ∀ es es' : List (String × String), (es.map (·.1)).Nodup → es'.Perm es →
        ofEntries es' = ofEntries es := by
  have hlast : (ofEntries [("PROJECT_ID", "taxi-project"),
      ("Project_Id", "other-project")]).projectId = some "other-project" := by decide +kernel
  have hfirst : (ofEntries [("Project_Id", "other-project"),
      ("PROJECT_ID", "taxi-project")]).projectId = some "taxi-project" := by decide +kernel
  refine ⟨hlast, hfirst, fun hall => ?_⟩
  have hsame := hall [("PROJECT_ID", "taxi-project"), ("Project_Id", "other-project")]
    [("Project_Id", "other-project"), ("PROJECT_ID", "taxi-project")] (by decide)
    (List.Perm.swap ..)
  rw [hsame, hlast] at hfirst
  revert hfirst
  decide

end

end RowRelay.Setup.TargetDraft
