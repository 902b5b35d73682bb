import RowRelay.Proofs.Except
import RowRelay.Proofs.Setup.Tree
import RowRelay.Setup.Load

/-!
# What a setup says in the end

The file and the variables say together what the last variable for a setting stands for
(`gather_variable`), and where no variable is for it, what the file gives (`gather_file`).
-/

set_option autoImplicit false

namespace RowRelay.Setup

variable {readers : Readers} {folder : Folder} {path : String}
  {environment before after : List (String × String)} {sectionKey key : String} {t : Tree}

/-- No variable is for the setting, for a part of it or for something that it is part of. -/
def Untouched (sectionKey key : String) (environment : List (String × String)) : Prop :=
  ∀ e ∈ environment, ∀ setting, settingOf? e.1 = some setting →
    Tree.Apart sectionKey key (Path.ofName setting)

theorem Untouched.valuesOf (h : Untouched sectionKey key environment) :
    ∀ e ∈ valuesOf environment, Tree.Apart sectionKey key (Path.ofName e.1) := by
  intro e he
  obtain ⟨e', he', heq⟩ := List.mem_filterMap.1 he
  obtain ⟨setting, hsetting, rfl⟩ := Option.map_eq_some_iff.1 heq
  exact h e' he' setting hsetting

theorem gather_eq (h : gather readers folder environment path = .ok t) :
    ∃ fromFile, t = (Tree.empty.putAll fromFile).putAll (valuesOf environment) := by
  rw [gather] at h
  split at h
  all_goals
    obtain ⟨fromFile, -, h⟩ := ok_of_bind h
    cases h
    exact ⟨fromFile, rfl⟩

theorem gather_sorted (h : gather readers folder environment path = .ok t) : t.SortedTo 2 := by
  obtain ⟨fromFile, rfl⟩ := gather_eq h
  have hempty : Tree.empty.SortedTo 2 := Tree.sortedTo_of_entries_nil rfl 2
  exact Tree.sortedTo_putAll _ (Tree.sortedTo_putAll _ hempty)

/-- **The last variable for a setting** overrides the file and the variables before it. -/
theorem gather_variable {name x setting : String} (hname : settingOf? name = some setting)
    (hsetting : Path.ofName setting = [.key sectionKey, .key key])
    (hafter : Untouched sectionKey key after)
    (h : gather readers folder (before ++ (name, x) :: after) path = .ok t) :
    t.Gives sectionKey key (.scalar (some variableOrigin) (.ofVariable x)) := by
  obtain ⟨fromFile, rfl⟩ := gather_eq h
  have hvalues : valuesOf (before ++ (name, x) :: after) = valuesOf before ++
      (setting, .scalar (some variableOrigin) (.ofVariable x)) :: valuesOf after := by
    simp [valuesOf, hname]
  rw [hvalues, Tree.putAll_append]
  have hput := Tree.gives_put ((Tree.empty.putAll fromFile).putAll (valuesOf before)) sectionKey
    key (some variableOrigin) (.ofVariable x)
  rw [← hsetting] at hput
  exact hput.putAll _ hafter.valuesOf

/-- **What the file gives stays** where no variable is for the setting. -/
theorem gather_file {file : SetupFile} {values : List (String × Tree)} {v : Tree}
    (hfile : findFile? folder path = some file) (hvalues : file.values readers = .ok values)
    (hgives : (Tree.empty.putAll values).Gives sectionKey key v)
    (henvironment : Untouched sectionKey key environment)
    (h : gather readers folder environment path = .ok t) : t.Gives sectionKey key v := by
  simp only [gather, hfile] at h
  obtain ⟨fromFile, hfrom, h⟩ := ok_of_bind h
  cases hvalues.symm.trans hfrom
  cases h
  exact hgives.putAll _ henvironment.valuesOf

end RowRelay.Setup
