import Mathlib.Data.List.Forall2

/-!
# Computations that may fail

When a computation that may fail in several steps succeeds, each of its steps does
(`ok_of_bind`), also where one step is made for every item of a list (`forall₂_of_mapM`). A
computation that checks conditions in their order (`Checks`) gives a result exactly if all of them
hold (`Checks.ok_of_all`, `Checks.all_of_ok`), and else fails with the error of the first that does
not (`Checks.error_of_first`).
-/

set_option autoImplicit false

namespace RowRelay

variable {ε α β : Type}

theorem ok_of_bind {x : Except ε α} {f : α → Except ε β} {b : β} (h : x >>= f = .ok b) :
    ∃ a, x = .ok a ∧ f a = .ok b := by
  cases x with
  | error e => cases h
  | ok a => exact ⟨a, rfl, h⟩

theorem ok_of_map {x : Except ε α} {f : α → β} {b : β} (h : x.map f = .ok b) :
    ∃ a, x = .ok a ∧ f a = b := by
  cases x with
  | error e => cases h
  | ok a => exact ⟨a, rfl, Except.ok.inj h⟩

theorem ok_of_toOption {x : Except ε α} {a : α} (h : x.toOption = some a) : x = .ok a := by
  cases x with
  | error e => cases h
  | ok b => exact congrArg Except.ok (Option.some.inj h)

theorem forall₂_of_mapM {f : α → Except ε β} : ∀ {as : List α} {bs : List β},
    as.mapM f = .ok bs → List.Forall₂ (fun a b => f a = .ok b) as bs
  | [], _, h => by
    cases h
    exact .nil
  | a :: as, bs, h => by
    rw [List.mapM_cons] at h
    obtain ⟨b, hb, h⟩ := ok_of_bind h
    obtain ⟨rest, hrest, h⟩ := ok_of_bind h
    cases h
    exact .cons hb (forall₂_of_mapM hrest)

/-! ## Checks in their order -/

/-- The computation checks conditions in their order. The first that does not hold makes it fail
with the error beside it; if all hold it gives a result with a property. -/
def Checks (result : α → Prop) (x : Except ε α) : List (Prop × ε) → Prop
  | [] => ∃ a, x = .ok a ∧ result a
  | (c, e) :: cs => (c → Checks result x cs) ∧ (¬ c → x = .error e)

section
variable {P : α → Prop} {Q : β → Prop} {x : Except ε α} {cs cs' : List (Prop × ε)}

/-- **What comes after a computation is checked after it.** -/
theorem Checks.bind {f : α → Except ε β} (h : Checks P x cs)
    (hf : ∀ a, P a → Checks Q (f a) cs') : Checks Q (x >>= f) (cs ++ cs') := by
  induction cs with
  | nil =>
    obtain ⟨a, rfl, ha⟩ := h
    exact hf a ha
  | cons c cs ih =>
    refine ⟨fun hc => ih (h.1 hc), fun hc => ?_⟩
    rw [h.2 hc]
    rfl

theorem Checks.ok_of_all (h : Checks P x cs) (hall : ∀ c ∈ cs, c.1) : ∃ a, x = .ok a ∧ P a := by
  induction cs with
  | nil => exact h
  | cons c cs ih =>
    obtain ⟨hc, hall⟩ := List.forall_mem_cons.1 hall
    exact ih (h.1 hc) hall

theorem Checks.all_of_ok {a : α} (h : Checks P x cs) (hok : x = .ok a) :
    P a ∧ ∀ c ∈ cs, c.1 := by
  induction cs with
  | nil =>
    obtain ⟨b, hb, hP⟩ := h
    cases hok.symm.trans hb
    exact ⟨hP, nofun⟩
  | cons c cs ih =>
    by_cases hc : c.1
    · obtain ⟨hP, hall⟩ := ih (h.1 hc)
      exact ⟨hP, List.forall_mem_cons.2 ⟨hc, hall⟩⟩
    · cases hok.symm.trans (h.2 hc)

theorem Checks.error_of_first {before after : List (Prop × ε)} {c : Prop × ε}
    (h : Checks P x (before ++ c :: after)) (hbefore : ∀ b ∈ before, b.1) (hc : ¬ c.1) :
    x = .error c.2 := by
  induction before with
  | nil => exact h.2 hc
  | cons b before ih =>
    obtain ⟨hb, hbefore⟩ := List.forall_mem_cons.1 hbefore
    exact ih (h.1 hb) hbefore

end

end RowRelay
