import Mathlib.Data.List.Basic
import Mathlib.Data.List.TakeWhile

/-! Longest runs of characters of one class. -/
namespace Formulas

/-- The characters `l` are of one class, and the text that follows does not go on with it. -/
def Run (p : Char → Bool) (l rest : List Char) : Prop :=
  (∀ c ∈ l, p c) ∧ ∀ c ∈ rest.head?, ¬ p c

theorem head?_eq_of_append_eq {l rest cs : List Char} {c : Char} (ne : l ≠ [])
    (hc : l ++ rest = c :: cs) : l.head? = some c := by
  rw [← List.head?_append_of_ne_nil l ne, hc, List.head?_cons]

namespace Run

variable {p : Char → Bool} {l rest : List Char}

theorem at_end (h : ∀ c ∈ l, p c) : Run p l [] := ⟨h, by simp⟩

theorem takeWhile_eq (h : Run p l rest) : (l ++ rest).takeWhile p = l := by
  rw [List.takeWhile_append_of_pos h.1]
  cases rest with
  | nil => simp
  | cons c rest => simp [h.2 c rfl]

theorem dropWhile_eq (h : Run p l rest) : (l ++ rest).dropWhile p = rest := by
  rw [List.dropWhile_append_of_pos h.1]
  cases rest with
  | nil => rfl
  | cons c rest => exact List.dropWhile_cons_of_neg (h.2 c rfl)

theorem head {cs : List Char} {c : Char} (h : Run p l rest) (ne : l ≠ [])
    (hc : l ++ rest = c :: cs) : p c :=
  h.1 c (List.mem_of_mem_head? (head?_eq_of_append_eq ne hc))

end Run

theorem run_takeWhile (p : Char → Bool) (cs : List Char) :
    Run p (cs.takeWhile p) (cs.dropWhile p) := by
  refine ⟨fun c hc => List.mem_takeWhile_imp hc, fun c hc => ?_⟩
  have := List.head?_dropWhile_not p cs
  rw [Option.mem_def.mp hc] at this
  simpa using this

end Formulas
