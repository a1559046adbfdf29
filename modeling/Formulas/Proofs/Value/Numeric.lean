import Formulas.Proofs.Double.Rounding
import Formulas.Proofs.Number.Integer
import Formulas.Proofs.Numeral.Reader

/-! Which texts are numbers, and which numbers they are. Main statement: `texts_as_numbers`. -/
namespace Formulas

open Numeral Number

namespace Numeral

/-- The name of infinity behind an optional sign. -/
inductive Infinite : Bool → List Char → Prop
  | mk {negative : Bool} {s : List Char} (sign : Sign negative s) :
      Infinite negative (s ++ "Infinity".toList)

theorem infinite_false_iff {cs : List Char} :
    Infinite false cs ↔ cs = "Infinity".toList ∨ cs = "+Infinity".toList := by
  constructor
  · rintro ⟨sign⟩
    cases sign with
    | none => exact .inl rfl
    | plus => exact .inr rfl
  · rintro (rfl | rfl)
    · exact .mk .none
    · exact .mk .plus

theorem infinite_true_iff {cs : List Char} : Infinite true cs ↔ cs = "-Infinity".toList := by
  constructor
  · rintro ⟨sign⟩
    cases sign with
    | minus => rfl
  · rintro rfl
    exact .mk .minus

/-- An integer is a numeral without dot and exponent. -/
theorem Whole.exists_signed {i : Int} {cs : List Char} (whole : Whole i cs) :
    ∃ negative n, Signed negative n cs := by
  obtain ⟨sign, digits⟩ := whole
  have written := Signed.mk sign (.whole digits) .none
  rw [List.append_nil] at written
  exact ⟨_, _, written⟩

variable {cs : List Char} {negative : Bool}

theorem Infinite.exists_isForeign (infinite : Infinite negative cs) : ∃ c ∈ cs, isForeign c := by
  obtain ⟨-⟩ := infinite
  exact ⟨'I', List.mem_append_right _ (by decide), by decide⟩

theorem Infinite.ne_nil (infinite : Infinite negative cs) : cs ≠ [] := by
  obtain ⟨c, hc, -⟩ := infinite.exists_isForeign
  exact List.ne_nil_of_mem hc

end Numeral

namespace Number

variable {cs : List Char} {x : Number}

theorem integer?_bind_int64?_eq_some_iff {n : Int64} :
    integer? cs >>= int64? = some n ↔ Whole n.toInt cs := by
  rw [← integer?_eq_some_iff]
  constructor
  · intro h
    obtain ⟨i, hi, hn⟩ := Option.bind_eq_some_iff.mp h
    rwa [int64?_eq_some_iff.mp hn]
  · intro h
    exact Option.bind_eq_some_iff.mpr ⟨_, h, int64?_eq_some_iff.mpr rfl⟩

theorem read?_of_whole {n : Int64} (whole : Whole n.toInt cs) : read? cs = some (.int n) := by
  rw [read?, integer?_bind_int64?_eq_some_iff.mpr whole]

theorem read?_of_not_whole (h : ∀ n : Int64, ¬ Whole n.toInt cs) :
    read? cs = (signed? cs).map fun m => .double (.ofNumeral m.1 m.2) := by
  have hnone : integer? cs >>= int64? = none :=
    Option.eq_none_iff_forall_ne_some.mpr fun n hn => h n (integer?_bind_int64?_eq_some_iff.mp hn)
  rw [read?, hnone]

/-- What is read is an integer of 64 bits as long as it can be one, and else a double. -/
theorem read?_eq_some_iff : read? cs = some x ↔
    (∃ n : Int64, x = .int n ∧ Whole n.toInt cs) ∨
    (∀ n : Int64, ¬ Whole n.toInt cs) ∧
      ∃ negative n, Signed negative n cs ∧ x = .double (.ofNumeral negative n) := by
  by_cases h : ∃ n : Int64, Whole n.toInt cs
  · obtain ⟨n, whole⟩ := h
    have hread := read?_of_whole whole
    rw [hread, Option.some_inj]
    constructor
    · rintro rfl
      exact .inl ⟨n, rfl, whole⟩
    · rintro (⟨m, rfl, whole'⟩ | ⟨hnot, -⟩)
      · exact Option.some.inj (hread.symm.trans (read?_of_whole whole'))
      · exact absurd whole (hnot n)
  · rw [not_exists] at h
    rw [read?_of_not_whole h, Option.map_eq_some_iff]
    constructor
    · rintro ⟨⟨negative, n⟩, hn, rfl⟩
      exact .inr ⟨h, negative, n, signed?_eq_some_iff.mp hn, rfl⟩
    · rintro (⟨n, -, whole⟩ | ⟨-, negative, n, written, rfl⟩)
      · exact absurd whole (h n)
      · exact ⟨(negative, n), signed?_eq_some_iff.mpr written, rfl⟩

theorem exists_read?_iff_signed :
    (∃ x, read? cs = some x) ↔ ∃ negative n, Signed negative n cs := by
  constructor
  · rintro ⟨x, hx⟩
    rcases read?_eq_some_iff.mp hx with ⟨n, -, whole⟩ | ⟨-, negative, n, written, -⟩
    · exact whole.exists_signed
    · exact ⟨negative, n, written⟩
  · rintro ⟨negative, n, written⟩
    by_cases h : ∃ i : Int64, Whole i.toInt cs
    · obtain ⟨i, whole⟩ := h
      exact ⟨_, read?_of_whole whole⟩
    · exact ⟨_, read?_eq_some_iff.mpr (.inr ⟨not_exists.mp h, negative, n, written, rfl⟩)⟩

theorem isNan_of_read? (h : read? cs = some x) : x.isNan = false := by
  rcases read?_eq_some_iff.mp h with ⟨n, rfl, -⟩ | ⟨-, negative, n, -, rfl⟩
  · exact Double.isNan_ofInt n.toInt
  · exact Double.isNan_ofNumeral negative n

end Number

namespace Value

variable {s : String}

/-- The number that a text counts as, where nothing but the name of infinity and numerals is looked
for. -/
def unscreened (s : String) : Number :=
  let cs := Text.trim s.toList
  if cs = [] then .int 0
  else if cs = "Infinity".toList ∨ cs = "+Infinity".toList then .double (.infinity false)
  else if cs = "-Infinity".toList then .double (.infinity true)
  else (Number.read? cs).getD .nan

theorem read?_eq_none_of_isForeign {cs : List Char} (h : cs.any isForeign) :
    Number.read? cs = none := by
  refine Option.eq_none_iff_forall_ne_some.mpr fun x hx => ?_
  obtain ⟨negative, n, written⟩ := exists_read?_iff_signed.mp ⟨x, hx⟩
  obtain ⟨c, hc, hforeign⟩ := List.any_eq_true.mp h
  exact written.not_isForeign c hc hforeign

/-- No numeral is ruled out by a letter, and every name of a double is. -/
theorem numberOfText_eq_unscreened (s : String) : numberOfText s = unscreened s := by
  unfold numberOfText unscreened
  dsimp only
  generalize Text.trim s.toList = cs
  split
  · rfl
  split
  · rfl
  split
  · rfl
  split
  · next hforeign => rw [read?_eq_none_of_isForeign hforeign, Option.getD_none]
  · next hforeign =>
    rw [Number.read?_of_not_isForeign fun c hc hc' => hforeign (List.any_eq_true.mpr ⟨c, hc, hc'⟩)]
    cases integer? cs >>= int64? with
    | some n => rfl
    | none => cases Double.read? cs <;> rfl

theorem numberOfText_of_nil (h : Text.trim s.toList = []) : numberOfText s = .int 0 := if_pos h

theorem numberOfText_of_infinite {negative : Bool} (h : Infinite negative (Text.trim s.toList)) :
    numberOfText s = .double (.infinity negative) := by
  have hne := h.ne_nil
  unfold numberOfText
  cases negative with
  | false => simp only [if_neg hne, if_pos (infinite_false_iff.mp h)]
  | true =>
    have hword := infinite_true_iff.mp h
    simp only [hword]
    rfl

theorem numberOfText_of_not_infinite (hne : Text.trim s.toList ≠ [])
    (h : ∀ negative, ¬ Infinite negative (Text.trim s.toList)) :
    numberOfText s = (Number.read? (Text.trim s.toList)).getD .nan := by
  rw [numberOfText_eq_unscreened]
  unfold unscreened
  simp only [if_neg hne, if_neg (mt infinite_false_iff.mpr (h false)),
    if_neg (mt infinite_true_iff.mpr (h true))]

theorem numberOfText_of_read? {x : Number} (h : Number.read? (Text.trim s.toList) = some x) :
    numberOfText s = x := by
  obtain ⟨negative, n, written⟩ := exists_read?_iff_signed.mp ⟨x, h⟩
  have hne : Text.trim s.toList ≠ [] := by
    intro hnil
    rw [hnil] at h
    cases h
  have hword (negative : Bool) : ¬ Infinite negative (Text.trim s.toList) := by
    intro infinite
    obtain ⟨c, hc, hforeign⟩ := infinite.exists_isForeign
    exact written.not_isForeign c hc hforeign
  rw [numberOfText_of_not_infinite hne hword, h, Option.getD_some]

theorem numberOfText_cases (s : String) :
    (Text.trim s.toList = [] ∧ numberOfText s = .int 0) ∨
    (∃ negative, Infinite negative (Text.trim s.toList) ∧
      numberOfText s = .double (.infinity negative)) ∨
    (∃ x, Number.read? (Text.trim s.toList) = some x ∧ numberOfText s = x) ∨
    numberOfText s = .nan := by
  by_cases hnil : Text.trim s.toList = []
  · exact .inl ⟨hnil, numberOfText_of_nil hnil⟩
  by_cases hword : ∃ negative, Infinite negative (Text.trim s.toList)
  · obtain ⟨negative, infinite⟩ := hword
    exact .inr (.inl ⟨negative, infinite, numberOfText_of_infinite infinite⟩)
  rw [numberOfText_of_not_infinite hnil (not_exists.mp hword)]
  cases Number.read? (Text.trim s.toList) with
  | none => exact .inr (.inr (.inr rfl))
  | some x => exact .inr (.inr (.inl ⟨x, rfl, rfl⟩))

theorem isNan_numberOfText_iff : (numberOfText s).isNan = false ↔ Text.trim s.toList = [] ∨
    (∃ negative, Infinite negative (Text.trim s.toList)) ∨
    ∃ negative n, Signed negative n (Text.trim s.toList) := by
  constructor
  · intro hnumber
    rcases numberOfText_cases s with ⟨hnil, -⟩ | ⟨negative, infinite, -⟩ | ⟨x, hread, -⟩ | hnan
    · exact .inl hnil
    · exact .inr (.inl ⟨negative, infinite⟩)
    · exact .inr (.inr (exists_read?_iff_signed.mp ⟨x, hread⟩))
    · rw [hnan] at hnumber
      cases hnumber
  · rintro (hnil | ⟨negative, infinite⟩ | hsigned)
    · rw [numberOfText_of_nil hnil]
      exact Double.isNan_ofInt _
    · rw [numberOfText_of_infinite infinite]
      rfl
    · obtain ⟨x, hread⟩ := exists_read?_iff_signed.mpr hsigned
      rw [numberOfText_of_read? hread]
      exact isNan_of_read? hread

theorem numberOfText_eq_int_iff {n : Int64} : numberOfText s = .int n ↔
    Text.trim s.toList = [] ∧ n = 0 ∨ Whole n.toInt (Text.trim s.toList) := by
  constructor
  · intro hint
    rcases numberOfText_cases s with ⟨hnil, h⟩ | ⟨negative, -, h⟩ | ⟨x, hread, h⟩ | h
    · rw [h] at hint
      exact .inl ⟨hnil, (Number.int.inj hint).symm⟩
    · rw [h] at hint
      cases hint
    · rw [h] at hint
      subst hint
      rcases read?_eq_some_iff.mp hread with ⟨m, hm, whole⟩ | ⟨-, negative, m, -, hm⟩
      · cases hm
        exact .inr whole
      · cases hm
    · rw [h] at hint
      cases hint
  · rintro (⟨hnil, rfl⟩ | whole)
    · exact numberOfText_of_nil hnil
    · exact numberOfText_of_read? (read?_of_whole whole)

/-- Without the blanks at both ends a text is a number if nothing is left, or the name of infinity
or a decimal numeral, each with an optional sign. Nothing and a run of digits whose value is in the
range of 64 bits are integers, and in all other cases the number is the double that the text stands
for. No number is ruled out by its letters. -/
theorem texts_as_numbers (s : String) :
    ((text s).toNumber.isNan = false ↔ Text.trim s.toList = [] ∨
      (∃ negative, Infinite negative (Text.trim s.toList)) ∨
      ∃ negative n, Signed negative n (Text.trim s.toList)) ∧
    (∀ n : Int64, (text s).toNumber = .int n ↔
      Text.trim s.toList = [] ∧ n = 0 ∨ Whole n.toInt (Text.trim s.toList)) ∧
    (∀ negative, Infinite negative (Text.trim s.toList) →
      (text s).toNumber = .double (.infinity negative)) ∧
    (∀ negative n, Signed negative n (Text.trim s.toList) →
      (∀ i : Int64, ¬ Whole i.toInt (Text.trim s.toList)) →
      (text s).toNumber = .double (.ofNumeral negative n)) ∧
    (text s).toNumber = unscreened s := by
  simp only [toNumber]
  refine ⟨isNan_numberOfText_iff, fun n => numberOfText_eq_int_iff,
    fun negative => numberOfText_of_infinite, fun negative n written hwhole => ?_,
    numberOfText_eq_unscreened s⟩
  exact numberOfText_of_read? (read?_eq_some_iff.mpr (.inr ⟨hwhole, negative, n, written, rfl⟩))

/-- A number written with an exponent is no integer, although its value is one. -/
theorem hundred_with_exponent :
    Infinite true (Text.trim " -Infinity".toList) ∧
    (text " -Infinity").toNumber = .double (.infinity true) ∧
    Signed false ⟨1, 2⟩ (Text.trim "\t1e2 ".toList) ∧
    (∀ i : Int64, ¬ Whole i.toInt (Text.trim "\t1e2 ".toList)) ∧
    (text "\t1e2 ").toNumber = .double (.ofNumeral false ⟨1, 2⟩) := by
  have infinite : Infinite true (Text.trim " -Infinity".toList) :=
    infinite_true_iff.mpr (by decide)
  have htrim : Text.trim "\t1e2 ".toList = "1e2".toList := by decide
  have written : Signed false ⟨1, 2⟩ (Text.trim "\t1e2 ".toList) := by
    rw [htrim]
    exact signed?_eq_some_iff.mp (by decide)
  have hwhole (i : Int64) : ¬ Whole i.toInt (Text.trim "\t1e2 ".toList) := by
    rw [htrim]
    exact fun whole => nomatch integer?_eq_some_iff.mpr whole
  obtain ⟨-, -, hinfinite, -⟩ := texts_as_numbers " -Infinity"
  obtain ⟨-, -, -, hdouble, -⟩ := texts_as_numbers "\t1e2 "
  exact ⟨infinite, hinfinite true infinite, written, hwhole, hdouble false _ written hwhole⟩

end Value

end Formulas
