import Formulas.Numeral
import Formulas.Proofs.Text.Run

/-! The grammar of decimal numerals, said without the reader. Main statements:
`integer?_eq_some_iff` and `signed?_eq_some_iff`. -/
namespace Formulas

namespace Numeral

/-- At least one decimal digit, and nothing else. -/
def Digits (ds : List Char) : Prop := ds ≠ [] ∧ ∀ c ∈ ds, c.isDigit

/-- An optional sign, and whether it is a minus. -/
inductive Sign : Bool → List Char → Prop
  | none : Sign false []
  | plus : Sign false ['+']
  | minus : Sign true ['-']

/-- Digits behind an optional sign, and their value. -/
inductive Whole : Int → List Char → Prop
  | mk {negative : Bool} {s ds : List Char} (sign : Sign negative s) (digits : Digits ds) :
      Whole (if negative then -Nat.ofDigitChars 10 ds 0 else Nat.ofDigitChars 10 ds 0) (s ++ ds)

/-- The digits before the dot of a numeral, those behind it, and how they are written. -/
inductive Mantissa : List Char → List Char → List Char → Prop
  | whole {ds : List Char} (digits : Digits ds) : Mantissa ds [] ds
  | point {ds fs : List Char} (digits : Digits ds) (fraction : ∀ c ∈ fs, c.isDigit) :
      Mantissa ds fs (ds ++ '.' :: fs)
  | fraction {fs : List Char} (digits : Digits fs) : Mantissa [] fs ('.' :: fs)

/-- An optional exponent behind its letter. -/
inductive Exponent : Int → List Char → Prop
  | none : Exponent 0 []
  | some {c : Char} {e : Int} {cs : List Char} (letter : c = 'e' ∨ c = 'E') (whole : Whole e cs) :
      Exponent e (c :: cs)

/-- A decimal numeral with an optional sign, and the number it stands for. -/
inductive Signed : Bool → Numeral → List Char → Prop
  | mk {negative : Bool} {s ds fs body tail : List Char} {e : Int} (sign : Sign negative s)
      (mantissa : Mantissa ds fs body) (exponent : Exponent e tail) :
      Signed negative ⟨Nat.ofDigitChars 10 (ds ++ fs) 0, e - fs.length⟩ (s ++ (body ++ tail))

variable {cs ds fs body tail s rest : List Char} {negative : Bool} {e : Int} {n : Numeral}

/-! ### Signs and integers -/

theorem exists_sign (cs : List Char) :
    ∃ s, Sign (splitSign cs).1 s ∧ cs = s ++ (splitSign cs).2 := by
  unfold splitSign
  split
  · exact ⟨_, .minus, rfl⟩
  · exact ⟨_, .plus, rfl⟩
  · exact ⟨_, .none, rfl⟩

theorem Sign.splitSign_append (sign : Sign negative s)
    (h : ∀ c ∈ rest.head?, c ≠ '-' ∧ c ≠ '+') : splitSign (s ++ rest) = (negative, rest) := by
  cases sign with
  | plus | minus => rfl
  | none =>
    rw [List.nil_append]
    unfold splitSign
    split
    · exact absurd rfl (h '-' rfl).1
    · exact absurd rfl (h '+' rfl).2
    · rfl

theorem ne_sign_of_isDigit {c : Char} (h : c.isDigit) : c ≠ '-' ∧ c ≠ '+' := by
  constructor <;> rintro rfl <;> exact absurd h (by decide)

theorem Digits.head?_isDigit (digits : Digits ds) : ∀ c ∈ (ds ++ rest).head?, c.isDigit := by
  obtain ⟨hne, hdigits⟩ := digits
  obtain ⟨d, ds, rfl⟩ := List.exists_cons_of_ne_nil hne
  rintro c ⟨⟩
  exact hdigits d List.mem_cons_self

theorem natural?_eq_some_iff {value : Nat} :
    natural? cs = some value ↔ Digits cs ∧ value = Nat.ofDigitChars 10 cs 0 := by
  rw [natural?, Option.ite_none_right_eq_some, List.all_eq_true, Option.some_inj]
  exact and_congr_right fun _ => eq_comm

theorem integer?_eq (cs : List Char) : integer? cs =
    (natural? (splitSign cs).2).map fun value : Nat =>
      if (splitSign cs).1 then -(value : Int) else value := by
  rw [integer?]
  generalize splitSign cs = parts
  dsimp only
  cases natural? parts.2 <;> rfl

/-- The integers that are read are the optionally signed runs of digits. -/
theorem integer?_eq_some_iff {i : Int} : integer? cs = some i ↔ Whole i cs := by
  rw [integer?_eq, Option.map_eq_some_iff]
  constructor
  · rintro ⟨value, hvalue, rfl⟩
    obtain ⟨digits, rfl⟩ := natural?_eq_some_iff.mp hvalue
    obtain ⟨s, sign, hcs⟩ := exists_sign cs
    have whole := Whole.mk sign digits
    rwa [← hcs] at whole
  · rintro (@⟨negative, s, ds, sign, digits⟩)
    have hhead : ∀ c ∈ (ds ++ []).head?, c.isDigit := digits.head?_isDigit
    rw [List.append_nil] at hhead
    rw [sign.splitSign_append fun c hc => ne_sign_of_isDigit (hhead c hc)]
    exact ⟨_, natural?_eq_some_iff.mpr ⟨digits, rfl⟩, rfl⟩

theorem Whole.unique {i j : Int} (whole : Whole i cs) (whole' : Whole j cs) : i = j :=
  Option.some.inj ((integer?_eq_some_iff.mpr whole).symm.trans (integer?_eq_some_iff.mpr whole'))

/-! ### Decimal numerals -/

theorem exponent?_eq_some_iff : exponent? tail = some e ↔ Exponent e tail := by
  cases tail with
  | nil =>
    rw [exponent?, Option.some_inj]
    constructor
    · rintro rfl
      exact .none
    · intro h
      cases h
      rfl
  | cons c cs =>
    rw [exponent?, Option.ite_none_right_eq_some, integer?_eq_some_iff]
    constructor
    · exact fun ⟨letter, whole⟩ => .some letter whole
    · intro h
      cases h with
      | some letter whole => exact ⟨letter, whole⟩

/-- An exponent goes on with neither the digits nor the dot before it. -/
theorem Exponent.head? (exponent : Exponent e tail) :
    ∀ c ∈ tail.head?, ¬ c.isDigit ∧ c ≠ '.' := by
  cases exponent with
  | none => simp
  | some letter whole =>
    rintro c ⟨⟩
    rcases letter with rfl | rfl <;> decide

theorem unsigned?_of_head?_ne_dot (run : Run Char.isDigit ds tail) (hdot : tail.head? ≠ some '.') :
    unsigned? (ds ++ tail) =
      if ds = [] then none
      else (exponent? tail).map fun e => ⟨Nat.ofDigitChars 10 ds 0, e⟩ := by
  rw [unsigned?, run.takeWhile_eq, run.dropWhile_eq]
  split
  next fraction rest hparts =>
    split at hparts
    · exact absurd rfl hdot
    · obtain ⟨rfl, rfl⟩ := Prod.mk.inj hparts
      simp only [List.append_nil, List.length_nil, Int.natCast_zero, Int.sub_zero]

theorem unsigned?_of_dot (run : Run Char.isDigit ds ('.' :: (fs ++ tail)))
    (run' : Run Char.isDigit fs tail) : unsigned? (ds ++ '.' :: (fs ++ tail)) =
      if ds ++ fs = [] then none
      else (exponent? tail).map fun e => ⟨Nat.ofDigitChars 10 (ds ++ fs) 0, e - fs.length⟩ := by
  rw [unsigned?]
  simp only [run.takeWhile_eq, run.dropWhile_eq, run'.takeWhile_eq, run'.dropWhile_eq]

theorem run_dot (hds : ∀ c ∈ ds, c.isDigit) (rest : List Char) :
    Run Char.isDigit ds ('.' :: rest) := by
  refine ⟨hds, ?_⟩
  rintro c ⟨⟩
  decide

theorem unsigned?_mantissa (mantissa : Mantissa ds fs body) (exponent : Exponent e tail) :
    unsigned? (body ++ tail) = some ⟨Nat.ofDigitChars 10 (ds ++ fs) 0, e - fs.length⟩ := by
  have he : exponent? tail = some e := exponent?_eq_some_iff.mpr exponent
  have htail : ∀ c ∈ tail.head?, ¬ c.isDigit := fun c hc => (exponent.head? c hc).1
  cases mantissa with
  | whole digits =>
    rw [unsigned?_of_head?_ne_dot ⟨digits.2, htail⟩ fun h => (exponent.head? '.' h).2 rfl, he,
      if_neg digits.1]
    simp
  | point digits fraction =>
    have hne : ds ++ fs ≠ [] := List.append_ne_nil_of_left_ne_nil digits.1 fs
    rw [List.append_assoc, List.cons_append,
      unsigned?_of_dot (run_dot digits.2 _) ⟨fraction, htail⟩, he, if_neg hne, Option.map_some]
  | fraction digits =>
    have run : Run Char.isDigit [] ('.' :: (fs ++ tail)) := run_dot (List.forall_mem_nil _) _
    rw [List.cons_append]
    exact (unsigned?_of_dot run ⟨digits.2, htail⟩).trans
      (by rw [he, List.nil_append, if_neg digits.1, Option.map_some])

theorem exists_mantissa (h : unsigned? cs = some n) : ∃ ds fs body tail e, Mantissa ds fs body ∧
    Exponent e tail ∧ cs = body ++ tail ∧
      n = ⟨Nat.ofDigitChars 10 (ds ++ fs) 0, e - fs.length⟩ := by
  obtain ⟨ds, rest, run, rfl⟩ : ∃ ds rest, Run Char.isDigit ds rest ∧ cs = ds ++ rest :=
    ⟨_, _, run_takeWhile _ cs, List.takeWhile_append_dropWhile.symm⟩
  by_cases hdot : rest.head? = some '.'
  · obtain ⟨more, rfl⟩ : ∃ more, rest = '.' :: more := List.head?_eq_some_iff.mp hdot
    obtain ⟨fs, tail, run', rfl⟩ : ∃ fs tail, Run Char.isDigit fs tail ∧ more = fs ++ tail :=
      ⟨_, _, run_takeWhile _ more, List.takeWhile_append_dropWhile.symm⟩
    rw [unsigned?_of_dot run run', Option.ite_none_left_eq_some, Option.map_eq_some_iff] at h
    obtain ⟨hne, e, he, rfl⟩ := h
    have exponent := exponent?_eq_some_iff.mp he
    by_cases hds : ds = []
    · subst hds
      exact ⟨[], fs, _, tail, e, .fraction ⟨hne, run'.1⟩, exponent, rfl, rfl⟩
    · refine ⟨ds, fs, _, tail, e, .point ⟨hds, run.1⟩ run'.1, exponent, ?_, rfl⟩
      rw [List.append_assoc, List.cons_append]
  · rw [unsigned?_of_head?_ne_dot run hdot, Option.ite_none_left_eq_some,
      Option.map_eq_some_iff] at h
    obtain ⟨hne, e, he, rfl⟩ := h
    refine ⟨ds, [], ds, rest, e, .whole ⟨hne, run.1⟩, exponent?_eq_some_iff.mp he, rfl, ?_⟩
    simp

theorem Mantissa.head? (mantissa : Mantissa ds fs body) :
    ∀ c ∈ (body ++ tail).head?, c ≠ '-' ∧ c ≠ '+' := by
  cases mantissa with
  | whole digits => exact fun c hc => ne_sign_of_isDigit (digits.head?_isDigit c hc)
  | point digits fraction =>
    rw [List.append_assoc]
    exact fun c hc => ne_sign_of_isDigit (digits.head?_isDigit c hc)
  | fraction digits =>
    rintro c ⟨⟩
    decide

theorem signed?_eq (cs : List Char) :
    signed? cs = (unsigned? (splitSign cs).2).map ((splitSign cs).1, ·) := rfl

/-- The numerals that are read are those of the grammar, and they are read as what they stand
for. -/
theorem signed?_eq_some_iff : signed? cs = some (negative, n) ↔ Signed negative n cs := by
  rw [signed?_eq, Option.map_eq_some_iff]
  constructor
  · rintro ⟨m, hm, hpair⟩
    obtain ⟨rfl, rfl⟩ := Prod.mk.inj hpair
    obtain ⟨s, sign, hcs⟩ := exists_sign cs
    obtain ⟨ds, fs, body, tail, e, mantissa, exponent, hrest, rfl⟩ := exists_mantissa hm
    have written := Signed.mk sign mantissa exponent
    rwa [← hrest, ← hcs] at written
  · rintro ⟨sign, mantissa, exponent⟩
    rw [sign.splitSign_append mantissa.head?]
    exact ⟨_, unsigned?_mantissa mantissa exponent, rfl⟩

end Numeral

end Formulas
