import Formulas.Proofs.Numeral.Grammar
import Formulas.Token.Scan

/-! Which runs of digits and dots are numerals. -/
namespace Formulas

/-- The number that a numeral stands for: an integer without dot and exponent as long as it is in
range, and else the nearest double. -/
def Number.read? (cs : List Char) : Option Number :=
  match Numeral.integer? cs >>= int64? with
  | some n => some (.int n)
  | none => (Numeral.signed? cs).map fun (negative, n) => .double (.ofNumeral negative n)

/-- A digit and at most one dot make a run of digits and dots a numeral. -/
def Numeral.Plain (cs : List Char) : Prop := (∃ c ∈ cs, c.isDigit) ∧ cs.count '.' ≤ 1

namespace Numeral

private theorem isDigit_of_ne_dot {c : Char} (h : Token.isNumberChar c) (hd : c ≠ '.') :
    c.isDigit := by
  simpa [Token.isNumberChar, hd] using h

private theorem ne_dot_of_isDigit {c : Char} (h : c.isDigit) : c ≠ '.' := by
  rintro rfl
  exact absurd h (by decide)

private theorem count_dot_eq_zero {cs : List Char} (h : ∀ c ∈ cs, c.isDigit) :
    cs.count '.' = 0 :=
  List.count_eq_zero.mpr fun hm => ne_dot_of_isDigit (h _ hm) rfl

/-- A run of digits and dots is digits only, or digits, a dot and another such run. -/
private theorem exists_digits_prefix {cs : List Char} (h : ∀ c ∈ cs, Token.isNumberChar c) :
    ∃ ds, (∀ c ∈ ds, c.isDigit) ∧
      (cs = ds ∨ ∃ tail, cs = ds ++ '.' :: tail ∧ ∀ c ∈ tail, Token.isNumberChar c) := by
  induction cs with
  | nil => exact ⟨[], by simp, .inl rfl⟩
  | cons c cs ih =>
    by_cases hc : c = '.'
    · subst c
      exact ⟨[], by simp, .inr ⟨cs, rfl, fun c hm => h c (.tail _ hm)⟩⟩
    · obtain ⟨ds, hds, hcs⟩ := ih fun c hm => h c (.tail _ hm)
      have hd : c.isDigit := isDigit_of_ne_dot (h c List.mem_cons_self) hc
      refine ⟨c :: ds, by simpa [hd] using hds, ?_⟩
      rcases hcs with rfl | ⟨tail, rfl, ht⟩
      · exact .inl rfl
      · exact .inr ⟨tail, rfl, ht⟩

theorem unsigned?_digits {ds : List Char} (hds : ∀ c ∈ ds, c.isDigit) :
    unsigned? ds = if ds = [] then none else some ⟨Nat.ofDigitChars 10 ds 0, 0⟩ := by
  have hdot : ([] : List Char).head? ≠ some '.' := by simp
  simpa [exponent?] using unsigned?_of_head?_ne_dot (Run.at_end hds) hdot

theorem unsigned?_point {ds fs : List Char} (hds : ∀ c ∈ ds, c.isDigit)
    (hfs : ∀ c ∈ fs, c.isDigit) : unsigned? (ds ++ '.' :: fs) =
      if ds ++ fs = [] then none
      else some ⟨Nat.ofDigitChars 10 (ds ++ fs) 0, -fs.length⟩ := by
  simpa [exponent?] using unsigned?_of_dot (run_dot hds _) (Run.at_end hfs)

theorem unsigned?_two_points {ds fs : List Char} (hds : ∀ c ∈ ds, c.isDigit)
    (hfs : ∀ c ∈ fs, c.isDigit) (rest : List Char) :
    unsigned? (ds ++ '.' :: (fs ++ '.' :: rest)) = none := by
  rw [unsigned?_of_dot (run_dot hds _) (run_dot hfs rest)]
  exact ite_self none

private theorem plain_iff_ne_nil {ds : List Char} (hds : ∀ c ∈ ds, c.isDigit) :
    Plain ds ↔ ds ≠ [] := by
  cases ds with
  | nil => simp [Plain]
  | cons c ds => simp [Plain, hds c, count_dot_eq_zero hds]

/-- Among the runs of digits and dots exactly the plain ones are numerals. -/
theorem isSome_unsigned?_iff {cs : List Char} (h : ∀ c ∈ cs, Token.isNumberChar c) :
    (unsigned? cs).isSome ↔ Plain cs := by
  obtain ⟨ds, hds, rfl | ⟨tail, rfl, ht⟩⟩ := exists_digits_prefix h
  · rw [unsigned?_digits hds, plain_iff_ne_nil hds]
    split <;> simp_all
  · obtain ⟨fs, hfs, rfl | ⟨rest, rfl, -⟩⟩ := exists_digits_prefix ht
    · have hp : Plain (ds ++ '.' :: tail) ↔ Plain (ds ++ tail) := by
        simp [Plain, count_dot_eq_zero hds, count_dot_eq_zero hfs, or_and_right, exists_or,
          show Char.isDigit '.' = false by decide]
      rw [unsigned?_point hds hfs, hp, plain_iff_ne_nil (by grind)]
      split <;> simp_all
    · rw [unsigned?_two_points hds hfs]
      simp [Plain, count_dot_eq_zero hds, count_dot_eq_zero hfs]

/-- A plain numeral is a run of digits, or it has a dot between two such runs. -/
theorem Plain.digits_or_point {cs : List Char} (plain : Plain cs)
    (h : ∀ c ∈ cs, Token.isNumberChar c) : (cs ≠ [] ∧ ∀ c ∈ cs, c.isDigit) ∨
      ∃ ds fs, cs = ds ++ '.' :: fs ∧ ds ++ fs ≠ [] ∧ (∀ c ∈ ds, c.isDigit) ∧
        ∀ c ∈ fs, c.isDigit := by
  have hnumeral := (isSome_unsigned?_iff h).mpr plain
  obtain ⟨ds, hds, rfl | ⟨tail, rfl, ht⟩⟩ := exists_digits_prefix h
  · exact .inl ⟨(plain_iff_ne_nil hds).mp plain, hds⟩
  · obtain ⟨fs, hfs, rfl | ⟨rest, rfl, -⟩⟩ := exists_digits_prefix ht
    · refine .inr ⟨ds, tail, rfl, fun hnil => ?_, hds, hfs⟩
      rw [unsigned?_point hds hfs, if_pos hnil] at hnumeral
      cases hnumeral
    · rw [unsigned?_two_points hds hfs] at hnumeral
      cases hnumeral

/-- What is wrong with a run of digits and dots that is no numeral. -/
theorem not_plain_iff {cs : List Char} (h : ∀ c ∈ cs, Token.isNumberChar c) (ne : cs ≠ []) :
    ¬ Plain cs ↔ cs = ['.'] ∨ 2 ≤ cs.count '.' := by
  by_cases hd : ∃ c ∈ cs, c.isDigit
  · have hne : cs ≠ ['.'] := by
      rintro rfl
      simp at hd
    simp only [Plain, hd, hne, true_and, false_or]
    omega
  · have hdot : ∀ c ∈ cs, c = '.' := fun c hc => by_contra fun hn =>
      hd ⟨c, hc, isDigit_of_ne_dot (h c hc) hn⟩
    obtain ⟨n, rfl⟩ : ∃ n, cs = List.replicate n '.' := ⟨_, List.eq_replicate_of_mem hdot⟩
    match n with
    | 0 => simp at ne
    | 1 => simp [Plain]
    | n + 2 => simp [Plain]

theorem splitSign_run {cs : List Char} (h : ∀ c ∈ cs, Token.isNumberChar c) :
    splitSign cs = (false, cs) := by
  unfold splitSign
  split
  · exact absurd (h '-' List.mem_cons_self) (by decide)
  · exact absurd (h '+' List.mem_cons_self) (by decide)
  · rfl

theorem integer?_run {cs : List Char} (h : ∀ c ∈ cs, Token.isNumberChar c) :
    integer? cs = (natural? cs).map Int.ofNat := by
  rw [integer?_eq, splitSign_run h]
  rfl

theorem natural?_digits {ds : List Char} (hds : ∀ c ∈ ds, c.isDigit) (ne : ds ≠ []) :
    natural? ds = some (Nat.ofDigitChars 10 ds 0) :=
  natural?_eq_some_iff.mpr ⟨⟨ne, hds⟩, rfl⟩

theorem natural?_of_dot_mem {cs : List Char} (h : '.' ∈ cs) : natural? cs = none :=
  if_neg fun ⟨_, hdigits⟩ => ne_dot_of_isDigit (List.all_eq_true.mp hdigits '.' h) rfl

theorem dot_not_mem_digits {ds : List Char} (hds : ∀ c ∈ ds, c.isDigit) : '.' ∉ ds :=
  List.count_eq_zero.mp (count_dot_eq_zero hds)

theorem plain_of_natural? {cs : List Char} {n : Nat} (h : natural? cs = some n) : Plain cs := by
  obtain ⟨⟨hne, hd⟩, -⟩ := Option.ite_none_right_eq_some.mp h
  exact (plain_iff_ne_nil (by simpa using hd)).mpr hne

end Numeral

/-- Among the runs of digits and dots exactly the plain numerals read as numbers. -/
theorem Number.isSome_read?_iff {cs : List Char} (h : ∀ c ∈ cs, Token.isNumberChar c) :
    (Number.read? cs).isSome ↔ Numeral.Plain cs := by
  have hsigned : (Numeral.signed? cs).isSome ↔ Numeral.Plain cs := by
    simp [Numeral.signed?, Numeral.splitSign_run h, ← Numeral.isSome_unsigned?_iff h]
  unfold Number.read?
  split
  · next n hn =>
    simp only [Option.isSome_some, true_iff]
    obtain ⟨i, hi, -⟩ := Option.bind_eq_some_iff.mp hn
    rw [Numeral.integer?_run h] at hi
    obtain ⟨n, hn, -⟩ := Option.map_eq_some_iff.mp hi
    exact Numeral.plain_of_natural? hn
  · simpa using hsigned

end Formulas
