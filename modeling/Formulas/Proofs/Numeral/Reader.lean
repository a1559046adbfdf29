import Formulas.Proofs.Numeral.Grammar
import Formulas.Proofs.Token.Lexeme

/-! The readers of numbers agree on all texts without a letter that is foreign to numerals, since
every name of a double has such a letter. Main statements: `read?_of_not_isForeign` and
`numeral?_eq_read?`. -/
namespace Formulas

open Numeral

namespace Numeral

variable {s cs ds fs body tail : List Char} {negative : Bool} {e i : Int} {n : Numeral} {c : Char}

/-! ### Letters -/

theorem not_isForeign_of_isNumberChar (h : Token.isNumberChar c) : ¬ isForeign c := by
  simpa using Token.of_isNumberChar (p := fun c => !isForeign c) h (by decide)

theorem not_isForeign_of_isDigit (h : c.isDigit) : ¬ isForeign c :=
  not_isForeign_of_isNumberChar (Token.isNumberChar_of_isDigit h)

theorem Sign.not_isForeign (sign : Sign negative s) : ∀ c ∈ s, ¬ isForeign c := by
  cases sign with
  | none => exact List.forall_mem_nil _
  | plus | minus => exact List.forall_mem_singleton.mpr (by decide)

theorem Digits.not_isForeign (digits : Digits ds) : ∀ c ∈ ds, ¬ isForeign c :=
  fun c hc => not_isForeign_of_isDigit (digits.2 c hc)

theorem Whole.not_isForeign (whole : Whole i cs) : ∀ c ∈ cs, ¬ isForeign c := by
  obtain ⟨sign, digits⟩ := whole
  exact List.forall_mem_append.mpr ⟨sign.not_isForeign, digits.not_isForeign⟩

theorem Mantissa.not_isForeign (mantissa : Mantissa ds fs body) : ∀ c ∈ body, ¬ isForeign c := by
  have hdot : ¬ isForeign '.' := by decide
  cases mantissa with
  | whole digits => exact digits.not_isForeign
  | point digits fraction =>
    refine List.forall_mem_append.mpr ⟨digits.not_isForeign, List.forall_mem_cons.mpr ⟨hdot, ?_⟩⟩
    exact fun c hc => not_isForeign_of_isDigit (fraction c hc)
  | fraction digits => exact List.forall_mem_cons.mpr ⟨hdot, digits.not_isForeign⟩

theorem Exponent.not_isForeign (exponent : Exponent e tail) : ∀ c ∈ tail, ¬ isForeign c := by
  cases exponent with
  | none => exact List.forall_mem_nil _
  | some letter whole =>
    refine List.forall_mem_cons.mpr ⟨?_, whole.not_isForeign⟩
    rcases letter with rfl | rfl <;> decide

theorem Signed.not_isForeign (written : Signed negative n cs) : ∀ c ∈ cs, ¬ isForeign c := by
  obtain ⟨sign, mantissa, exponent⟩ := written
  exact List.forall_mem_append.mpr ⟨sign.not_isForeign,
    List.forall_mem_append.mpr ⟨mantissa.not_isForeign, exponent.not_isForeign⟩⟩

theorem isForeign_of_toLower_eq (h : c.toLower = 'n') : isForeign c := by
  have hc : c = 'n' ∨ c = 'N' := by
    unfold Char.toLower at h
    split at h
    · right
      have hval : c.val + 32 = 'N'.val + 32 := congrArg Char.val h
      exact Char.ext ((UInt32.add_left_inj 32).mp hval)
    · exact .inl h
  rcases hc with rfl | rfl <;> decide

end Numeral

variable {cs : List Char}

/-- Each of the names has the letter n. -/
theorem Double.named?_eq_none (h : ∀ c ∈ cs, ¬ isForeign c) : named? cs = none := by
  obtain ⟨s, -, hcs⟩ := exists_sign cs
  have hn : 'n' ∉ (splitSign cs).2.map Char.toLower := by
    intro hmem
    obtain ⟨c, hc, hlower⟩ := List.mem_map.mp hmem
    refine h c ?_ (isForeign_of_toLower_eq hlower)
    rw [hcs]
    exact List.mem_append_right s hc
  have hne (name : List Char) (hname : 'n' ∈ name) : (splitSign cs).2.map Char.toLower ≠ name := by
    rintro rfl
    exact hn hname
  have hinfinity : ¬ ((splitSign cs).2.map Char.toLower = "inf".toList ∨
      (splitSign cs).2.map Char.toLower = "infinity".toList) :=
    not_or.mpr ⟨hne _ (by decide), hne _ (by decide)⟩
  unfold named?
  simp only [if_neg hinfinity, if_neg (hne "nan".toList (by decide))]

theorem Double.read?_of_not_isForeign (h : ∀ c ∈ cs, ¬ isForeign c) :
    read? cs = (signed? cs).map fun (negative, n) => ofNumeral negative n := by
  rw [read?, named?_eq_none h, Option.none_or]

/-- An integer if it can be one, and else what stands for a double. -/
theorem Number.read?_of_not_isForeign (h : ∀ c ∈ cs, ¬ isForeign c) :
    read? cs = match integer? cs >>= int64? with
      | some n => some (.int n)
      | none => (Double.read? cs).map .double := by
  rw [read?, Double.read?_of_not_isForeign h, Option.map_map]
  rfl

/-- On a run of digits and dots the reader that counts the dots finds what the reader of numerals
finds. -/
theorem Token.numeral?_eq_read? (h : ∀ c ∈ cs, isNumberChar c) : numeral? cs = Number.read? cs := by
  have hforeign : ∀ c ∈ cs, ¬ isForeign c := fun c hc => not_isForeign_of_isNumberChar (h c hc)
  rw [numeral?]
  split
  · exact (Number.read?_of_not_isForeign hforeign).symm
  · next hone =>
    have hdot : '.' ∈ cs := List.count_pos_iff.mp (by omega)
    have hinteger : integer? cs = none := by
      rw [integer?_run h, natural?_of_dot_mem hdot, Option.map_none]
    rw [Number.read?_of_not_isForeign hforeign, hinteger]
    split
    · rfl
    · next hlone =>
      rw [Decidable.not_not.mp hlone]
      rfl
  · next hzero hone =>
    have hplain : ¬ Plain cs := by
      rintro ⟨-, hle⟩
      rcases Nat.le_one_iff_eq_zero_or_eq_one.mp hle with hdots | hdots
      · exact hzero hdots
      · exact hone hdots
    rw [← Number.isSome_read?_iff h, Option.not_isSome_iff_eq_none] at hplain
    exact hplain.symm

end Formulas
