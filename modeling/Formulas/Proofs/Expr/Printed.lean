import Formulas.Proofs.Evaluation.Equation
import Formulas.Proofs.Expr.Compose
import Formulas.Proofs.Number.Exactness
import Formulas.Proofs.Token.Number
import Formulas.Proofs.Value.Numeric

/-! Integers in their plain text, and what is read of it. Main statement: `printed_integers`. -/
namespace Formulas

open Grammar Derivation Token Numeral Number

/-! ### Digits -/

namespace Numeral

theorem digits_toDigits (m : Nat) : Digits (Nat.toDigits 10 m) :=
  ⟨Nat.toDigits_ne_nil, fun _ hc => Nat.isDigit_of_mem_toDigits (by decide) (by decide) hc⟩

theorem whole_toDigits (m : Nat) : Whole m (Nat.toDigits 10 m) := by
  have whole := Whole.mk .none (digits_toDigits m)
  rwa [Nat.ofDigitChars_ten_toDigits] at whole

theorem whole_minus_toDigits (m : Nat) : Whole (-m) ('-' :: Nat.toDigits 10 m) := by
  have whole := Whole.mk .minus (digits_toDigits m)
  rwa [Nat.ofDigitChars_ten_toDigits] at whole

theorem signed_toDigits (m : Nat) : Signed false ⟨m, 0⟩ (Nat.toDigits 10 m) := by
  have written := Signed.mk .none (.whole (digits_toDigits m)) .none
  rw [List.append_nil, Nat.ofDigitChars_ten_toDigits] at written
  simpa using written

end Numeral

theorem toList_plain_of_nonneg {n : Int64} (h : 0 ≤ n.toInt) :
    (Value.int n).plain.toList = Nat.toDigits 10 n.toInt.natAbs := by
  obtain ⟨m, hm⟩ := Int.eq_ofNat_of_zero_le h
  change (toString n.toInt).toList = _
  rw [hm, Int.natAbs_natCast]
  exact Nat.toList_repr

theorem toList_plain_of_neg {n : Int64} (h : n.toInt < 0) :
    (Value.int n).plain.toList = '-' :: Nat.toDigits 10 n.toInt.natAbs := by
  obtain ⟨m, hm⟩ := Int.eq_negSucc_of_lt_zero h
  change (toString n.toInt).toList = _
  rw [hm, Int.natAbs_negSucc]
  change ("-" ++ m.succ.repr).toList = _
  rw [String.toList_append, Nat.toList_repr]
  rfl

/-- The plain text of an integer is a numeral of its value. -/
theorem whole_plain (n : Int64) : Whole n.toInt (Value.int n).plain.toList := by
  by_cases hneg : n.toInt < 0
  · have hvalue : -(n.toInt.natAbs : Int) = n.toInt := by omega
    have whole := whole_minus_toDigits n.toInt.natAbs
    rwa [hvalue, ← toList_plain_of_neg hneg] at whole
  · have hvalue : (n.toInt.natAbs : Int) = n.toInt := by omega
    have whole := whole_toDigits n.toInt.natAbs
    rwa [hvalue, ← toList_plain_of_nonneg (Int.not_lt.mp hneg)] at whole

theorem ofNumeral_natural (m : Nat) : Double.ofNumeral false ⟨m, 0⟩ = .ofInt m := by
  have hsign : decide ((m : Int) < 0) = false := decide_eq_false (by omega)
  rw [Double.ofInt, hsign, Int.natAbs_natCast]
  exact Double.ofNumeral_fraction false m 0

/-- Digits are read as an integer while it is in range, and as the nearest double above. -/
theorem read?_toDigits (m : Nat) : Number.read? (Nat.toDigits 10 m) = some (.ofInt m) := by
  have whole := whole_toDigits m
  cases h : int64? m with
  | some n =>
    have hn := int64?_eq_some_iff.mp h
    rw [← hn] at whole ⊢
    rw [read?_of_whole whole, ofInt_toInt]
  | none =>
    have hlarge (i : Int64) : ¬ Whole i.toInt (Nat.toDigits 10 m) := by
      intro whole'
      have hi : i.toInt = m := whole'.unique whole
      rw [int64?_eq_some_iff.mpr hi] at h
      cases h
    have hdouble : Number.ofInt m = .double (.ofNumeral false ⟨m, 0⟩) := by
      rw [Number.ofInt, ofInt?, h, ofNumeral_natural]
      rfl
    rw [hdouble]
    exact read?_eq_some_iff.mpr (.inr ⟨hlarge, false, _, signed_toDigits m, rfl⟩)

/-! ### Blanks -/

theorem Numeral.Digits.not_isBlank {ds : List Char} (digits : Digits ds) :
    ∀ c ∈ ds, ¬ Text.isBlank c :=
  fun c hc => not_isBlank_of_isNumberChar (isNumberChar_of_isDigit (digits.2 c hc))

theorem Numeral.Whole.not_isBlank {i : Int} {cs : List Char} (whole : Whole i cs) :
    ∀ c ∈ cs, ¬ Text.isBlank c := by
  obtain ⟨sign, digits⟩ := whole
  refine List.forall_mem_append.mpr ⟨?_, digits.not_isBlank⟩
  cases sign with
  | none => exact List.forall_mem_nil _
  | plus | minus => exact List.forall_mem_singleton.mpr (by decide)

/-- A numeral of an integer counts as this integer, with or without blanks around it. -/
theorem Value.toNumber_of_whole {n : Int64} {blanks blanks' cs : List Char}
    (hb : ∀ c ∈ blanks, Text.isBlank c) (hb' : ∀ c ∈ blanks', Text.isBlank c)
    (whole : Whole n.toInt cs) :
    (Value.text (String.ofList (blanks ++ cs ++ blanks'))).toNumber = .int n := by
  have htrim := Text.trim_append_append hb hb' whole.not_isBlank
  refine numberOfText_eq_int_iff.mpr (.inr ?_)
  rwa [String.toList_ofList, htrim]

/-! ### Formulas of one number -/

namespace Grammar.Derivation

/-- A constant is an operand. -/
def literal (lexeme : String) (v : Value) : Derivation (.one (.nonterminal .unary)) :=
  node .plain (cons (node .constant (cons (leaf (.constant lexeme v) v ⟨lexeme, rfl⟩) nil)) nil)

@[simp] theorem tokens_literal (lexeme : String) (v : Value) :
    (literal lexeme v).tokens = [.constant lexeme v] := rfl

@[simp] theorem meaning_literal (lexeme : String) (v : Value) :
    (literal lexeme v).meaning = .constant v := rfl

end Grammar.Derivation

theorem cut_digits {ds : List Char} {x : Number} (digits : Digits ds) (hx : read? ds = some x) :
    Cut ds [.constant (String.ofList ds) (.number x)] := by
  have run : Run isNumberChar ds [] :=
    .at_end fun c hc => isNumberChar_of_isDigit (digits.2 c hc)
  have plain : Plain ds := plain_of_natural? (natural?_eq_some_iff.mpr ⟨digits, rfl⟩)
  have lexeme := Lexeme.number (Keywords.absent_of_number digits.1 run) digits.1 run plain hx
  have cut := Cut.cons lexeme .nil
  rwa [List.append_nil] at cut

/-- A minus in front of a digit is not part of a longer keyword. -/
theorem lexeme_minus {ds : List Char} (digits : Digits ds) :
    Lexeme ['-'] ds UnaryOp.negate.token := by
  obtain ⟨hne, hdigits⟩ := digits
  obtain ⟨d, ds, rfl⟩ := List.exists_cons_of_ne_nil hne
  have hd : d ≠ '-' := (ne_sign_of_isDigit (hdigits d List.mem_cons_self)).1
  have hwords : ∀ w ∈ Keywords.words, w.1.toList.head? = some '-' →
      w.1.length ≤ 1 ∨ w.1.toList[1]? = some '-' := by
    decide +kernel
  refine .keyword ⟨UnaryOp.negate.mem_words, List.prefix_append _ _, fun v hv hp => ?_⟩
  have hhead := head?_eq_of_begins (Keywords.spelling_ne_nil v hv) (List.cons_ne_nil _ _) hp
  rcases hwords v hv hhead with hlength | hsecond
  · exact hlength
  · obtain ⟨more, hmore⟩ := hp
    obtain ⟨hlt, -⟩ := List.getElem?_eq_some_iff.mp hsecond
    have hd' : ('-' :: d :: ds)[1]? = some '-' := by
      rw [← hsecond, ← List.getElem?_append_left hlt, hmore]
      rfl
    exact absurd (Option.some.inj hd') hd

theorem Host.run_of_read {host : Host} {text : String} {f : Formula} {scope v : Value}
    (hread : Formula.read text = .ok f) (heval : f.root.evaluate host scope = .ok v) :
    host.run text scope = .ok v := by
  rw [Host.run, hread]
  exact congrArg (Except.mapError Error.unevaluable) heval

/-! ### Integers read back -/

theorem run_digits (host : Host) (scope : Value) (m : Nat) :
    host.run (String.ofList (Nat.toDigits 10 m)) scope = .ok (.number (.ofInt m)) := by
  have cut := cut_digits (digits_toDigits m) (read?_toDigits m)
  obtain ⟨f, hread, hroot, -⟩ := read_of_operand (String.ofList (Nat.toDigits 10 m))
    (literal (String.ofList (Nat.toDigits 10 m)) (.number (.ofInt m)))
    (by rwa [String.toList_ofList])
  refine Host.run_of_read hread ?_
  rw [hroot]
  rfl

theorem run_minus_digits (host : Host) (scope : Value) (m : Nat) :
    host.run (String.ofList ('-' :: Nat.toDigits 10 m)) scope =
      .ok (.number (Number.ofInt m).neg) := by
  have digits := digits_toDigits m
  have cut := Cut.cons (lexeme_minus digits) (cut_digits digits (read?_toDigits m))
  obtain ⟨f, hread, hroot, -⟩ := read_of_operand (String.ofList ('-' :: Nat.toDigits 10 m))
    (before .negate (literal (String.ofList (Nat.toDigits 10 m)) (.number (.ofInt m))))
    (by rwa [String.toList_ofList])
  refine Host.run_of_read hread ?_
  rw [hroot]
  rfl

theorem Number.eq_minValue_iff {n : Int64} : n = .minValue ↔ n.toInt = -2 ^ 63 := by
  rw [← Int64.toInt_minValue, Int64.toInt_inj]

/-- Only the negative of the smallest integer is out of range. -/
theorem Number.neg_ofInt_natAbs {n : Int64} (h : n.toInt < 0) : (ofInt n.toInt.natAbs).neg =
    if n = .minValue then .double (.ofInt n.toInt) else .int n := by
  have hle := n.le_toInt
  split
  · next hmin =>
    have hvalue := eq_minValue_iff.mp hmin
    have hlarge : int64? n.toInt.natAbs = none := by
      rw [← Option.not_isSome_iff_eq_none, isSome_int64?_iff]
      omega
    rw [ofInt, ofInt?, hlarge, ← Double.neg_ofInt_natAbs h]
    rfl
  · next hmin =>
    have hvalue := mt eq_minValue_iff.mpr hmin
    obtain ⟨m, hm⟩ := Option.isSome_iff_exists.mp
      (isSome_int64?_iff (n := n.toInt.natAbs).mpr (by omega))
    have hm' := int64?_eq_some_iff.mp hm
    have hopposite : -m.toInt = n.toInt := by omega
    rw [← hm', ofInt_toInt, Number.neg, hopposite, ofInt_toInt]

theorem run_plain (host : Host) (scope : Value) (n : Int64) :
    host.run (Value.int n).plain scope =
      .ok (.number (if n = .minValue then .double (.ofInt n.toInt) else .int n)) := by
  by_cases hneg : n.toInt < 0
  · have hrun := run_minus_digits host scope n.toInt.natAbs
    rwa [← toList_plain_of_neg hneg, String.ofList_toList, Number.neg_ofInt_natAbs hneg] at hrun
  · have hvalue : (n.toInt.natAbs : Int) = n.toInt := by omega
    have hmin : n ≠ .minValue := by
      rintro rfl
      exact hneg (by decide)
    have hrun := run_digits host scope n.toInt.natAbs
    rw [if_neg hmin]
    rwa [← toList_plain_of_nonneg (Int.not_lt.mp hneg), String.ofList_toList, hvalue,
      ofInt_toInt] at hrun

/-- The plain text of an integer counts as this integer, with or without blanks around it. As a
formula it has a value that equals the integer and, unless it is the smallest one, is the integer:
the digits behind the minus are read first, and those of the smallest integer are out of range. -/
theorem printed_integers (n : Int64) {blanks blanks' : List Char}
    (hb : ∀ c ∈ blanks, Text.isBlank c) (hb' : ∀ c ∈ blanks', Text.isBlank c) (host : Host)
    (scope : Value) :
    (Value.text (String.ofList blanks ++ (Value.int n).plain ++ String.ofList blanks')).toNumber =
      .int n ∧
    ∃ v, host.run (Value.int n).plain scope = .ok v ∧ v.strictEq (.int n) ∧
      (v = .int n ↔ n ≠ .minValue) := by
  have htext : String.ofList blanks ++ (Value.int n).plain ++ String.ofList blanks' =
      String.ofList (blanks ++ (Value.int n).plain.toList ++ blanks') := by
    rw [String.ofList_append, String.ofList_append, String.ofList_toList]
  rw [htext]
  refine ⟨Value.toNumber_of_whole hb hb' (whole_plain n), _, run_plain host scope n, ?_, ?_⟩
  · split
    · exact (Value.strictEq_double_int _ n).trans (Double.eq_self_iff.mpr (Double.isNan_ofInt _))
    · exact (Value.strictEq_number _ _).trans (Number.eq_self_iff.mpr nofun)
  · split
    · next hmin => exact iff_of_false nofun (not_not_intro hmin)
    · next hmin => exact iff_of_true rfl hmin

/-- The smallest integer is printed and read with its sign, but computed without it. -/
theorem smallest_integer_printed : (∀ c ∈ ['\u3000'], Text.isBlank c) ∧
    (∀ c ∈ ['\t', ' '], Text.isBlank c) ∧
    (Value.text "\u3000-9223372036854775808\t ").toNumber = .int .minValue ∧
    ∃ v, Host.empty.run "-9223372036854775808" .undefined = .ok v ∧
      v.strictEq (.int .minValue) ∧ v ≠ .int .minValue := by
  have hb : ∀ c ∈ ['\u3000'], Text.isBlank c := List.forall_mem_singleton.mpr (by decide)
  have hb' : ∀ c ∈ ['\t', ' '], Text.isBlank c :=
    List.forall_mem_cons.mpr ⟨by decide, List.forall_mem_singleton.mpr (by decide)⟩
  obtain ⟨htext, v, hrun, heq, hv⟩ := printed_integers .minValue hb hb' Host.empty .undefined
  exact ⟨hb, hb', htext, v, hrun, heq, fun h => hv.mp h rfl⟩

end Formulas
