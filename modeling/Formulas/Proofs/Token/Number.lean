import Formulas.Proofs.Token.Scanning
import Formulas.Proofs.Value.Numeric

/-! Numbers written in a formula, and the same digits in a text that is used as a number. Main
statement: `number_literals`. -/
namespace Formulas

open Token Numeral Number

/-- The double nearest to the number that a plain numeral stands for. -/
def Double.ofPlain (l : List Char) : Double :=
  nearest false (Nat.ofDigitChars 10 (l.erase '.') 0 * one)
    (10 ^ (l.dropWhile (· ≠ '.')).tail.length)

namespace Number

variable {l : List Char}

theorem read?_of_integer? {n : Int} {m : Numeral} (hinteger : integer? l = some n)
    (hsigned : signed? l = some (false, m)) :
    read? l = some ((ofInt? n).getD (.double (.ofNumeral false m))) := by
  rw [read?, hinteger, hsigned, ofInt?]
  cases h : int64? n with
  | none => simp [h]
  | some i => simp [h]

theorem read?_of_integer?_none {m : Numeral} (hinteger : integer? l = none)
    (hsigned : signed? l = some (false, m)) :
    read? l = some (.double (.ofNumeral false m)) := by
  rw [read?, hinteger, hsigned]
  rfl

theorem read?_of_dot_not_mem (hrun : ∀ c ∈ l, isNumberChar c) (plain : Plain l)
    (hdot : '.' ∉ l) :
    read? l = some ((ofInt? (Nat.ofDigitChars 10 l 0)).getD (.double (.ofPlain l))) := by
  rcases plain.digits_or_point hrun with ⟨hne, hdigits⟩ | ⟨ds, fs, rfl, -⟩
  · have hinteger : integer? l = some (Nat.ofDigitChars 10 l 0 : Int) := by
      rw [integer?_run hrun, natural?_digits hdigits hne]
      rfl
    have hsigned : signed? l = some (false, ⟨Nat.ofDigitChars 10 l 0, 0⟩) := by
      rw [signed?, splitSign_run hrun]
      simp only [unsigned?_digits hdigits, if_neg hne, Option.map_some]
    have hdrop : l.dropWhile (· ≠ '.') = [] :=
      List.dropWhile_eq_nil_iff.mpr fun c hc => decide_eq_true (ne_of_mem_of_not_mem hc hdot)
    have hdouble : Double.ofNumeral false ⟨Nat.ofDigitChars 10 l 0, 0⟩ = .ofPlain l := by
      rw [Double.ofPlain, List.erase_of_not_mem hdot, hdrop]
      exact Double.ofNumeral_fraction false _ 0
    rw [read?_of_integer? hinteger hsigned, hdouble]
  · exact absurd (List.mem_append_right ds List.mem_cons_self) hdot

theorem read?_of_dot_mem (hrun : ∀ c ∈ l, isNumberChar c) (plain : Plain l) (hdot : '.' ∈ l) :
    read? l = some (.double (.ofPlain l)) := by
  rcases plain.digits_or_point hrun with ⟨-, hdigits⟩ | ⟨ds, fs, rfl, hne, hds, hfs⟩
  · exact absurd hdot (dot_not_mem_digits hdigits)
  have hwhole : '.' ∉ ds := dot_not_mem_digits hds
  have herase : (ds ++ '.' :: fs).erase '.' = ds ++ fs := by
    rw [List.erase_append_right _ hwhole, List.erase_cons_head]
  have hdrop : (ds ++ '.' :: fs).dropWhile (· ≠ '.') = '.' :: fs := by
    rw [List.dropWhile_append_of_pos fun c hc => decide_eq_true (ne_of_mem_of_not_mem hc hwhole)]
    rfl
  have hinteger : integer? (ds ++ '.' :: fs) = none := by
    rw [integer?_run hrun, natural?_of_dot_mem hdot, Option.map_none]
  have hsigned : signed? (ds ++ '.' :: fs) =
      some (false, ⟨Nat.ofDigitChars 10 (ds ++ fs) 0, -fs.length⟩) := by
    rw [signed?, splitSign_run hrun]
    simp only [unsigned?_point hds hfs, if_neg hne, Option.map_some]
  rw [read?_of_integer?_none hinteger hsigned, Double.ofNumeral_fraction, Double.ofPlain, herase,
    hdrop, List.tail_cons]

/-- Which kind of number a plain numeral is, and which number of that kind. -/
theorem read?_of_plain (hrun : ∀ c ∈ l, isNumberChar c) (plain : Plain l) :
    ∃ x, read? l = some x ∧
      (∀ n : Int64, x = .int n ↔ '.' ∉ l ∧ n.toInt = Nat.ofDigitChars 10 l 0) ∧
      ((∃ n, x = .int n) ↔ '.' ∉ l ∧ Nat.ofDigitChars 10 l 0 ≤ Int64.maxValue.toInt) ∧
      ((∃ n, x = .int n) ∨ x = .double (.ofPlain l)) := by
  by_cases hdot : '.' ∈ l
  · refine ⟨_, read?_of_dot_mem hrun plain hdot, ?_, ?_, .inr rfl⟩ <;> simp [hdot]
  refine ⟨_, read?_of_dot_not_mem hrun plain hdot, ?_⟩
  simp only [hdot, not_false_eq_true, true_and]
  cases h : ofInt? (Nat.ofDigitChars 10 l 0) with
  | none =>
    have hlarge : ¬ (Nat.ofDigitChars 10 l 0 : Int) ≤ Int64.maxValue.toInt := by
      intro hle
      have hrange := isSome_int64?_iff.mpr ⟨by omega, Int.lt_add_one_of_le hle⟩
      rw [ofInt?, Option.map_eq_none_iff] at h
      rw [h] at hrange
      cases hrange
    have hne (n : Int64) : n.toInt ≠ Nat.ofDigitChars 10 l 0 := by
      intro hn
      have := n.toInt_lt
      rw [Int64.toInt_maxValue] at hlarge
      omega
    simp [hlarge, hne]
  | some x =>
    obtain ⟨n, rfl, hn⟩ := ofInt?_eq_some_iff.mp h
    have hle := n.toInt_lt
    have hsmall : (Nat.ofDigitChars 10 l 0 : Int) ≤ Int64.maxValue.toInt := by
      rw [Int64.toInt_maxValue]
      omega
    simp only [Option.getD_some, int.injEq, ← hn, Int64.toInt_inj]
    refine ⟨fun m => Eq.comm, iff_of_true ⟨n, rfl⟩ (hn ▸ hsmall), .inl ⟨n, rfl⟩⟩

end Number

/-! ### Texts as numbers -/

/-- Blanks at the ends are trimmed, also if nothing else is left. -/
theorem Text.trim_append_append {blanks cs blanks' : List Char} (hb : ∀ c ∈ blanks, isBlank c)
    (hb' : ∀ c ∈ blanks', isBlank c) (hcs : ∀ c ∈ cs, ¬ isBlank c) :
    trim (blanks ++ cs ++ blanks') = cs := by
  cases cs with
  | nil =>
    have hall : (blanks ++ blanks').dropWhile isBlank = [] :=
      List.dropWhile_eq_nil_iff.mpr (List.forall_mem_append.mpr ⟨hb, hb'⟩)
    rw [trim, List.append_nil, hall]
    rfl
  | cons c cs =>
    have hfirst : (c :: cs ++ blanks').dropWhile isBlank = c :: cs ++ blanks' :=
      List.dropWhile_cons_of_neg (hcs c List.mem_cons_self)
    have hlast : (c :: cs).reverse.dropWhile isBlank = (c :: cs).reverse :=
      List.dropWhile_eq_self_iff.mpr fun _ => hcs _ (List.mem_reverse.mp (List.getElem_mem _))
    rw [trim, List.append_assoc, List.dropWhile_append_of_pos hb, hfirst, List.reverse_append,
      List.dropWhile_append_of_pos fun c hc => hb' c (List.mem_reverse.mp hc), hlast,
      List.reverse_reverse]

theorem Text.trim_eq_self {cs : List Char} (h : ∀ c ∈ cs, ¬ isBlank c) : trim cs = cs := by
  have hempty : ∀ c ∈ ([] : List Char), isBlank c := List.forall_mem_nil _
  have htrim := trim_append_append hempty hempty h
  rwa [List.append_nil] at htrim

theorem Token.not_isBlank_of_isNumberChar {c : Char} (h : isNumberChar c) :
    ¬ Text.isBlank c := by
  simpa using of_isNumberChar (p := fun c => !Text.isBlank c) h (by decide)

/-- A run of digits and dots is neither trimmed nor a word for an infinity. -/
theorem Value.toNumber_run {l : List Char} (ne : l ≠ []) (hrun : ∀ c ∈ l, isNumberChar c) :
    (Value.text (String.ofList l)).toNumber = (read? l).getD .nan := by
  have htrim : Text.trim l = l :=
    Text.trim_eq_self fun c hc => not_isBlank_of_isNumberChar (hrun c hc)
  have hword (negative : Bool) : ¬ Infinite negative l := by
    intro infinite
    obtain ⟨c, hc, hforeign⟩ := infinite.exists_isForeign
    exact not_isForeign_of_isNumberChar (hrun c hc) hforeign
  have hvalue := numberOfText_of_not_infinite (s := String.ofList l)
  rw [String.toList_ofList, htrim] at hvalue
  rw [toNumber, hvalue ne hword]

theorem Keywords.absent_of_number {l rest : List Char} (ne : l ≠ [])
    (run : Run isNumberChar l rest) : Keywords.Absent (l ++ rest) := by
  intro w hw hprefix
  obtain ⟨more, hmore⟩ := hprefix
  obtain ⟨c, cs, hc⟩ := List.exists_cons_of_ne_nil (spelling_ne_nil w hw)
  rw [hc] at hmore
  have hhead : ∀ c ∈ w.1.toList.head?, ¬ isNumberChar c := not_isNumberChar_head w hw
  rw [hc] at hhead
  exact hhead c rfl (run.head ne hmore.symm)

/-- A run of digits and dots is one token, a number, exactly when it has a digit and at most one
dot; else it is an invalid number as a whole. A text of the same characters is used as the same
number, or as no number. -/
theorem number_literals {p : Nat} {blanks l rest : List Char} (hblanks : ∀ c ∈ blanks, isSpace c)
    (ne : l ≠ []) (run : Run isNumberChar l rest) :
    ((∃ next, scan .standard ⟨p, blanks ++ (l ++ rest)⟩ = .ok next) ↔
      (∃ c ∈ l, c.isDigit) ∧ l.count '.' ≤ 1) ∧
    (¬ ((∃ c ∈ l, c.isDigit) ∧ l.count '.' ≤ 1) →
      scan .standard ⟨p, blanks ++ (l ++ rest)⟩ = .error (.invalidNumber (String.ofList l)) ∧
      (Value.text (String.ofList l)).toNumber = .nan) ∧
    ((∃ c ∈ l, c.isDigit) ∧ l.count '.' ≤ 1 → ∃ x,
      scan .standard ⟨p, blanks ++ (l ++ rest)⟩ =
        .ok (.constant (String.ofList l) (.number x), ⟨p + blanks.length + l.length, rest⟩) ∧
      (Value.text (String.ofList l)).toNumber = x ∧
      (∀ n : Int64, x = .int n ↔ '.' ∉ l ∧ n.toInt = Nat.ofDigitChars 10 l 0) ∧
      ((∃ n, x = .int n) ↔ '.' ∉ l ∧ Nat.ofDigitChars 10 l 0 ≤ Int64.maxValue.toInt) ∧
      ((∃ n, x = .int n) ∨ x = .double (.ofPlain l))) := by
  have free := Keywords.absent_of_number ne run
  have hinvalid : ¬ Plain l →
      scan .standard ⟨p, blanks ++ (l ++ rest)⟩ = .error (.invalidNumber (String.ofList l)) ∧
      (Value.text (String.ofList l)).toNumber = .nan := by
    intro hplain
    have hread : read? l = none := by
      rwa [← Option.not_isSome_iff_eq_none, isSome_read?_iff run.1]
    have hfault := Fault.number free ne run ((not_plain_iff run.1 ne).mp hplain)
    exact ⟨hfault.scan_eq hblanks, by rw [Value.toNumber_run ne run.1, hread, Option.getD_none]⟩
  have hvalid (plain : Plain l) : ∃ x, read? l = some x ∧
      scan .standard ⟨p, blanks ++ (l ++ rest)⟩ =
        .ok (.constant (String.ofList l) (.number x), ⟨p + blanks.length + l.length, rest⟩) := by
    obtain ⟨x, hread, -⟩ := read?_of_plain run.1 plain
    exact ⟨x, hread, (Lexeme.number free ne run plain hread).scan_eq hblanks⟩
  refine ⟨⟨fun ⟨next, hnext⟩ => ?_, fun plain => ?_⟩, hinvalid, fun plain => ?_⟩
  · by_contra hplain
    rw [(hinvalid hplain).1] at hnext
    cases hnext
  · obtain ⟨x, -, hscan⟩ := hvalid plain
    exact ⟨_, hscan⟩
  · obtain ⟨x, hread, hkind⟩ := read?_of_plain run.1 plain
    obtain ⟨y, hread', hscan⟩ := hvalid plain
    obtain rfl := Option.some.inj (hread.symm.trans hread')
    exact ⟨x, hscan, by rw [Value.toNumber_run ne run.1, hread, Option.getD_some], hkind⟩

/-- Zeros in front do not count against the largest integer. -/
theorem largest_integer_literal :
    (∀ c ∈ [' '], isSpace c) ∧ "0009223372036854775807".toList ≠ [] ∧
    Run isNumberChar "0009223372036854775807".toList ['<', 'x'] ∧
    scan .standard ⟨0, [' '] ++ ("0009223372036854775807".toList ++ ['<', 'x'])⟩ =
      .ok (.constant "0009223372036854775807" (.int .maxValue), ⟨23, ['<', 'x']⟩) ∧
    (Value.text "0009223372036854775807").toNumber = .int .maxValue := by
  have hblanks : ∀ c ∈ [' '], isSpace c := by simp [isSpace]
  have ne : "0009223372036854775807".toList ≠ [] := by decide
  have run : Run isNumberChar "0009223372036854775807".toList ['<', 'x'] := by
    refine ⟨List.all_eq_true.mp (by decide +kernel), ?_⟩
    rintro c ⟨⟩
    decide
  have plain : Plain "0009223372036854775807".toList :=
    ⟨⟨'9', by decide, by decide⟩, by decide⟩
  obtain ⟨x, hscan, htext, hint, -⟩ := (number_literals (p := 0) hblanks ne run).2.2 plain
  obtain rfl := (hint .maxValue).mpr (by decide +kernel)
  exact ⟨hblanks, ne, run, hscan, htext⟩

end Formulas
