import Formulas.Proofs.Numeral
import Formulas.Proofs.Token.Keyword

/-! What the next token of a text is, said without the scanner: the longest keyword, or else a run
of one class of characters or a text between quotes. -/
namespace Formulas

namespace Token

/-- The nine characters that separate tokens. -/
def spaces : List Char :=
  ['\t', '\n', '\x0b', '\x0c', '\r', ' ', '\u00a0', '\u2028', '\u2029']

private theorem mem_of_toNat_mem {c : Char} {cs : List Char} (h : c.toNat ∈ cs.map Char.toNat) :
    c ∈ cs := by
  obtain ⟨d, hd, he⟩ := List.mem_map.mp h
  exact Char.toNat_inj.mp he ▸ hd

theorem mem_spaces_of_isSpace {c : Char} (h : isSpace c) : c ∈ spaces := by
  apply mem_of_toNat_mem
  simp only [isSpace, Bool.or_eq_true, Bool.and_eq_true, decide_eq_true_eq] at h
  simp only [spaces, List.map_cons, List.map_nil, List.mem_cons, List.not_mem_nil, or_false,
    Char.reduceToNat]
  omega

theorem isIdentifierRest_of_isNumberChar {c : Char} (h : isNumberChar c) : isIdentifierRest c := by
  simp only [isNumberChar, Bool.or_eq_true] at h
  simp only [isIdentifierRest, Bool.or_eq_true]
  tauto

theorem not_isIdentifierRest_of_isSpace {c : Char} (h : isSpace c) : ¬ isIdentifierRest c := by
  have hs : spaces.all fun c => !isIdentifierRest c := by decide
  simpa using List.all_eq_true.mp hs c (mem_spaces_of_isSpace h)

theorem not_isQuote_of_isSpace {c : Char} (h : isSpace c) : ¬ isQuote c := by
  have hs : spaces.all fun c => !isQuote c := by decide
  simpa using List.all_eq_true.mp hs c (mem_spaces_of_isSpace h)

theorem not_isIdentifierRest_of_isQuote {c : Char} (h : isQuote c) : ¬ isIdentifierRest c := by
  have hn : c = '"' ∨ c = '\'' := by simpa [isQuote, ← Char.toNat_inj] using h
  rcases hn with rfl | rfl <;> decide

theorem mem_numberChars_of_isNumberChar {c : Char} (h : isNumberChar c) :
    c ∈ ['.', '0', '1', '2', '3', '4', '5', '6', '7', '8', '9'] := by
  apply mem_of_toNat_mem
  simp only [isNumberChar, Char.isDigit, Bool.or_eq_true, Bool.and_eq_true, decide_eq_true_eq,
    ge_iff_le, UInt32.le_iff_toNat_le, ← Char.toNat_inj] at h
  simp only [List.map_cons, List.map_nil, List.mem_cons, List.not_mem_nil, or_false,
    Char.reduceToNat] at h ⊢
  change (48 ≤ c.toNat ∧ c.toNat ≤ 57) ∨ _ at h
  omega

theorem of_isNumberChar {p : Char → Bool} {c : Char} (h : isNumberChar c)
    (hp : ['.', '0', '1', '2', '3', '4', '5', '6', '7', '8', '9'].all p) : p c :=
  List.all_eq_true.mp hp c (mem_numberChars_of_isNumberChar h)

theorem isNumberChar_of_isDigit {c : Char} (h : c.isDigit) : isNumberChar c := by
  rw [isNumberChar, h, Bool.true_or]

theorem not_isIdentifierStart_of_isNumberChar {c : Char} (h : isNumberChar c) :
    ¬ isIdentifierStart c := by
  simpa using of_isNumberChar (p := fun c => !isIdentifierStart c) h (by decide)

theorem isIdentifierRest_of_isIdentifierStart {c : Char} (h : isIdentifierStart c) :
    isIdentifierRest c := by
  simp [isIdentifierRest, h]

end Token

open Token

/-- In a text that goes on as `l ++ rest` the next token takes up `l`. -/
inductive Lexeme : List Char → List Char → Token → Prop
  | keyword {w : String × Token} {rest : List Char}
      (longest : Keywords.Longest w (w.1.toList ++ rest)) : Lexeme w.1.toList rest w.2
  | number {l rest : List Char} {n : Number} (free : Keywords.Absent (l ++ rest)) (ne : l ≠ [])
      (run : Run isNumberChar l rest) (plain : Numeral.Plain l) (value : Number.read? l = some n) :
      Lexeme l rest (.constant (String.ofList l) (.number n))
  | word {l rest : List Char} (free : Keywords.Absent (l ++ rest)) (ne : l ≠ [])
      (start : ∀ c ∈ l.head?, isIdentifierStart c) (run : Run isIdentifierRest l rest) :
      Lexeme l rest (.identifier (String.ofList l))
  | text {q : Char} {body rest : List Char} (free : Keywords.Absent (q :: body ++ q :: rest))
      (quote : isQuote q) (first : q ∉ body) :
      Lexeme (q :: body ++ [q]) rest
        (.constant (String.ofList (q :: body ++ [q])) (.text (String.ofList body)))

/-- No token begins the text. -/
inductive Fault : List Char → SyntaxError → Prop
  | quote {q : Char} {cs : List Char} (free : Keywords.Absent (q :: cs)) (quote : isQuote q)
      (never : q ∉ cs) : Fault (q :: cs) (.unterminatedQuote q)
  | number {l rest : List Char} (free : Keywords.Absent (l ++ rest)) (ne : l ≠ [])
      (run : Run isNumberChar l rest) (dots : l = ['.'] ∨ 2 ≤ l.count '.') :
      Fault (l ++ rest) (.invalidNumber (String.ofList l))
  | unknown {c : Char} {cs : List Char} (free : Keywords.Absent (c :: cs)) (space : ¬ isSpace c)
      (quote : ¬ isQuote c) (number : ¬ isNumberChar c) (start : ¬ isIdentifierStart c) :
      Fault (c :: cs) (.unknownCharacter c)

/-- What comes next in a text behind its blanks: the end, a token, or a fault. -/
inductive Next : Cursor → Except SyntaxError (Token × Cursor) → Prop
  | finish {p : Nat} {blanks : List Char} (hb : ∀ c ∈ blanks, isSpace c) :
      Next ⟨p, blanks⟩ (.ok (.eof, ⟨p + blanks.length, []⟩))
  | token {p : Nat} {blanks l rest : List Char} {token : Token} (hb : ∀ c ∈ blanks, isSpace c)
      (lexeme : Lexeme l rest token) : Next ⟨p, blanks ++ (l ++ rest)⟩
        (.ok (token, ⟨p + blanks.length + l.length, rest⟩))
  | fault {p : Nat} {blanks cs : List Char} {e : SyntaxError} (hb : ∀ c ∈ blanks, isSpace c)
      (fault : Fault cs e) : Next ⟨p, blanks ++ cs⟩ (.error e)

namespace Lexeme

variable {l rest : List Char} {token : Token}

/-- The characters that a token takes up are its lexeme. -/
theorem toList_lexeme (h : Lexeme l rest token) : token.lexeme.toList = l := by
  cases h with
  | keyword longest => rw [Keywords.lexeme_eq_spelling _ longest.1]
  | number | word | text => simp [Token.constant, Token.identifier]

theorem ne_nil (h : Lexeme l rest token) : l ≠ [] := by
  cases h with
  | keyword longest => exact Keywords.spelling_ne_nil _ longest.1
  | number _ ne | word _ ne => exact ne
  | text => simp

/-- No token begins with a blank. -/
theorem not_isSpace_head (h : Lexeme l rest token) {c : Char} {cs : List Char}
    (hc : l ++ rest = c :: cs) : ¬ isSpace c := by
  intro hs
  cases h with
  | keyword longest =>
    have ne := Keywords.spelling_ne_nil _ longest.1
    exact Keywords.not_isSpace_head _ longest.1 c (head?_eq_of_append_eq ne hc) hs
  | number _ ne run =>
    exact not_isIdentifierRest_of_isSpace hs (isIdentifierRest_of_isNumberChar (run.head ne hc))
  | word _ ne _ run => exact not_isIdentifierRest_of_isSpace hs (run.head ne hc)
  | text _ quote => exact not_isQuote_of_isSpace hs ((List.cons.inj hc).1 ▸ quote)

end Lexeme

end Formulas
