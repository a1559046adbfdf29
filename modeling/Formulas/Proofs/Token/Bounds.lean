import Formulas.Proofs.Token.Scanning
import Formulas.Proofs.Token.Step
import Formulas.Token.Indexed

/-! Scanning by index never leaves the text: all slices that it cuts lie there, whatever the index and
the keywords are, and it finds what the scanner finds that keeps only the rest of the text. Main
statement: `scanning_stays_in_text`. -/
namespace Formulas

open Token

variable {keywords : Keywords} {text l rest cs : List Char} {start index : Nat} {c : Char}
  {token : Token}

/-! ### Slices -/

theorem slice?_of_drop {last : Nat} (hstart : start ≤ text.length)
    (h : text.drop start = l ++ rest) (hlast : start + l.length = last) :
    slice? text start last = some l := by
  have hlen := congrArg List.length h
  rw [List.length_drop, List.length_append] at hlen
  rw [slice?, if_pos (by omega), h, ← hlast, Nat.add_sub_cancel_left, List.take_left]

theorem slice?_to_end (hstart : start ≤ text.length) :
    slice? text start text.length = some (text.drop start) :=
  slice?_of_drop hstart (List.append_nil _).symm (by rw [List.length_drop]; omega)

theorem lt_length_of_drop (h : text.drop start = c :: cs) : start < text.length :=
  List.length_lt_of_drop_ne_nil (h ▸ List.cons_ne_nil c cs)

/-! ### Tokens -/

namespace Token

theorem skipSpaces_eq (text : List Char) (index : Nat) :
    skipSpaces text index = index + ((text.drop index).takeWhile isSpace).length := by
  fun_induction skipSpaces text index with
  | case1 index c hc hspace ih =>
    obtain ⟨hlt, rfl⟩ := List.getElem?_eq_some_iff.mp hc
    rw [ih, List.drop_eq_getElem_cons hlt, List.takeWhile_cons_of_pos hspace, List.length_cons]
    omega
  | case2 index c hc hspace =>
    obtain ⟨hlt, rfl⟩ := List.getElem?_eq_some_iff.mp hc
    rw [List.drop_eq_getElem_cons hlt, List.takeWhile_cons_of_neg hspace]
    rfl
  | case3 index hend =>
    rw [List.drop_eq_nil_of_le (List.getElem?_eq_none_iff.mp hend)]
    rfl

/-- The body and both quotes lie in the text, even if the closing quote is its last character. -/
theorem textAt?_eq (h : text.drop start = c :: cs) : textAt? text start c =
    some ((text? c cs).elim (.error (.unterminatedQuote c)) .ok) := by
  have hstart : start + 1 ≤ text.length := lt_length_of_drop h
  have hbehind : text.drop (start + 1) = cs := by rw [← List.tail_drop, h, List.tail_cons]
  rw [textAt?, slice?_to_end hstart, hbehind]
  by_cases hc : c ∈ cs
  · obtain ⟨body, rest, rfl, hfirst⟩ := List.eq_append_cons_of_mem hc
    have hclose : (body ++ c :: rest).idxOf? c = some body.length := by
      refine List.idxOf?_eq_some_iff.mpr ⟨by simp, by simp, fun i hi heq => hfirst ?_⟩
      rw [List.getElem_append_left hi] at heq
      exact List.mem_of_getElem heq
    have hlexeme : slice? text start (start + 1 + body.length + 1) = some (c :: body ++ [c]) := by
      have hsplit : text.drop start = (c :: body ++ [c]) ++ rest := by simpa using h
      exact slice?_of_drop (Nat.le_of_succ_le hstart) hsplit (by simp; omega)
    have hbody : slice? text (start + 1) (start + 1 + body.length) = some body :=
      slice?_of_drop hstart hbehind rfl
    simp [hclose, hlexeme, hbody, text?_append hfirst]
  · have hclose : cs.idxOf? c = none := List.idxOf?_eq_none_iff.mpr hc
    simp [hclose, text?, hc]

theorem runAt?_eq (h : start ≤ text.length) (p : Char → Bool) :
    runAt? text start p = some ((text.drop start).takeWhile p) := by
  rw [runAt?, slice?_to_end h]
  rfl

theorem numberAt?_eq (h : start ≤ text.length) :
    numberAt? text start = some (number (text.drop start)) := by
  rw [numberAt?, runAt?_eq h, number]
  cases hread : numeral? ((text.drop start).takeWhile isNumberChar) <;> simp [hread]

theorem wordAt?_eq (h : start ≤ text.length) :
    wordAt? text start = some (.ok (word (text.drop start))) := by
  rw [wordAt?, runAt?_eq h, word]
  rfl

theorem literalAt?_eq (h : text.drop start = c :: cs) :
    literalAt? text start c = some (literal c cs) := by
  have hstart : start ≤ text.length := Nat.le_of_lt (lt_length_of_drop h)
  rw [literalAt?, textAt?_eq h, numberAt?_eq hstart, wordAt?_eq hstart, h, literal]
  split
  · cases text? c cs <;> rfl
  · split
    · rfl
    · split <;> rfl

end Token

/-! ### Scanning -/

theorem Cursor.skipSpace_at (text : String) (index : Nat) :
    (Cursor.at text index).skipSpace = .at text (skipSpaces text.toList index) := by
  rw [Cursor.skipSpace, Cursor.advance_at, skipSpaces_eq]
  rfl

/-- The scanner by index finds what the other one finds, and ends with an answer about the text. -/
theorem scanAt?_eq (keywords : Keywords) (text : String) (index : Nat) :
    scanAt? keywords text.toList index =
      some ((scan keywords (.at text index)).map fun (token, next) => (token, next.position)) := by
  have hskip := Cursor.skipSpace_at text index
  unfold scanAt?
  dsimp only
  generalize skipSpaces text.toList index = start at hskip
  rw [← List.head?_drop]
  cases hdrop : text.toList.drop start with
  | nil =>
    rw [scan_of_nil (by rw [hskip, Cursor.at, hdrop]), hskip]
    rfl
  | cons c cs =>
    rw [scan_of_cons (by rw [hskip, Cursor.at, hdrop]), hskip, Keywords.lexeme, List.head?_cons]
    dsimp only
    rw [literalAt?_eq hdrop]
    cases keywords.longest? (c :: cs) with
    | some keyword => rfl
    | none => cases literal c cs <;> rfl

/-! ### Places -/

theorem le_skipSpaces (text : List Char) (index : Nat) : index ≤ skipSpaces text index := by
  rw [skipSpaces_eq]
  exact Nat.le_add_right _ _

theorem skipSpaces_le (text : List Char) (index : Nat) :
    skipSpaces text index ≤ max index text.length := by
  have hlen := (List.takeWhile_prefix isSpace (l := text.drop index)).length_le
  rw [List.length_drop] at hlen
  rw [skipSpaces_eq]
  omega

/-- Some keyword that can be found has a lexeme longer than its spelling, and long enough to lead from
inside a text of this length to this place behind its end. -/
def Keywords.Overshoots (keywords : Keywords) (length position : Nat) : Prop :=
  ∃ spelling token, spelling ≠ [] ∧ keywords.get? spelling = some token ∧
    spelling.length < token.width ∧ position + spelling.length ≤ length + token.width

/-- What a lexeme takes up lies in the text, if it is no keyword with a longer lexeme. -/
theorem lexeme_le_or_overshoots (h : text.drop start = c :: cs)
    (hlexeme : keywords.lexeme c cs = .ok token) :
    start + token.width ≤ text.length ∨ keywords.Overshoots text.length (start + token.width) := by
  have hstart := lt_length_of_drop h
  have hlen := congrArg List.length h
  rw [List.length_drop, List.length_cons] at hlen
  unfold Keywords.lexeme at hlexeme
  cases hlongest : keywords.longest? (c :: cs) with
  | none =>
    rw [hlongest] at hlexeme
    obtain ⟨l, hl, hpre⟩ := exists_lexeme_of_literal hlexeme
    have hwidth : token.width = l.length + 1 := by
      rw [Token.width, ← String.length_toList, hl, List.length_cons]
    have := hpre.length_le
    omega
  | some keyword =>
    rw [hlongest] at hlexeme
    cases hlexeme
    obtain ⟨spelling, hne, hpre, hstored, -⟩ := PrefixTree.longest?_eq_some_iff.mp hlongest
    have hspelling := hpre.length_le
    rw [List.length_cons] at hspelling
    rcases Nat.lt_or_ge spelling.length token.width with hlt | hle
    · exact .inr ⟨spelling, token, hne, hstored, hlt, by omega⟩
    · left
      omega

/-- Where a scan leads: to the end, if nothing is left behind the blanks, and else behind a token
that begins in the text. -/
theorem scan_at_cases {text : String} {next : Cursor}
    (h : scan keywords (.at text index) = .ok (token, next)) :
    token = .eof ∧ next.position = max index text.length ∨
      ∃ start, index ≤ start ∧ start < text.length ∧ next.position = start + token.width ∧
        (start + token.width ≤ text.length ∨
          keywords.Overshoots text.length (start + token.width)) := by
  have hge := le_skipSpaces text.toList index
  have hle := skipSpaces_le text.toList index
  rw [String.length_toList] at hle
  rcases scan_eq_ok_iff.mp h with ⟨hrest, rfl, rfl⟩ | ⟨c, cs, hrest, hlexeme, rfl⟩
  · rw [Cursor.skipSpace_at, Cursor.at, List.drop_eq_nil_iff, String.length_toList] at hrest
    refine .inl ⟨rfl, ?_⟩
    rw [Cursor.skipSpace_at, Cursor.at]
    dsimp only
    omega
  · rw [Cursor.skipSpace_at, Cursor.at] at hrest
    have hlt := lt_length_of_drop hrest
    have hplace := lexeme_le_or_overshoots hrest hlexeme
    rw [String.length_toList] at hlt hplace
    refine .inr ⟨_, hge, hlt, ?_, hplace⟩
    rw [Cursor.skipSpace_at]
    rfl

/-- A scan does not lead back, nor further than the width of its token. -/
theorem bounds_of_scan {text : String} {next : Cursor}
    (h : scan keywords (.at text index) = .ok (token, next)) :
    index ≤ next.position ∧ next.position ≤ max index text.length + token.width := by
  rcases scan_at_cases h with ⟨-, hend⟩ | ⟨start, hge, hlt, hnext, -⟩ <;> omega

/-! ### Runs -/

namespace Lexer

/-- A lexer that stands in the text or was led out of it by a keyword has an answer to the next call,
and stands so again. -/
theorem exists_next (keywords : Keywords) (text : String) (position : Nat) :
    ∃ answer next, next? keywords ⟨text.toList, position⟩ = some (answer, ⟨text.toList, next⟩) ∧
      ((text.length < position → keywords.Overshoots text.length position) →
        text.length < next → keywords.Overshoots text.length next) := by
  rw [next?, scanAt?_eq]
  cases hscan : scan keywords (.at text position) with
  | error e => exact ⟨.error e, position, rfl, id⟩
  | ok first =>
    obtain ⟨token, next⟩ := first
    refine ⟨.ok token, next.position, rfl, fun hplace hbehind => ?_⟩
    rcases scan_at_cases hscan with ⟨-, hend⟩ | ⟨start, -, -, hnext, hle | hover⟩
    · -- Nothing is left, so a lexer behind the end stays where it is.
      have hsame : next.position = position := by omega
      rw [hsame] at hbehind ⊢
      exact hplace hbehind
    · omega
    · rwa [hnext]

theorem exists_run (keywords : Keywords) (text : String) (calls position : Nat)
    (hplace : text.length < position → keywords.Overshoots text.length position) :
    ∃ answers last, run? keywords calls ⟨text.toList, position⟩ =
        some (answers, ⟨text.toList, last⟩) ∧ answers.length = calls ∧
      (text.length < last → keywords.Overshoots text.length last) := by
  induction calls generalizing position with
  | zero => exact ⟨[], position, rfl, rfl, hplace⟩
  | succ calls ih =>
    obtain ⟨answer, next, hnext, hkeeps⟩ := exists_next keywords text position
    obtain ⟨answers, last, hrun, hlen, hlast⟩ := ih next (hkeeps hplace)
    refine ⟨answer :: answers, last, ?_, by rw [List.length_cons, hlen], hlast⟩
    rw [run?, hnext]
    dsimp only [Option.bind_eq_bind, Option.bind_some]
    rw [hrun]
    rfl

end Lexer

/-- From any index, also from behind the end, no slice is cut that does not lie in the text: the scan
ends with the answer that the cursor there gives, and a token never leads back. A lexer answers all of
its calls, and stands behind the end only if a keyword with a lexeme longer than its spelling leads
there. -/
theorem scanning_stays_in_text (keywords : Keywords) (text : String) :
    (∀ index, ∃ result, scanAt? keywords text.toList index = some result ∧
      result = (scan keywords (.at text index)).map
        (fun (token, next) => (token, next.position)) ∧
      ∀ token next, result = .ok (token, next) →
        index ≤ next ∧ next ≤ max index text.length + token.width) ∧
    ∀ calls, ∃ answers position,
      (Lexer.start text).run? keywords calls = some (answers, ⟨text.toList, position⟩) ∧
        answers.length = calls ∧
        (text.length < position → keywords.Overshoots text.length position) := by
  refine ⟨fun index => ⟨_, scanAt?_eq keywords text index, rfl, fun token next h => ?_⟩,
    fun calls => Lexer.exists_run keywords text calls 0 (fun h => absurd h (Nat.not_lt_zero _))⟩
  cases hscan : scan keywords (.at text index) with
  | error e =>
    rw [hscan] at h
    cases h
  | ok first =>
    rw [hscan] at h
    cases h
    exact bounds_of_scan hscan

/-- A keyword of one character with three in its lexeme leads behind the end, where the lexer finds
the end. -/
theorem wide_keyword_leads_behind_end :
    (Lexer.start "a").run? (.add .empty "a" (.identifier "abc")) 2 =
        some ([.ok (.identifier "abc"), .ok .eof], ⟨"a".toList, 3⟩) ∧
      Keywords.Overshoots (.add .empty "a" (.identifier "abc")) "a".length 3 := by
  obtain ⟨hscans, hruns⟩ := scanning_stays_in_text (.add .empty "a" (.identifier "abc")) "a"
  obtain ⟨answers, position, hrun, -, hover⟩ := hruns 2
  have hfirst : scanAt? (.add .empty "a" (.identifier "abc")) ['a'] 0 =
      some (.ok (.identifier "abc", 3)) := by
    obtain ⟨result, hresult, rfl, -⟩ := hscans 0
    exact hresult
  have hsecond : scanAt? (.add .empty "a" (.identifier "abc")) ['a'] 3 =
      some (.ok (.eof, 3)) := by
    obtain ⟨result, hresult, rfl, -⟩ := hscans 3
    exact hresult
  have hrun' : (Lexer.start "a").run? (.add .empty "a" (.identifier "abc")) 2 =
      some ([.ok (.identifier "abc"), .ok .eof], ⟨"a".toList, 3⟩) := by
    simp [Lexer.start, Lexer.run?, Lexer.next?, hfirst, hsecond]
  refine ⟨hrun', ?_⟩
  rw [hrun'] at hrun
  cases hrun
  exact hover (by decide)

end Formulas
