import Formulas.Proofs.Numeral.Reader

/-! The scanner finds the next token. Main statement: `scan_standard_eq_iff`. -/
namespace Formulas

open Token

variable {p : Nat} {blanks cs l rest : List Char} {token : Token} {e : SyntaxError}

theorem Cursor.skipSpace_append (hb : ∀ c ∈ blanks, isSpace c)
    (hcs : ∀ c ∈ cs.head?, ¬ isSpace c) :
    Cursor.skipSpace ⟨p, blanks ++ cs⟩ = ⟨p + blanks.length, cs⟩ := by
  simp [Cursor.skipSpace, Cursor.advance, Run.takeWhile_eq ⟨hb, hcs⟩]

theorem scan_blanks (keywords : Keywords) (hb : ∀ c ∈ blanks, isSpace c) :
    scan keywords ⟨p, blanks⟩ = .ok (.eof, ⟨p + blanks.length, []⟩) := by
  have : Cursor.skipSpace ⟨p, blanks ++ []⟩ = ⟨p + blanks.length, []⟩ :=
    Cursor.skipSpace_append hb (by simp)
  rw [List.append_nil] at this
  simp [scan, this]

theorem scan_cons (keywords : Keywords) {c : Char} (hb : ∀ c ∈ blanks, isSpace c)
    (hc : ¬ isSpace c) : scan keywords ⟨p, blanks ++ c :: cs⟩ =
      ((keywords.longest? (c :: cs)).elim (literal c cs) .ok).map fun token =>
        (token, (⟨p + blanks.length, c :: cs⟩ : Cursor).advance token.width) := by
  have : Cursor.skipSpace ⟨p, blanks ++ c :: cs⟩ = ⟨p + blanks.length, c :: cs⟩ :=
    Cursor.skipSpace_append hb (by simpa using hc)
  simp only [scan, this]
  cases keywords.longest? (c :: cs) <;> rfl

/-- A text ends at the first quote behind the opening one. -/
theorem Token.text?_append {q : Char} {body : List Char} (first : q ∉ body) (rest : List Char) :
    text? q (body ++ q :: rest) =
      some (.constant (String.ofList (q :: body ++ [q])) (.text (String.ofList body))) := by
  have hrun : Run (· ≠ q) body (q :: rest) :=
    ⟨fun d hd => by simpa using ne_of_mem_of_not_mem hd first, by simp⟩
  rw [text?, if_pos (by simp), hrun.takeWhile_eq]

/-- A literal or identifier is a part of the text with at least the first character. -/
theorem Token.exists_lexeme_of_literal {c : Char} (h : literal c cs = .ok token) :
    ∃ l, token.lexeme.toList = c :: l ∧ l <+: cs := by
  unfold literal at h
  split at h
  · by_cases hc : c ∈ cs
    · obtain ⟨body, rest, rfl, first⟩ := List.eq_append_cons_of_mem hc
      rw [text?_append first] at h
      cases h
      exact ⟨body ++ [c], by simp [Token.constant], ⟨rest, by simp⟩⟩
    · rw [text?, if_neg hc] at h
      cases h
  · split at h
    · next hnumber =>
      unfold number at h
      dsimp only at h
      split at h
      · cases h
        refine ⟨_, ?_, List.takeWhile_prefix isNumberChar⟩
        rw [Token.constant, String.toList_ofList, List.takeWhile_cons_of_pos hnumber]
      · cases h
    · split at h
      · next hstart =>
        cases h
        refine ⟨_, ?_, List.takeWhile_prefix isIdentifierRest⟩
        have hrest : isIdentifierRest c := isIdentifierRest_of_isIdentifierStart hstart
        rw [Token.word, Token.identifier, String.toList_ofList, List.takeWhile_cons_of_pos hrest]
      · cases h

namespace Lexeme

theorem width_eq (h : Lexeme l rest token) : token.width = l.length := by
  rw [Token.width, ← String.length_toList, h.toList_lexeme]

theorem literal_eq (h : Lexeme l rest token) (free : Keywords.Absent (l ++ rest)) {c : Char}
    (hc : l ++ rest = c :: cs) : literal c cs = .ok token := by
  cases h with
  | keyword longest => exact absurd longest.2.1 (free _ longest.1)
  | number _ ne run _ value =>
    have hn : isNumberChar c := run.head ne hc
    have hq : ¬ isQuote c := fun hq =>
      not_isIdentifierRest_of_isQuote hq (isIdentifierRest_of_isNumberChar hn)
    simp [literal, hq, hn, Token.number, ← hc, run.takeWhile_eq, numeral?_eq_read? run.1, value]
  | word _ ne start run =>
    have hs : isIdentifierStart c := start c (head?_eq_of_append_eq ne hc)
    have hq : ¬ isQuote c := fun hq =>
      not_isIdentifierRest_of_isQuote hq (isIdentifierRest_of_isIdentifierStart hs)
    have hn : ¬ isNumberChar c := fun hn => not_isIdentifierStart_of_isNumberChar hn hs
    simp [literal, hq, hn, hs, Token.word, ← hc, run.takeWhile_eq]
  | @text q body _ _ quote first =>
    obtain ⟨rfl, rfl⟩ := List.cons.inj hc
    simp [literal, quote, text?_append first]

/-- The scanner gives the token that comes next, and moves behind it. -/
theorem scan_eq (h : Lexeme l rest token) (hb : ∀ c ∈ blanks, isSpace c) :
    scan .standard ⟨p, blanks ++ (l ++ rest)⟩ =
      .ok (token, ⟨p + blanks.length + l.length, rest⟩) := by
  obtain ⟨c, cs, hc⟩ := List.exists_cons_of_ne_nil (List.append_ne_nil_of_left_ne_nil h.ne_nil rest)
  have hadvance : (⟨p + blanks.length, c :: cs⟩ : Cursor).advance token.width =
      ⟨p + blanks.length + l.length, rest⟩ := by
    simp [Cursor.advance, h.width_eq, ← hc]
  rw [hc, scan_cons _ hb (h.not_isSpace_head hc)]
  by_cases free : Keywords.Absent (l ++ rest)
  · rw [← hc, Keywords.longest?_standard_eq_none_iff.mpr free, hc]
    simp [h.literal_eq free hc, Except.map, hadvance]
  · cases h with
    | keyword longest =>
      rw [← hc, Keywords.longest?_standard_eq_some_iff.mpr ⟨_, longest, rfl⟩, hc]
      simp [Except.map, hadvance]
    | number free' | word free' => exact absurd free' free
    | text free' => exact absurd (by simpa using free') free

end Lexeme

namespace Fault

theorem ne_nil (h : Fault cs e) : cs ≠ [] := by
  cases h with
  | quote | unknown => exact List.cons_ne_nil _ _
  | number _ ne => exact List.append_ne_nil_of_left_ne_nil ne _

theorem absent (h : Fault cs e) : Keywords.Absent cs := by
  cases h <;> assumption

theorem not_isSpace_head (h : Fault cs e) {c : Char} {tail : List Char} (hc : cs = c :: tail) :
    ¬ isSpace c := by
  intro hs
  cases h with
  | quote _ quote => exact not_isQuote_of_isSpace hs ((List.cons.inj hc).1 ▸ quote)
  | number _ ne run =>
    exact not_isIdentifierRest_of_isSpace hs (isIdentifierRest_of_isNumberChar (run.head ne hc))
  | unknown _ space => exact space ((List.cons.inj hc).1 ▸ hs)

theorem literal_eq (h : Fault cs e) {c : Char} {tail : List Char} (hc : cs = c :: tail) :
    literal c tail = .error e := by
  cases h with
  | quote _ quote never =>
    obtain ⟨rfl, rfl⟩ := List.cons.inj hc
    simp [literal, quote, text?, never]
  | @number l _ _ ne run dots =>
    have hn : isNumberChar c := run.head ne hc
    have hq : ¬ isQuote c := fun hq =>
      not_isIdentifierRest_of_isQuote hq (isIdentifierRest_of_isNumberChar hn)
    have hr : Number.read? l = none := by
      rw [← Option.not_isSome_iff_eq_none, Number.isSome_read?_iff run.1,
        Numeral.not_plain_iff run.1 ne]
      exact dots
    simp [literal, hq, hn, Token.number, ← hc, run.takeWhile_eq, numeral?_eq_read? run.1, hr]
  | unknown _ _ quote number start =>
    obtain ⟨rfl, rfl⟩ := List.cons.inj hc
    simp [literal, quote, number, start]

/-- The scanner stops at a fault. -/
theorem scan_eq (h : Fault cs e) (hb : ∀ c ∈ blanks, isSpace c) :
    scan .standard ⟨p, blanks ++ cs⟩ = .error e := by
  obtain ⟨c, tail, hc⟩ := List.exists_cons_of_ne_nil h.ne_nil
  rw [hc, scan_cons _ hb (h.not_isSpace_head hc), ← hc,
    Keywords.longest?_standard_eq_none_iff.mpr h.absent, hc]
  simp [h.literal_eq hc, Except.map]

end Fault

theorem Next.scan_eq {cursor : Cursor} {r : Except SyntaxError (Token × Cursor)}
    (h : Next cursor r) : scan .standard cursor = r := by
  cases h with
  | finish hb => exact scan_blanks _ hb
  | token hb lexeme => exact lexeme.scan_eq hb
  | fault hb fault => exact fault.scan_eq hb

private theorem exists_lexeme_or_fault_of_absent {c : Char} (hc : ¬ isSpace c)
    (free : Keywords.Absent (c :: cs)) :
    (∃ l rest token, c :: cs = l ++ rest ∧ Lexeme l rest token) ∨ ∃ e, Fault (c :: cs) e := by
  by_cases hq : isQuote c
  · by_cases hm : c ∈ cs
    · obtain ⟨body, rest, rfl, first⟩ := List.eq_append_cons_of_mem hm
      exact .inl ⟨_, rest, _, by simp, .text free hq first⟩
    · exact .inr ⟨_, .quote free hq hm⟩
  by_cases hn : isNumberChar c
  · have hs := List.takeWhile_append_dropWhile (p := isNumberChar) (l := c :: cs)
    have run := run_takeWhile isNumberChar (c :: cs)
    have ne : (c :: cs).takeWhile isNumberChar ≠ [] := by simp [hn]
    generalize (c :: cs).takeWhile isNumberChar = l at *
    generalize (c :: cs).dropWhile isNumberChar = rest at *
    rw [← hs] at free ⊢
    by_cases plain : Numeral.Plain l
    · obtain ⟨n, value⟩ := Option.isSome_iff_exists.mp ((Number.isSome_read?_iff run.1).mpr plain)
      exact .inl ⟨l, rest, _, rfl, .number free ne run plain value⟩
    · exact .inr ⟨_, .number free ne run ((Numeral.not_plain_iff run.1 ne).mp plain)⟩
  by_cases hi : isIdentifierStart c
  · have hs := List.takeWhile_append_dropWhile (p := isIdentifierRest) (l := c :: cs)
    have hw : (c :: cs).takeWhile isIdentifierRest = c :: cs.takeWhile isIdentifierRest := by
      simp [isIdentifierRest_of_isIdentifierStart hi]
    exact .inl ⟨_, _, _, hs.symm, .word (by rwa [hs]) (by simp [hw]) (by simpa [hw])
      (run_takeWhile isIdentifierRest (c :: cs))⟩
  · exact .inr ⟨_, .unknown free hc hq hn hi⟩

/-- A text that begins with no blank begins with a token or is at fault. -/
theorem exists_lexeme_or_fault {c : Char} (cs : List Char) (hc : ¬ isSpace c) :
    (∃ l rest token, c :: cs = l ++ rest ∧ Lexeme l rest token) ∨ ∃ e, Fault (c :: cs) e := by
  cases hk : Keywords.standard.longest? (c :: cs) with
  | none =>
    exact exists_lexeme_or_fault_of_absent hc (Keywords.longest?_standard_eq_none_iff.mp hk)
  | some token =>
    obtain ⟨w, hw, rfl⟩ := Keywords.longest?_standard_eq_some_iff.mp hk
    obtain ⟨rest, hr⟩ := hw.2.1
    exact .inl ⟨_, rest, _, hr.symm, .keyword (hr ▸ hw)⟩

theorem exists_next (cursor : Cursor) : ∃ r, Next cursor r := by
  obtain ⟨p, cs⟩ := cursor
  have hs := List.takeWhile_append_dropWhile (p := isSpace) (l := cs)
  obtain ⟨hb, hh⟩ := run_takeWhile isSpace cs
  rw [← hs]
  cases hd : cs.dropWhile isSpace with
  | nil => exact ⟨_, by simpa using .finish hb⟩
  | cons c tail =>
    rcases exists_lexeme_or_fault tail (hh c (by simp [hd])) with
      ⟨l, rest, token, hl, lexeme⟩ | ⟨e, fault⟩
    · rw [hl]
      exact ⟨_, .token hb lexeme⟩
    · exact ⟨_, .fault hb fault⟩

theorem scan_standard_eq_iff {cursor : Cursor} {r : Except SyntaxError (Token × Cursor)} :
    scan .standard cursor = r ↔ Next cursor r := by
  constructor
  · rintro rfl
    obtain ⟨r, h⟩ := exists_next cursor
    rwa [h.scan_eq]
  · exact Next.scan_eq

end Formulas
