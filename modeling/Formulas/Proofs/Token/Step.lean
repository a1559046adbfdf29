import Formulas.Token.Scan

/-! One step of the scanner, with any keywords. Main statements: `scan_eq_ok_iff` and
`scan_eq_error_iff`. -/
namespace Formulas

open Token

/-- What begins with these characters: a keyword, or else a literal or an identifier. -/
def Keywords.lexeme (keywords : Keywords) (c : Char) (cs : List Char) :
    Except SyntaxError Token :=
  (keywords.longest? (c :: cs)).elim (literal c cs) .ok

variable {keywords : Keywords} {cursor next : Cursor} {token : Token} {e : SyntaxError}
  {c : Char} {cs : List Char}

theorem scan_of_nil (h : cursor.skipSpace.rest = []) :
    scan keywords cursor = .ok (.eof, cursor.skipSpace) := by
  unfold scan
  dsimp only
  rw [h]

theorem scan_of_cons (h : cursor.skipSpace.rest = c :: cs) :
    scan keywords cursor = (keywords.lexeme c cs).map fun token =>
      (token, cursor.skipSpace.advance token.width) := by
  unfold scan Keywords.lexeme
  dsimp only
  rw [h]
  dsimp only
  cases keywords.longest? (c :: cs) <;> rfl

/-- The end comes behind the last blanks. Any other token moves the cursor by its width. -/
theorem scan_eq_ok_iff : scan keywords cursor = .ok (token, next) ↔
    cursor.skipSpace.rest = [] ∧ token = .eof ∧ next = cursor.skipSpace ∨
      ∃ c cs, cursor.skipSpace.rest = c :: cs ∧ keywords.lexeme c cs = .ok token ∧
        next = cursor.skipSpace.advance token.width := by
  constructor
  · intro h
    cases hrest : cursor.skipSpace.rest with
    | nil =>
      rw [scan_of_nil hrest] at h
      cases h
      exact .inl ⟨rfl, rfl, rfl⟩
    | cons c cs =>
      rw [scan_of_cons hrest] at h
      cases hlexeme : keywords.lexeme c cs with
      | error e =>
        rw [hlexeme] at h
        cases h
      | ok token =>
        rw [hlexeme] at h
        cases h
        exact .inr ⟨c, cs, rfl, hlexeme, rfl⟩
  · rintro (⟨hrest, rfl, rfl⟩ | ⟨c, cs, hrest, hlexeme, rfl⟩)
    · exact scan_of_nil hrest
    · rw [scan_of_cons hrest, hlexeme]
      rfl

theorem scan_eq_error_iff : scan keywords cursor = .error e ↔
    ∃ c cs, cursor.skipSpace.rest = c :: cs ∧ keywords.lexeme c cs = .error e := by
  constructor
  · intro h
    cases hrest : cursor.skipSpace.rest with
    | nil =>
      rw [scan_of_nil hrest] at h
      cases h
    | cons c cs =>
      rw [scan_of_cons hrest] at h
      cases hlexeme : keywords.lexeme c cs with
      | error e =>
        rw [hlexeme] at h
        cases h
        exact ⟨c, cs, rfl, hlexeme⟩
      | ok token =>
        rw [hlexeme] at h
        cases h
  · rintro ⟨c, cs, hrest, hlexeme⟩
    rw [scan_of_cons hrest, hlexeme]
    rfl

/-! ### Places in a text -/

theorem Cursor.advance_at (text : String) (index n : Nat) :
    (Cursor.at text index).advance n = .at text (index + n) := by
  rw [Cursor.at, Cursor.advance, List.drop_drop, Cursor.at]

theorem Cursor.exists_skipSpace_at (text : String) (index : Nat) :
    ∃ place, (Cursor.at text index).skipSpace = .at text place :=
  ⟨_, Cursor.advance_at text index _⟩

/-- Scanning stays in the text. -/
theorem exists_at_of_scan {text : String} {index : Nat}
    (h : scan keywords (.at text index) = .ok (token, next)) :
    ∃ place, next = .at text place := by
  obtain ⟨place, hplace⟩ := Cursor.exists_skipSpace_at text index
  rcases scan_eq_ok_iff.mp h with ⟨-, -, rfl⟩ | ⟨c, cs, -, -, rfl⟩
  · exact ⟨place, hplace⟩
  · rw [hplace, Cursor.advance_at]
    exact ⟨_, rfl⟩

end Formulas
