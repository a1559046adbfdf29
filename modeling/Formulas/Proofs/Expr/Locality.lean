import Formulas.Proofs.Expr.Agreement
import Formulas.Proofs.PrefixTree
import Formulas.Proofs.Token.Step

/-! A new keyword changes nothing for a text that it does not occur in, even where the text has all
but its last character. Main statement: `addition_is_local`. -/
namespace Formulas

variable {keywords keywords' : Keywords} {text : String}

/-! ### One more keyword -/

/-- The keywords show only in what they find behind the blanks. -/
theorem scan_congr {cursor : Cursor}
    (h : keywords'.longest? cursor.skipSpace.rest = keywords.longest? cursor.skipSpace.rest) :
    scan keywords' cursor = scan keywords cursor := by
  cases hrest : cursor.skipSpace.rest with
  | nil => rw [scan_of_nil hrest, scan_of_nil hrest]
  | cons c cs =>
    rw [hrest] at h
    rw [scan_of_cons hrest, scan_of_cons hrest, Keywords.lexeme, Keywords.lexeme, h]

theorem agree_add (keywords : Keywords) {spelling : String} (token : Token)
    (h : ¬ spelling.toList <:+: text.toList) :
    keywords.Agree (.add keywords spelling token) fun cursor =>
      ∃ index, cursor = .at text index where
  scan_eq := by
    rintro cursor ⟨index, rfl⟩
    obtain ⟨place, hplace⟩ := Cursor.exists_skipSpace_at text index
    have hbegins : ¬ spelling.toList <+: (Cursor.at text index).skipSpace.rest := by
      rw [hplace]
      intro hbegins
      exact h (hbegins.isInfix.trans (List.drop_suffix place text.toList).isInfix)
    -- A text that breaks the new spelling off leaves the search with what it found before.
    exact scan_congr (PrefixTree.longest?_add_of_not_prefix keywords spelling token hbegins)
  closed := by
    rintro cursor next last ⟨index, rfl⟩ hscan
    exact exists_at_of_scan hscan

/-! ### Formulas -/

/-- Two readings that follow each other make the same formula, even if both are cut off. -/
theorem Formula.ofResult_eq {place : Cursor → Prop}
    {result result' : EStateM.Result SyntaxError Reader Expr} (h : Reader.Same place result result')
    (h' : Reader.Same place result' result) (source : String) :
    Formula.ofResult source result' = Formula.ofResult source result := by
  cases h with
  | ok => rfl
  | error => rfl
  | endless =>
    cases h' with
    | error => rfl
    | endless => rfl

theorem Formula.readWith_congr {place : Cursor → Prop} (h : keywords.Agree keywords' place)
    (hstart : place (.start text)) :
    Formula.readWith keywords' text = Formula.readWith keywords text := by
  have heq : Reader.start keywords' text = Reader.start keywords text := by
    unfold Reader.start
    rw [h.scan_eq _ hstart]
  rw [Formula.readWith_eq, Formula.readWith_eq, heq]
  cases hs : Reader.start keywords text with
  | error e => rw [Except.bind, Except.bind]
  | ok reader =>
    have hplace : place reader.cursor := h.closed _ _ _ hstart (Reader.of_start hs).1
    rw [Except.bind, Except.bind]
    exact Formula.ofResult_eq (Reader.follows_whole h reader hplace)
      (Reader.follows_whole h.symm reader hplace) text

/-- From every place, also behind the end, the same is scanned, and the same is read or the same is
at fault. -/
theorem addition_is_local (keywords : Keywords) {spelling : String} (token : Token) {text : String}
    (h : ¬ spelling.toList <:+: text.toList) :
    (∀ index, scan (.add keywords spelling token) (.at text index) =
      scan keywords (.at text index)) ∧
    Formula.readWith (.add keywords spelling token) text = Formula.readWith keywords text := by
  have hagree := agree_add keywords token h
  exact ⟨fun index => hagree.scan_eq _ ⟨index, rfl⟩, Formula.readWith_congr hagree ⟨0, rfl⟩⟩

/-- An operator that the new one begins with is still found. -/
theorem reads_less_equal_beside_longer :
    ¬ "<=>".toList <:+: "a<=b".toList ∧
      (Formula.readWith (.add Keywords.standard "<=>" (.identifier "x")) "a<=b").toOption.map
        (fun formula => formula.root.same (.binary .lessEqual (.identifier "a") (.identifier "b"))) =
          some true := by
  have habsent : ¬ "<=>".toList <:+: "a<=b".toList := by decide
  have hread : (Formula.readWith .standard "a<=b").toOption.map
      (fun formula => formula.root.same (.binary .lessEqual (.identifier "a") (.identifier "b"))) =
        some true := by
    decide +kernel
  refine ⟨habsent, ?_⟩
  rw [(addition_is_local .standard (.identifier "x") habsent).2]
  exact hread

end Formulas
