import Formulas.Proofs.Expr.Agreement
import Formulas.Proofs.Expr.Session
import Formulas.Proofs.Token.Step

/-! Scanning and reading come to an end where no keyword is without characters: each token that is
left behind takes up a part of the text. Main statement: `scanning_and_reading_end`. -/
namespace Formulas

open Token

/-- Each keyword that can be found takes up some of the text. -/
def Keywords.Visible (keywords : Keywords) : Prop :=
  ∀ spelling token, spelling ≠ [] → keywords.get? spelling = some token → token.lexeme ≠ ""

theorem Keywords.visible_standard : Keywords.standard.Visible := by
  intro spelling token _ h
  obtain ⟨w, hw, -, rfl⟩ := get?_standard_eq_some_iff.mp h
  rw [lexeme_eq_spelling w hw]
  exact fun hempty => spelling_ne_nil w hw (by rw [hempty, String.toList_empty])

variable {keywords : Keywords} {cursor next : Cursor} {token : Token} {e : SyntaxError}
  {c : Char} {cs : List Char}

/-! ### Scanning -/

theorem width_literal_pos (h : literal c cs = .ok token) : 0 < token.width := by
  obtain ⟨l, hl, -⟩ := exists_lexeme_of_literal h
  rw [Token.width, ← String.length_toList, hl]
  exact Nat.zero_lt_succ _

theorem isLexical_of_literal (h : literal c cs = .error e) : e.IsLexical := by
  unfold literal at h
  split at h
  · split at h
    · cases h
    · cases h
      trivial
  · split at h
    · unfold number at h
      dsimp only at h
      split at h
      · cases h
      · cases h
        trivial
    · split at h
      · cases h
      · cases h
        trivial

namespace Keywords

theorem Visible.width_pos (h : keywords.Visible) (hlexeme : keywords.lexeme c cs = .ok token) :
    0 < token.width := by
  unfold lexeme at hlexeme
  cases hlongest : keywords.longest? (c :: cs) with
  | none =>
    rw [hlongest] at hlexeme
    exact width_literal_pos hlexeme
  | some keyword =>
    rw [hlongest] at hlexeme
    cases hlexeme
    obtain ⟨spelling, hspelling, -, hstored, -⟩ := PrefixTree.longest?_eq_some_iff.mp hlongest
    have hne : token.lexeme.length ≠ 0 := by
      rw [Ne, String.length_eq_zero_iff]
      exact h spelling token hspelling hstored
    exact Nat.pos_of_ne_zero hne

end Keywords

/-- What stops the scanner is a fault of the text. -/
theorem isLexical_of_scan (h : scan keywords cursor = .error e) : e.IsLexical := by
  obtain ⟨c, cs, -, hlexeme⟩ := scan_eq_error_iff.mp h
  unfold Keywords.lexeme at hlexeme
  cases hlongest : keywords.longest? (c :: cs) with
  | none =>
    rw [hlongest] at hlexeme
    exact isLexical_of_literal hlexeme
  | some keyword =>
    rw [hlongest] at hlexeme
    cases hlexeme

namespace Keywords.Visible

/-- Any token but the one for the end takes up some of what is left. -/
theorem scan_cases (h : keywords.Visible) (hscan : scan keywords cursor = .ok (token, next)) :
    token = .eof ∨ next.rest.length < cursor.rest.length := by
  rcases scan_eq_ok_iff.mp hscan with ⟨-, rfl, -⟩ | ⟨c, cs, hrest, hlexeme, rfl⟩
  · exact .inl rfl
  · right
    have hwidth : 0 < token.width := h.width_pos hlexeme
    have hskip : cursor.skipSpace.rest.length ≤ cursor.rest.length := by
      rw [Cursor.skipSpace, Cursor.advance, List.length_drop]
      exact Nat.sub_le _ _
    rw [Cursor.advance, List.length_drop, hrest, List.length_cons]
    rw [hrest, List.length_cons] at hskip
    omega

/-- The scanner comes to the end of the text or to a fault of it. -/
theorem exists_scans (h : keywords.Visible) (cursor : Cursor) :
    ∃ tokens last, tokens.length ≤ cursor.rest.length ∧ Scans keywords cursor tokens last ∧
      ((∃ next, scan keywords last = .ok (.eof, next)) ∨ ∃ e, scan keywords last = .error e) := by
  -- What is left falls with each token but the end.
  induction hn : cursor.rest.length using Nat.strongRecOn generalizing cursor with
  | ind n ih =>
    cases hscan : scan keywords cursor with
    | error e => exact ⟨[], cursor, Nat.zero_le _, .nil, .inr ⟨e, hscan⟩⟩
    | ok first =>
      obtain ⟨token, next⟩ := first
      rcases h.scan_cases hscan with rfl | hlt
      · exact ⟨[], cursor, Nat.zero_le _, .nil, .inl ⟨next, hscan⟩⟩
      · obtain ⟨tokens, last, hlen, hscans, hstop⟩ := ih next.rest.length (hn ▸ hlt) next rfl
        refine ⟨token :: tokens, last, ?_, .cons hscan hscans, hstop⟩
        rw [List.length_cons]
        omega

end Keywords.Visible

/-! ### Reading -/

namespace Reader

/-- How many tokens there can be from the current one up to the end. -/
def left (reader : Reader) : Nat :=
  if reader.current.kind = .eof then 0 else reader.cursor.rest.length + 1

theorem left_pos {reader : Reader} (h : reader.current.kind ≠ .eof) : 0 < reader.left := by
  rw [left, if_neg h]
  exact Nat.zero_lt_succ _

theorem left_le (reader : Reader) : reader.left ≤ reader.cursor.rest.length + 1 := by
  unfold left
  split
  · exact Nat.zero_le _
  · exact Nat.le_refl _

/-- A part of the reading comes to an end with no more than `bound` tokens left, and goes past no
more tokens than there are. It fails at a token out of place or because the scanner does. -/
inductive Ends {α : Type} (bound : Nat) (reader : Reader) :
    EStateM.Result SyntaxError Reader α → Prop
  | ok {a : α} {last : Reader}
      (total : last.taken.size + last.left ≤ reader.taken.size + reader.left)
      (hleft : last.left ≤ bound) : Ends bound reader (.ok a last)
  | misplaced {last : Reader}
      (total : last.taken.size + last.left ≤ reader.taken.size + reader.left) :
      Ends bound reader (.error .unexpectedEnd last)
  | fault {e : SyntaxError} {last : Reader}
      (total : last.taken.size + last.left ≤ reader.taken.size + reader.left)
      (lexical : e.IsLexical) (more : 0 < last.left) : Ends bound reader (.error e last)

/-- With less than `fuel` tokens left the reading comes to an end. -/
def Within {α : Type} (fuel : Nat) (m : ReadM α) : Prop :=
  ∀ reader : Reader, reader.left < fuel → Ends reader.left reader (m reader)

variable {α β : Type} {operand : ReadM Expr} {fuel bound : Nat} {reader : Reader} {kind : Kind}

theorem Ends.mono {bound' : Nat} {result : EStateM.Result SyntaxError Reader α}
    (h : Ends bound reader result) (hbound : bound ≤ bound') : Ends bound' reader result := by
  cases h with
  | ok total hleft => exact .ok total (Nat.le_trans hleft hbound)
  | misplaced total => exact .misplaced total
  | fault total lexical more => exact .fault total lexical more

theorem Ends.bind {m : ReadM α} {next : α → ReadM β} (h : Ends bound reader (m reader))
    (hnext : ∀ a, Within fuel (next a)) (hfuel : bound < fuel) :
    Ends bound reader ((m >>= next) reader) := by
  change Ends bound reader (EStateM.bind m next reader)
  unfold EStateM.bind
  generalize m reader = result at h
  cases h with
  | misplaced total => exact .misplaced total
  | fault total lexical more => exact .fault total lexical more
  | @ok a middle total hleft =>
    have hrest : Ends middle.left middle (next a middle) :=
      hnext a middle (Nat.lt_of_le_of_lt hleft hfuel)
    dsimp only
    generalize next a middle = result at hrest
    cases hrest with
    | ok total' hleft' => exact .ok (Nat.le_trans total' total) (Nat.le_trans hleft' hleft)
    | misplaced total' => exact .misplaced (Nat.le_trans total' total)
    | fault total' lexical more => exact .fault (Nat.le_trans total' total) lexical more

namespace Within

theorem mono {fuel' : Nat} {m : ReadM α} (h : Within fuel m) (hfuel : fuel' ≤ fuel) :
    Within fuel' m :=
  fun reader hlt => h reader (Nat.lt_of_lt_of_le hlt hfuel)

theorem pure (a : α) : Within fuel (Pure.pure a) :=
  fun _ _ => .ok (Nat.le_refl _) (Nat.le_refl _)

theorem misplaced : Within fuel (throw .unexpectedEnd : ReadM α) :=
  fun _ _ => .misplaced (Nat.le_refl _)

theorem bind {m : ReadM α} {next : α → ReadM β} (h : Within fuel m)
    (hnext : ∀ a, Within fuel (next a)) : Within fuel (m >>= next) :=
  fun reader hlt => (h reader hlt).bind hnext hlt

end Within

/-- Going past a token that is not the end leaves less. -/
theorem ends_step (h : keywords.Visible) {step : ReadM α} {value : Reader → α}
    (hstep : ∀ reader, step reader = match scan keywords reader.cursor with
      | .ok (token, cursor) => .ok (value reader) (reader.moved token cursor)
      | .error e => .error e reader)
    (hk : reader.current.kind ≠ .eof) : Ends (reader.left - 1) reader (step reader) := by
  rw [hstep]
  cases hscan : scan keywords reader.cursor with
  | error e => exact .fault (Nat.le_refl _) (isLexical_of_scan hscan) (left_pos hk)
  | ok first =>
    obtain ⟨token, cursor⟩ := first
    have hless : (reader.moved token cursor).left + 1 ≤ reader.left := by
      rw [left, left, if_neg hk]
      split
      · exact Nat.le_add_left 1 _
      · next htoken =>
        rcases h.scan_cases hscan with rfl | hlt
        · exact absurd rfl htoken
        · exact Nat.succ_le_succ hlt
    have hsize : (reader.moved token cursor).taken.size = reader.taken.size + 1 :=
      Array.size_push _
    refine .ok ?_ (Nat.le_sub_one_of_lt hless)
    rw [hsize]
    omega

/-- What follows behind a token needs one token less. -/
theorem ends_step_bind (h : keywords.Visible) {step : ReadM α} {value : Reader → α}
    (hstep : ∀ reader, step reader = match scan keywords reader.cursor with
      | .ok (token, cursor) => .ok (value reader) (reader.moved token cursor)
      | .error e => .error e reader)
    (hk : reader.current.kind ≠ .eof) (hlt : reader.left < fuel + 1) {next : α → ReadM β}
    (hnext : ∀ a, Within fuel (next a)) : Ends reader.left reader ((step >>= next) reader) := by
  have hpos := left_pos hk
  exact ((ends_step h hstep hk).bind hnext (by omega)).mono (Nat.sub_le _ _)

theorem within_expect (h : keywords.Visible) (hkind : kind ≠ .eof) :
    Within fuel (expect keywords kind) := by
  intro reader hlt
  rw [expect_apply]
  split
  · next hk =>
    rw [← hk] at hkind
    exact (ends_step h (advance_apply keywords) hkind).mono (Nat.sub_le _ _)
  · exact .misplaced (Nat.le_refl _)

theorem within_chain (h : keywords.Visible) (hkind : kind ≠ .eof) (hoperand : Within fuel operand)
    (left : Expr) : Within fuel (chain keywords kind operand fuel left) := by
  induction fuel generalizing left with
  | zero => exact fun reader hlt => absurd hlt (Nat.not_lt_zero _)
  | succ fuel ih =>
    have hless : Within fuel operand := hoperand.mono (Nat.le_succ fuel)
    intro reader hlt
    rw [chain_apply]
    split
    · next hk =>
      rw [← hk] at hkind
      refine ends_step_bind h (take_apply keywords) hkind hlt fun token => ?_
      split
      · exact hless.bind fun right => ih hless _
      · exact .misplaced
    · exact .ok (Nat.le_refl _) (Nat.le_refl _)

theorem within_level (h : keywords.Visible) (hoperand : Within fuel operand) (kinds : List Kind)
    (hkinds : .eof ∉ kinds) : Within fuel (level keywords operand fuel kinds) := by
  induction kinds with
  | nil => exact hoperand
  | cons kind tighter ih =>
    obtain ⟨hkind, htighter⟩ := not_or.mp (List.mem_cons.not.mp hkinds)
    exact (ih htighter).bind fun left => within_chain h (Ne.symm hkind) (ih htighter) left

theorem kind_ne_eof_of_unaryOf? {op : UnaryOp} (h : unaryOf? token = some op) :
    token.kind ≠ .eof := by
  intro hk
  unfold unaryOf? at h
  rw [hk] at h
  cases h

theorem within_unaryChain (h : keywords.Visible) (hoperand : Within fuel operand) :
    Within fuel (unaryChain keywords operand fuel) := by
  induction fuel with
  | zero => exact fun reader hlt => absurd hlt (Nat.not_lt_zero _)
  | succ fuel ih =>
    have hless : Within fuel operand := hoperand.mono (Nat.le_succ fuel)
    intro reader hlt
    rw [unaryChain_apply]
    split
    · next op hop =>
      exact ends_step_bind h (advance_apply keywords) (kind_ne_eof_of_unaryOf? hop) hlt
        fun _ => (ih hless).bind fun e => .pure _
    · exact hoperand reader hlt

theorem within_moreArguments (h : keywords.Visible) (hoperand : Within fuel operand)
    (hbound : fuel ≤ bound) : Within fuel (moreArguments keywords operand bound) := by
  induction bound generalizing fuel with
  | zero =>
    obtain rfl := Nat.le_zero.mp hbound
    exact fun reader hlt => absurd hlt (Nat.not_lt_zero _)
  | succ bound ih =>
    intro reader hlt
    obtain ⟨fuel, rfl⟩ := Nat.exists_eq_add_one.mpr (Nat.zero_lt_of_lt hlt)
    have hless : Within fuel operand := hoperand.mono (Nat.le_succ fuel)
    rw [moreArguments_apply]
    split
    · next hk =>
      exact ends_step_bind h (advance_apply keywords) (by simp [hk]) hlt fun _ =>
        hless.bind fun first => (ih hless (Nat.le_of_succ_le_succ hbound)).bind fun others =>
          .pure _
    · exact .ok (Nat.le_refl _) (Nat.le_refl _)

theorem within_arguments (h : keywords.Visible) (hoperand : Within fuel operand)
    (hbound : fuel ≤ bound) : Within fuel (arguments keywords operand bound) := by
  intro reader hlt
  rw [arguments_apply]
  split
  · exact .ok (Nat.le_refl _) (Nat.le_refl _)
  · exact Within.bind hoperand (fun first =>
      (within_moreArguments h hoperand hbound).bind fun others => .pure _) reader hlt

theorem within_afterName (h : keywords.Visible) (hoperand : Within fuel operand)
    (hbound : fuel ≤ bound) (path : String) :
    Within fuel (afterName keywords operand bound path) := by
  intro reader hlt
  rw [afterName_apply]
  split
  · next hk =>
    exact ends_step_bind h (advance_apply keywords) (by simp [hk]) (Nat.lt_succ_of_lt hlt)
      fun _ => (within_arguments h hoperand hbound).bind fun args =>
        (within_expect h (by decide)).bind fun _ => .pure _
  · exact .ok (Nat.le_refl _) (Nat.le_refl _)

/-- An operand begins with a token of its own, so that what it contains needs less. -/
theorem within_primary (h : keywords.Visible) (hoperand : Within fuel operand)
    (hbound : fuel ≤ bound) : Within (fuel + 1) (primary keywords operand bound) := by
  intro reader hlt
  rw [primary_apply]
  split
  · next hk =>
    rw [identifierOrCall_eq]
    refine ends_step_bind h (take_apply keywords) (by simp [hk]) hlt fun token => ?_
    split
    · next path _ => exact within_afterName h hoperand hbound path
    · exact .misplaced
  · next hk =>
    refine ends_step_bind h (take_apply keywords) (by simp [hk]) hlt fun token => ?_
    split
    · exact .pure _
    · exact .misplaced
  · next hk =>
    exact ends_step_bind h (advance_apply keywords) (by simp [hk]) hlt fun _ =>
      hoperand.bind fun e => (within_expect h (by decide)).bind fun _ => .pure e
  · exact .misplaced (Nat.le_refl _)

theorem within_expressionWithin (h : keywords.Visible) (fuel : Nat) :
    Within fuel (expressionWithin keywords (fuel + 1)) := by
  -- An operand goes past a token before it comes to what it contains, where one unit less will do.
  induction fuel with
  | zero => exact fun reader hlt => absurd hlt (Nat.not_lt_zero _)
  | succ fuel ih =>
    have hprimary := within_primary h ih (Nat.le_succ fuel)
    exact within_level h (within_unaryChain h hprimary) levels (by decide)

theorem ends_expression (h : keywords.Visible) (reader : Reader) :
    Ends reader.left reader (expression keywords reader) := by
  have hleft := left_le reader
  rw [expression_apply]
  exact within_expressionWithin h _ reader (by omega)

theorem ends_whole (h : keywords.Visible) (reader : Reader) :
    Ends reader.left reader (whole keywords reader) := by
  have hends := ends_expression h reader
  rw [whole_apply]
  generalize expression keywords reader = result at hends
  cases hends with
  | misplaced total => exact .misplaced total
  | fault total lexical more => exact .fault total lexical more
  | @ok e last total hleft =>
    dsimp only
    split
    · exact .ok total hleft
    · exact .misplaced total

/-- Any bound that is large enough is as good as none. -/
theorem expressionWithin_eq_expression (h : keywords.Visible) (reader : Reader)
    (hfuel : reader.left + 2 ≤ fuel) :
    expressionWithin keywords fuel reader = expression keywords reader := by
  -- The least bound is not cut off, and all larger ones follow it.
  have hends : Ends reader.left reader (expressionWithin keywords (reader.left + 2) reader) :=
    within_expressionWithin h (reader.left + 1) reader (Nat.lt_succ_self _)
  have heq : ∀ fuel', reader.left + 2 ≤ fuel' → expressionWithin keywords fuel' reader =
      expressionWithin keywords (reader.left + 2) reader := by
    intro fuel' hfuel'
    have hsame := follows_expressionWithin (.refl keywords) hfuel' reader trivial
    generalize expressionWithin keywords (reader.left + 2) reader = result,
      expressionWithin keywords fuel' reader = result' at hends hsame
    cases hsame with
    | ok => rfl
    | error => rfl
    | endless =>
      cases hends with
      | fault _ lexical => exact lexical.elim
  have hleft := left_le reader
  rw [expression_apply, heq fuel hfuel, heq (reader.cursor.rest.length + 4) (by omega)]

/-- How many times the scanner was asked, from the start of a text until a reading of it was over:
once for each token left behind, for the current one, and for a fault that it came to. -/
inductive Asks {α : Type} (keywords : Keywords) (text : String) :
    Nat → EStateM.Result SyntaxError Reader α → Prop
  | ok {a : α} {last : Reader}
      (h : Scans keywords (.start text) (last.taken.toList ++ [last.current]) last.cursor) :
      Asks keywords text (last.taken.size + 1) (.ok a last)
  | misplaced {last : Reader}
      (h : Scans keywords (.start text) (last.taken.toList ++ [last.current]) last.cursor) :
      Asks keywords text (last.taken.size + 1) (.error .unexpectedEnd last)
  | fault {e : SyntaxError} {last : Reader}
      (h : Scans keywords (.start text) (last.taken.toList ++ [last.current]) last.cursor)
      (stop : scan keywords last.cursor = .error e) :
      Asks keywords text (last.taken.size + 2) (.error e last)

/-- The reader of a text has no more tokens in front of it than the text has characters. -/
theorem left_le_of_start (h : keywords.Visible) {text : String}
    (hstart : start keywords text = .ok reader) : reader.left ≤ text.length := by
  obtain ⟨hscan, -, -⟩ := of_start hstart
  unfold left
  split
  · exact Nat.zero_le _
  · next hk =>
    rcases h.scan_cases hscan with heof | hlt
    · rw [heof] at hk
      exact absurd rfl hk
    · rwa [Cursor.start, String.length_toList] at hlt

theorem isLexical_of_start {text : String} (h : start keywords text = .error e) :
    e.IsLexical := by
  unfold start at h
  cases hscan : scan keywords (.start text) with
  | error e' =>
    rw [hscan] at h
    cases h
    exact isLexical_of_scan hscan
  | ok first =>
    rw [hscan] at h
    cases h

theorem exists_asks_whole (h : keywords.Visible) {text : String}
    (hstart : start keywords text = .ok reader) :
    ∃ n ≤ text.length + 1, Asks keywords text n (whole keywords reader) := by
  have hleft := left_le_of_start h hstart
  have hempty : reader.taken.size = 0 := by rw [(of_start hstart).2.1, Array.size_empty]
  have hends := ends_whole h reader
  have hwalked := walks_whole keywords reader
  generalize whole keywords reader = result at hends hwalked
  cases hends with
  | ok total =>
    obtain ⟨paths, -, hwalk⟩ := hwalked
    exact ⟨_, by omega, .ok (hwalk.scans_of_start hstart)⟩
  | misplaced total =>
    obtain ⟨⟨paths, hwalk⟩, -⟩ := hwalked
    exact ⟨_, by omega, .misplaced (hwalk.scans_of_start hstart)⟩
  | fault total lexical more =>
    obtain ⟨⟨paths, hwalk⟩, hstop⟩ := hwalked
    refine ⟨_, by omega, .fault (hwalk.scans_of_start hstart) ?_⟩
    rcases hstop with hscan | rfl | rfl
    · exact hscan
    · exact lexical.elim
    · exact lexical.elim

theorem readWith_ne_endless (h : keywords.Visible) (text : String) :
    Formula.readWith keywords text ≠ .error .endless := by
  intro hread
  rw [Formula.readWith_eq] at hread
  cases hstart : start keywords text with
  | error e =>
    rw [hstart, Except.bind] at hread
    have hlexical : e.IsLexical := isLexical_of_start hstart
    cases hread
    exact hlexical
  | ok reader =>
    rw [hstart, Except.bind] at hread
    have hends := ends_whole h reader
    generalize whole keywords reader = result at hends hread
    cases hends with
    | ok => cases hread
    | misplaced => cases hread
    | fault _ lexical =>
      cases hread
      exact lexical

end Reader

/-- Where each keyword takes up some of the text, the scanner comes to the end of the text or to a
fault of it, and the reader asks it no more often than once for each character and once for the end.
The reader would come to the same with any larger bound on operators, arguments and nesting, and so
without one. -/
theorem scanning_and_reading_end : Keywords.standard.Visible ∧
    ∀ keywords : Keywords, keywords.Visible → ∀ text : String,
      (∃ tokens last, tokens.length ≤ text.length ∧ Scans keywords (.start text) tokens last ∧
        ((∃ next, scan keywords last = .ok (.eof, next)) ∨
          ∃ e, scan keywords last = .error e)) ∧
      Formula.readWith keywords text ≠ .error .endless ∧
      ∀ reader, Reader.start keywords text = .ok reader →
        (∃ n ≤ text.length + 1, Reader.Asks keywords text n (Reader.whole keywords reader)) ∧
        ∀ fuel, text.length + 2 ≤ fuel →
          Reader.expressionWithin keywords fuel reader = Reader.expression keywords reader := by
  refine ⟨Keywords.visible_standard, fun keywords h text => ⟨?_, ?_, fun reader hstart => ⟨?_, ?_⟩⟩⟩
  · have hscans := h.exists_scans (.start text)
    rwa [Cursor.start, String.length_toList] at hscans
  · exact Reader.readWith_ne_endless h text
  · exact Reader.exists_asks_whole h hstart
  · intro fuel hfuel
    have hleft := Reader.left_le_of_start h hstart
    exact Reader.expressionWithin_eq_expression h reader (by omega)

/-- Two groups that are never closed. -/
theorem unclosed_groups_end : Keywords.standard.Visible ∧
    ∃ reader, Reader.start .standard "((" = .ok reader ∧
      (∃ n ≤ 3, Reader.Asks .standard "((" n (Reader.whole .standard reader)) ∧
      ∀ fuel, 4 ≤ fuel →
        Reader.expressionWithin .standard fuel reader = Reader.expression .standard reader := by
  obtain ⟨hvisible, hends⟩ := scanning_and_reading_end
  have hstart : Reader.start .standard "((" =
      .ok ⟨⟨1, ['(']⟩, ⟨.openParen, "(", .none⟩, #[], #[]⟩ := rfl
  exact ⟨hvisible, _, hstart, (hends .standard hvisible "((").2.2 _ hstart⟩

end Formulas
