import Formulas.Proofs.Expr.Compose

/-! Blanks between tokens are of no account. Main statement: `read_spaced`. -/
namespace Formulas

open Token Grammar

/-- The tokens of a text without a fault, up to its end. -/
def Tokenized (text : String) (ts : List Token) : Prop :=
  (∃ last, Scans .standard (.start text) (ts ++ [.eof]) last) ∧ ∀ token ∈ ts, token.kind ≠ .eof

/-- The lexemes of tokens, each with the characters that are put behind it. -/
def spaced (lead : List Char) (parts : List (Token × List Char)) : String :=
  String.ofList (lead ++ parts.flatMap fun part => part.1.lexeme.toList ++ part.2)

variable {cs l rest : List Char} {b : Char} {token : Token} {ts : List Token}
  {text text' : String}

theorem tokenized_iff_cut : Tokenized text ts ↔ Cut text.toList ts := by
  constructor
  · rintro ⟨⟨last, hscans⟩, hkind⟩
    obtain ⟨tiles, tail, tiling, ⟨htokens, -⟩ | ⟨hb, n, htokens, -⟩⟩ :=
      Scans.standard_iff.mp hscans
    · have hmem : Token.eof ∈ tiles.map Tile.token := by
        rw [← htokens]
        exact List.mem_append_right _ (List.mem_singleton.mpr rfl)
      exact absurd rfl (tiling.kind_ne_eof .eof hmem)
    · rw [List.replicate_succ', ← List.append_assoc] at htokens
      have hts : ts = tiles.map Tile.token ++ List.replicate n .eof :=
        (List.append_inj' htokens rfl).1
      have hn : n = 0 := by
        by_contra hne
        have hmem : Token.eof ∈ ts := by
          rw [hts]
          exact List.mem_append_right _ (List.mem_replicate.mpr ⟨hne, rfl⟩)
        exact hkind _ hmem rfl
      refine ⟨tiles, tail, tiling, hb, ?_⟩
      rw [hts, hn, List.replicate_zero, List.append_nil]
  · rintro ⟨tiles, tail, tiling, hb, rfl⟩
    have hend : Scans .standard ⟨0 + (tiles.flatMap Tile.chars).length, tail⟩ [.eof] _ :=
      .cons (scan_blanks .standard hb) .nil
    exact ⟨⟨_, (tiling.scans 0).append hend⟩, tiling.kind_ne_eof⟩

/-- A text has only one row of tokens. -/
theorem Tokenized.unique {us : List Token} (h : Tokenized text ts) (h' : Tokenized text us) :
    us = ts := by
  -- A run that went on behind the end of the other one would have an end inside.
  have hend : ∀ {xs ys : List Token}, (∀ token ∈ ys, token.kind ≠ .eof) →
      xs ++ [Token.eof] <+: ys ++ [Token.eof] → xs = ys := by
    intro xs ys hys hp
    rcases List.prefix_concat_iff.mp hp with he | hp
    · exact (List.append_inj' he rfl).1
    · exact absurd rfl (hys .eof (hp.subset (List.mem_append_right _ (List.mem_singleton.mpr rfl))))
  obtain ⟨⟨last, hscans⟩, hkind⟩ := h
  obtain ⟨⟨last', hscans'⟩, hkind'⟩ := h'
  rcases hscans.prefix_or_prefix hscans' with hp | hp
  · exact (hend hkind' hp).symm
  · exact hend hkind hp

/-- A token is still found when nothing follows it. -/
theorem Lexeme.alone (h : Lexeme l rest token) : Lexeme l [] token := by
  have hprefix : l ++ [] <+: l ++ rest := (List.prefix_append_right_inj l).mpr List.nil_prefix
  have hfree : Keywords.Absent (l ++ rest) → Keywords.Absent (l ++ []) :=
    fun free w hw hp => free w hw (hp.trans hprefix)
  cases h with
  | keyword longest =>
    obtain ⟨hw, -, hlongest⟩ := longest
    exact .keyword ⟨hw, List.prefix_append _ _, fun v hv hp => hlongest v hv (hp.trans hprefix)⟩
  | number free ne run plain value =>
    exact .number (hfree free) ne ⟨run.1, by simp⟩ plain value
  | word free ne start run => exact .word (hfree free) ne start ⟨run.1, by simp⟩
  | @text q body _ free quote first =>
    have hq : Keywords.Absent (q :: body ++ q :: []) := by simpa using hfree (by simpa using free)
    exact .text hq quote first

/-- The first blank behind a token ends it, whatever followed it before. -/
theorem Lexeme.of_blank (h : Lexeme l rest token) (hb : isSpace b) (more : List Char) :
    Lexeme l (b :: more) token :=
  (breaks_space hb).lexeme h.alone

theorem Cut.exists_lexeme (h : Cut cs ts) :
    ∀ token ∈ ts, ∃ rest, Lexeme token.lexeme.toList rest token := by
  obtain ⟨tiles, tail, tiling, -, rfl⟩ := h
  intro token htoken
  induction tiling with
  | nil => cases htoken
  | @cons blanks l rest tail first tiles hb lexeme more ih =>
    rcases List.mem_cons.mp htoken with rfl | htoken
    · refine ⟨rest, ?_⟩
      rwa [lexeme.toList_lexeme]
    · exact ih htoken

theorem cut_spaced {parts : List (Token × List Char)}
    (htokens : ∀ part ∈ parts, ∃ rest, Lexeme part.1.lexeme.toList rest part.1)
    (hblanks : ∀ part ∈ parts, ∀ c ∈ part.2, isSpace c)
    (hgaps : ∀ part ∈ parts.dropLast, part.2 ≠ []) :
    Cut (parts.flatMap fun part => part.1.lexeme.toList ++ part.2) (parts.map Prod.fst) := by
  induction parts with
  | nil => exact .nil
  | cons part parts ih =>
    obtain ⟨token, blanks⟩ := part
    obtain ⟨⟨rest, lexeme⟩, htokens'⟩ := List.forall_mem_cons.mp htokens
    obtain ⟨hblanks, hblanks'⟩ := List.forall_mem_cons.mp hblanks
    rw [List.flatMap_cons, List.map_cons, List.append_assoc]
    cases blanks with
    | nil =>
      -- Only the last token may have no blank behind it.
      cases parts with
      | nil => exact .cons lexeme.alone .nil
      | cons next parts => exact absurd rfl (hgaps (token, []) List.mem_cons_self)
    | cons b blanks =>
      have hrest : Cut (parts.flatMap fun part => part.1.lexeme.toList ++ part.2)
          (parts.map Prod.fst) := by
        refine ih htokens' hblanks' fun part hpart => hgaps part ?_
        cases parts with
        | nil => cases hpart
        | cons next parts => exact List.mem_cons_of_mem _ hpart
      exact .cons (lexeme.of_blank (hblanks b List.mem_cons_self) _) (hrest.append_blanks hblanks)

theorem read_of_cut_of_forall_ne (h : Cut text.toList ts) (hnone : ∀ d : Tree, d.tokens ≠ ts) :
    Formula.read text = .error .unexpectedEnd := by
  obtain ⟨tiles, tail, tiling, hb, rfl⟩ := h
  rcases derivation_or_unexpectedEnd (tiling.coming (fun p => coming_blanks p hb) 0) with
    ⟨d, hd, -⟩ | ⟨-, hread⟩
  · exact absurd hd (hnone d)
  · exact hread

/-- What is read of a text depends on nothing but its tokens. -/
theorem read_eq_of_cut (h : Cut text.toList ts) (h' : Cut text'.toList ts) :
    (Formula.read text').map (fun f => (f.root, f.identifiers)) =
      (Formula.read text).map fun f => (f.root, f.identifiers) := by
  by_cases hd : ∃ d : Tree, d.tokens = ts
  · obtain ⟨d, rfl⟩ := hd
    obtain ⟨f, hread, hroot, hidentifiers⟩ := read_of_cut text h
    obtain ⟨f', hread', hroot', hidentifiers'⟩ := read_of_cut text' h'
    rw [hread, hread', Except.map, Except.map, hroot, hroot', hidentifiers, hidentifiers']
  · rw [not_exists] at hd
    rw [read_of_cut_of_forall_ne h hd, read_of_cut_of_forall_ne h' hd]

/-- The lexemes of a text may be set apart by any blanks, as long as there is one between any two of
them. The new text has the same tokens, and the same is read of it. -/
theorem read_spaced {lead : List Char} {parts : List (Token × List Char)}
    (htokens : Tokenized text (parts.map Prod.fst)) (hlead : ∀ c ∈ lead, isSpace c)
    (hblanks : ∀ part ∈ parts, ∀ c ∈ part.2, isSpace c)
    (hgaps : ∀ part ∈ parts.dropLast, part.2 ≠ []) :
    (∀ us, Tokenized (spaced lead parts) us ↔ us = parts.map Prod.fst) ∧
      (Formula.read (spaced lead parts)).map (fun f => (f.root, f.identifiers)) =
        (Formula.read text).map fun f => (f.root, f.identifiers) := by
  have hcut : Cut text.toList (parts.map Prod.fst) := tokenized_iff_cut.mp htokens
  have hlexemes : ∀ part ∈ parts, ∃ rest, Lexeme part.1.lexeme.toList rest part.1 :=
    fun part hpart => hcut.exists_lexeme part.1 (List.mem_map_of_mem hpart)
  have hspaced : Cut (spaced lead parts).toList (parts.map Prod.fst) := by
    rw [spaced, String.toList_ofList]
    exact (cut_spaced hlexemes hblanks hgaps).append_blanks hlead
  refine ⟨fun us => ⟨fun hus => ?_, ?_⟩, read_eq_of_cut hcut hspaced⟩
  · exact (tokenized_iff_cut.mpr hspaced).unique hus
  · rintro rfl
    exact tokenized_iff_cut.mpr hspaced

theorem read_spaced_comparison :
    (∀ us, Tokenized "\u2028true x\t<\u00a0 'a b'" us ↔ us =
      [⟨.constant, "true", .constant (.bool true)⟩, .identifier "x", BinaryOp.token .less,
        .constant "'a b'" (.text "a b")]) ∧
    (Formula.read "\u2028true x\t<\u00a0 'a b'").map (fun f => (f.root, f.identifiers)) =
      (Formula.read "truex<'a b'").map fun f => (f.root, f.identifiers) := by
  have htokens : Tokenized "truex<'a b'"
      [⟨.constant, "true", .constant (.bool true)⟩, .identifier "x", BinaryOp.token .less,
        .constant "'a b'" (.text "a b")] := by
    refine ⟨⟨⟨11, []⟩, .cons rfl (.cons rfl (.cons rfl (.cons rfl (.cons rfl .nil))))⟩, ?_⟩
    simp [Token.identifier, Token.constant, BinaryOp.token, BinaryOp.kind]
  have hspaced : spaced ['\u2028'] [(⟨.constant, "true", .constant (.bool true)⟩, [' ']),
      (.identifier "x", ['\t']), (BinaryOp.token .less, ['\u00a0', ' ']),
      (.constant "'a b'" (.text "a b"), [])] = "\u2028true x\t<\u00a0 'a b'" := rfl
  rw [← hspaced]
  exact read_spaced htokens (by simp [isSpace]) (by simp [isSpace]) (by decide)

end Formulas
