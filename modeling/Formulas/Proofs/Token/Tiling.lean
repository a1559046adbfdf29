import Formulas.Proofs.Token.Scanning

/-! Repeated scanning cuts a text into blanks and lexemes and loses no character of it. Main
statement: `scanning_tiles_text`. -/
namespace Formulas

open Token

/-- Repeated scanning gives these tokens one after the other and moves to the last cursor. -/
inductive Scans (keywords : Keywords) : Cursor → List Token → Cursor → Prop
  | nil {cursor : Cursor} : Scans keywords cursor [] cursor
  | cons {cursor next last : Cursor} {token : Token} {tokens : List Token}
      (first : scan keywords cursor = .ok (token, next)) (more : Scans keywords next tokens last) :
      Scans keywords cursor (token :: tokens) last

/-- A token with the blanks in front of it. -/
structure Tile where
  blanks : List Char
  token : Token

/-- The part of the text that a tile covers. -/
def Tile.chars (tile : Tile) : List Char := tile.blanks ++ tile.token.lexeme.toList

/-- A text is cut into tiles and a tail. -/
inductive Tiling : List Char → List Tile → List Char → Prop
  | nil {tail : List Char} : Tiling tail [] tail
  | cons {blanks l rest tail : List Char} {token : Token} {tiles : List Tile}
      (hb : ∀ c ∈ blanks, isSpace c) (lexeme : Lexeme l rest token)
      (more : Tiling rest tiles tail) :
      Tiling (blanks ++ (l ++ rest)) (⟨blanks, token⟩ :: tiles) tail

variable {cs l rest tail : List Char} {token : Token} {tiles : List Tile}

namespace Lexeme

theorem kind_ne_eof (h : Lexeme l rest token) : token.kind ≠ .eof := by
  cases h with
  | keyword longest =>
    exact (by decide +kernel : ∀ w ∈ Keywords.words, w.2.kind ≠ .eof) _ longest.1
  | number | word | text => exact Kind.noConfusion

/-- A digit or a dot right behind a token does not go on with a run of such characters. -/
theorem not_isNumberChar_last (h : Lexeme l rest token) (hr : ∃ c ∈ rest.head?, isNumberChar c) :
    ∀ c ∈ l.getLast?, ¬ isNumberChar c := by
  obtain ⟨d, hd, hn⟩ := hr
  cases h with
  | keyword longest =>
    have hw : ∀ w ∈ Keywords.words, w.1.toList.getLast?.all fun c => !isNumberChar c := by
      decide +kernel
    simpa [Option.all_eq_true] using hw _ longest.1
  | number _ _ run => exact absurd hn (run.2 d hd)
  | word _ _ _ run => exact absurd (isIdentifierRest_of_isNumberChar hn) (run.2 d hd)
  | @text q _ _ _ quote =>
    intro c hc hn
    obtain rfl : q = c := by simpa [List.getLast?_cons, List.getLast?_append] using hc
    exact not_isIdentifierRest_of_isQuote quote (isIdentifierRest_of_isNumberChar hn)

theorem head_isNumberChar {n : Number} (h : Lexeme l rest token)
    (hp : token.payload = .constant (.number n)) : ∃ c ∈ (l ++ rest).head?, isNumberChar c := by
  cases h with
  | @keyword w _ longest =>
    have hw : ∀ w ∈ Keywords.words, w.2.payload ≠ .constant (.number n) := by
      simp [Keywords.words, Keywords.word]
    exact absurd hp (hw _ longest.1)
  | number _ ne run =>
    obtain ⟨c, l, rfl⟩ := List.exists_cons_of_ne_nil ne
    exact ⟨c, rfl, run.1 c (by simp)⟩
  | word | text => simp [Token.identifier, Token.constant] at hp

end Lexeme

namespace Tiling

/-- The tiles and the tail make up the text. -/
theorem eq_flatMap (h : Tiling cs tiles tail) : cs = tiles.flatMap Tile.chars ++ tail := by
  induction h with
  | nil => rfl
  | cons _ lexeme _ ih =>
    rw [List.flatMap_cons, Tile.chars, lexeme.toList_lexeme, List.append_assoc, List.append_assoc,
      ← ih]

theorem eq_nil (h : Tiling [] tiles tail) : tiles = [] ∧ tail = [] := by
  generalize hcs : ([] : List Char) = cs at h
  cases h with
  | nil => exact ⟨rfl, rfl⟩
  | cons _ lexeme => simp [lexeme.ne_nil] at hcs

/-- The tiles in front of any tile are a tiling of their own. -/
theorem split {front back : List Tile} (h : Tiling cs (front ++ back) tail) :
    ∃ mid, Tiling cs front mid ∧ Tiling mid back tail := by
  induction front generalizing cs with
  | nil => exact ⟨cs, .nil, h⟩
  | cons tile front ih =>
    cases h with
    | cons hb lexeme more =>
      obtain ⟨mid, hfront, hback⟩ := ih more
      exact ⟨mid, .cons hb lexeme hfront, hback⟩

theorem append {mid : List Char} {front back : List Tile} (h : Tiling cs front mid)
    (h' : Tiling mid back tail) : Tiling cs (front ++ back) tail := by
  induction h with
  | nil => exact h'
  | cons hb lexeme _ ih => exact .cons hb lexeme (ih h')

theorem not_isNumberChar_last (h : Tiling cs tiles tail)
    (ht : ∃ c ∈ tail.head?, isNumberChar c) :
    ∀ c ∈ (tiles.flatMap Tile.chars).getLast?, ¬ isNumberChar c := by
  induction h with
  | nil => simp
  | @cons blanks l rest tail token tiles _ lexeme more ih =>
    rw [List.flatMap_cons, Tile.chars, lexeme.toList_lexeme]
    by_cases hm : tiles.flatMap Tile.chars = []
    · rw [more.eq_flatMap, hm] at lexeme
      rw [hm, List.append_nil, List.getLast?_append_of_ne_nil _ lexeme.ne_nil]
      exact lexeme.not_isNumberChar_last ht
    · rw [List.getLast?_append_of_ne_nil _ hm]
      exact ih ht

/-- A number does not begin behind a digit or a dot. -/
theorem not_isNumberChar_before {front back : List Tile} {tile : Tile} {n : Number}
    (h : Tiling cs (front ++ tile :: back) tail) (hp : tile.token.payload = .constant (.number n)) :
    ∀ c ∈ (front.flatMap Tile.chars ++ tile.blanks).getLast?, ¬ isNumberChar c := by
  obtain ⟨mid, hfront, hback⟩ := h.split
  cases hback with
  | @cons blanks _ _ _ _ _ hb lexeme =>
    intro c hc
    by_cases hn : blanks = []
    · subst hn
      rw [List.append_nil] at hc
      exact hfront.not_isNumberChar_last (lexeme.head_isNumberChar hp) c hc
    · rw [List.getLast?_append_of_ne_nil _ hn] at hc
      have hs := hb c (List.mem_of_getLast? hc)
      exact fun hn => not_isIdentifierRest_of_isSpace hs (isIdentifierRest_of_isNumberChar hn)

theorem lexeme_ne_empty (h : Tiling cs tiles tail) :
    ∀ tile ∈ tiles, tile.token.lexeme ≠ "" ∧ tile.token.kind ≠ .eof := by
  induction h with
  | nil => simp
  | cons _ lexeme _ ih =>
    refine List.forall_mem_cons.mpr ⟨⟨fun he => lexeme.ne_nil ?_, lexeme.kind_ne_eof⟩, ih⟩
    rw [← lexeme.toList_lexeme, he, String.toList_empty]

theorem kind_ne_eof (h : Tiling cs tiles tail) :
    ∀ token ∈ tiles.map Tile.token, token.kind ≠ .eof := by
  intro token htoken
  obtain ⟨tile, hm, rfl⟩ := List.mem_map.mp htoken
  exact (h.lexeme_ne_empty tile hm).2

/-- Some tiling goes on until only blanks are left or no token begins the text. -/
theorem exists_complete (cs : List Char) : ∃ tiles blanks tail, Tiling cs tiles (blanks ++ tail) ∧
    (∀ c ∈ blanks, isSpace c) ∧ (tail = [] ∨ ∃ e, Fault tail e) := by
  induction hn : cs.length using Nat.strongRecOn generalizing cs with
  | ind n ih =>
    obtain ⟨r, hr⟩ := exists_next ⟨0, cs⟩
    cases hr with
    | finish hb => exact ⟨[], cs, [], by simpa using .nil, hb, .inl rfl⟩
    | fault hb fault => exact ⟨[], _, _, .nil, hb, .inr ⟨_, fault⟩⟩
    | @token _ blanks l rest _ hb lexeme =>
      have hl := List.length_pos_of_ne_nil lexeme.ne_nil
      simp only [List.length_append] at hn
      obtain ⟨tiles, blanks', tail, more, h⟩ := ih rest.length (by omega) rest rfl
      exact ⟨_, blanks', tail, .cons hb lexeme more, h⟩

theorem scans (h : Tiling cs tiles tail) (p : Nat) : Scans .standard ⟨p, cs⟩
    (tiles.map Tile.token) ⟨p + (tiles.flatMap Tile.chars).length, tail⟩ := by
  induction h generalizing p with
  | nil => exact .nil
  | @cons blanks l rest tail token tiles hb lexeme _ ih =>
    have hlen : p + ((⟨blanks, token⟩ :: tiles).flatMap Tile.chars).length =
        p + blanks.length + l.length + (tiles.flatMap Tile.chars).length := by
      simp [Tile.chars, lexeme.toList_lexeme, Nat.add_assoc]
    rw [List.map_cons, hlen]
    exact .cons (lexeme.scan_eq hb) (ih _)

end Tiling

namespace Scans

variable {keywords : Keywords} {cursor next last : Cursor} {tokens more : List Token}

theorem append (h : Scans keywords cursor tokens next) (h' : Scans keywords next more last) :
    Scans keywords cursor (tokens ++ more) last := by
  induction h with
  | nil => exact h'
  | cons first _ ih => exact .cons first (ih h')

theorem split (h : Scans keywords cursor (tokens ++ more) last) :
    ∃ next, Scans keywords cursor tokens next ∧ Scans keywords next more last := by
  induction tokens generalizing cursor with
  | nil => exact ⟨cursor, .nil, h⟩
  | cons token tokens ih =>
    cases h with
    | cons first others =>
      obtain ⟨next, htokens, hmore⟩ := ih others
      exact ⟨next, .cons first htokens, hmore⟩

theorem unique (h : Scans keywords cursor tokens last) (h' : Scans keywords cursor tokens next) :
    last = next := by
  induction h with
  | nil =>
    cases h' with
    | nil => rfl
  | cons first _ ih =>
    cases h' with
    | cons first' others =>
      obtain ⟨-, rfl⟩ := Prod.mk.inj (Except.ok.inj (first.symm.trans first'))
      exact ih others

/-- Of two runs of the scanner from one place, one goes on with the other. -/
theorem prefix_or_prefix (h : Scans keywords cursor tokens next)
    (h' : Scans keywords cursor more last) : tokens <+: more ∨ more <+: tokens := by
  induction h generalizing more with
  | nil => exact .inl List.nil_prefix
  | cons first _ ih =>
    cases h' with
    | nil => exact .inr List.nil_prefix
    | cons first' others =>
      obtain ⟨rfl, rfl⟩ := Prod.mk.inj (Except.ok.inj (first.symm.trans first'))
      simpa only [List.prefix_cons_inj] using ih others

/-- Scanning goes on where the first tokens end. -/
theorem drop (h : Scans keywords cursor (tokens ++ more) last)
    (h' : Scans keywords cursor tokens next) : Scans keywords next more last := by
  obtain ⟨mid, htokens, hmore⟩ := h.split
  rwa [htokens.unique h'] at hmore

/-- The end comes again and again. -/
theorem eofs (p : Nat) (hb : ∀ c ∈ tail, isSpace c) (n : Nat) : Scans keywords ⟨p, tail⟩
    (List.replicate (n + 1) .eof) ⟨p + tail.length, []⟩ := by
  induction n generalizing p tail with
  | zero => exact .cons (scan_blanks _ hb) .nil
  | succ n ih =>
    have hnil : ∀ c ∈ ([] : List Char), isSpace c := by simp
    exact .cons (scan_blanks _ hb) (ih (p + tail.length) hnil)

/-- A run of the scanner goes along a tiling. Only when nothing but blanks is left it gives the end,
any number of times. -/
theorem standard_iff : Scans .standard cursor tokens last ↔
    ∃ tiles tail, Tiling cursor.rest tiles tail ∧
      (tokens = tiles.map Tile.token ∧
          last = ⟨cursor.position + (tiles.flatMap Tile.chars).length, tail⟩ ∨
        (∀ c ∈ tail, isSpace c) ∧
          ∃ n, tokens = tiles.map Tile.token ++ List.replicate (n + 1) .eof ∧
            last = ⟨cursor.position + cursor.rest.length, []⟩) := by
  constructor
  · intro h
    induction h with
    | nil => exact ⟨[], _, .nil, .inl ⟨rfl, rfl⟩⟩
    | cons first _ ih =>
      obtain ⟨tiles, tail, tiling, h⟩ := ih
      cases scan_standard_eq_iff.mp first with
      | @finish p blanks hb =>
        obtain ⟨rfl, rfl⟩ := tiling.eq_nil
        refine ⟨[], blanks, .nil, .inr ⟨hb, ?_⟩⟩
        rcases h with ⟨rfl, rfl⟩ | ⟨_, n, rfl, rfl⟩
        · exact ⟨0, rfl, rfl⟩
        · exact ⟨n + 1, rfl, rfl⟩
      | @token p blanks l rest token hb lexeme =>
        refine ⟨_, tail, .cons hb lexeme tiling, ?_⟩
        rcases h with ⟨rfl, rfl⟩ | ⟨ht, n, rfl, rfl⟩
        · refine .inl ⟨rfl, ?_⟩
          simp [Tile.chars, lexeme.toList_lexeme, Nat.add_assoc]
        · refine .inr ⟨ht, n, rfl, ?_⟩
          simp [Nat.add_assoc]
  · rintro ⟨tiles, tail, tiling, ⟨rfl, rfl⟩ | ⟨hb, n, rfl, rfl⟩⟩
    · exact tiling.scans _
    · have hlen := congrArg List.length tiling.eq_flatMap
      rw [List.length_append] at hlen
      rw [hlen, ← Nat.add_assoc]
      exact (tiling.scans _).append (eofs _ hb n)

end Scans

/-- The cursor moves on with every token but the end, which comes when only blanks are left. -/
theorem scan_standard_ok {cursor next : Cursor} (h : scan .standard cursor = .ok (token, next)) :
    (∀ c ∈ cursor.rest, isSpace c) ∧ token = .eof ∧
        next = ⟨cursor.position + cursor.rest.length, []⟩ ∨
      (∃ c ∈ cursor.rest, ¬ isSpace c) ∧ token.kind ≠ .eof ∧ cursor.position < next.position := by
  cases scan_standard_eq_iff.mp h with
  | finish hb => exact .inl ⟨hb, rfl, rfl⟩
  | @token p blanks l rest _ _ lexeme =>
    obtain ⟨c, cs, hc⟩ := List.exists_cons_of_ne_nil lexeme.ne_nil
    have hl := List.length_pos_of_ne_nil lexeme.ne_nil
    refine .inr ⟨⟨c, by simp [hc], ?_⟩, lexeme.kind_ne_eof, ?_⟩
    · have hl : l ++ rest = c :: (cs ++ rest) := by rw [hc, List.cons_append]
      exact lexeme.not_isSpace_head hl
    · change p < p + blanks.length + l.length
      omega

theorem scan_standard_error_iff {cursor : Cursor} {e : SyntaxError} :
    scan .standard cursor = .error e ↔ ∃ blanks cs, cursor.rest = blanks ++ cs ∧
      (∀ c ∈ blanks, isSpace c) ∧ Fault cs e := by
  constructor
  · intro h
    cases scan_standard_eq_iff.mp h with
    | fault hb fault => exact ⟨_, _, rfl, hb, fault⟩
  · rintro ⟨blanks, cs, hr, hb, fault⟩
    obtain ⟨p, rest⟩ := cursor
    subst hr
    exact fault.scan_eq hb

theorem Scans.position_add_length {cursor last : Cursor} {tokens : List Token}
    (h : Scans .standard cursor tokens last) :
    last.position + last.rest.length = cursor.position + cursor.rest.length := by
  obtain ⟨tiles, tail, tiling, ⟨-, rfl⟩ | ⟨-, n, -, rfl⟩⟩ := standard_iff.mp h
  · have hlen := congrArg List.length tiling.eq_flatMap
    rw [List.length_append] at hlen
    simp [hlen, Nat.add_assoc]
  · rfl

/-- Scanning from the start of a text cuts it into blanks and lexemes, in front of a tail that is
not read yet. It stops for good at the first fault, and else ends with the end of the text. -/
theorem scanning_tiles_text (text : String) :
    (∀ tokens cursor, Scans .standard (.start text) tokens cursor ↔
      ∃ tiles tail, Tiling text.toList tiles tail ∧
        (tokens = tiles.map Tile.token ∧ cursor = ⟨(tiles.flatMap Tile.chars).length, tail⟩ ∨
          (∀ c ∈ tail, isSpace c) ∧
            ∃ n, tokens = tiles.map Tile.token ++ List.replicate (n + 1) .eof ∧
              cursor = ⟨text.length, []⟩)) ∧
    (∀ tiles tail, Tiling text.toList tiles tail →
      text.toList = tiles.flatMap Tile.chars ++ tail ∧
        (∀ tile ∈ tiles, tile.token.lexeme ≠ "" ∧ tile.token.kind ≠ .eof) ∧
        ∀ front tile back n, tiles = front ++ tile :: back →
          tile.token.payload = .constant (.number n) →
          ∀ c ∈ (front.flatMap Tile.chars ++ tile.blanks).getLast?, ¬ isNumberChar c) ∧
    (∀ tokens cursor, Scans .standard (.start text) tokens cursor →
      (∀ token next, scan .standard cursor = .ok (token, next) →
        (∀ c ∈ cursor.rest, isSpace c) ∧ token = .eof ∧ next = ⟨text.length, []⟩ ∨
          (∃ c ∈ cursor.rest, ¬ isSpace c) ∧ token.kind ≠ .eof ∧
            cursor.position < next.position) ∧
      ∀ e, scan .standard cursor = .error e ↔ ∃ blanks cs, cursor.rest = blanks ++ cs ∧
        (∀ c ∈ blanks, isSpace c) ∧ Fault cs e) ∧
    ∃ tokens cursor, Scans .standard (.start text) tokens cursor ∧
      (scan .standard cursor = .ok (.eof, ⟨text.length, []⟩) ∨
        ∃ e, scan .standard cursor = .error e) := by
  have hstart : (Cursor.start text).position + (Cursor.start text).rest.length = text.length := by
    simp [Cursor.start, String.length_toList]
  refine ⟨fun tokens cursor => ?_, fun tiles tail h => ⟨h.eq_flatMap, h.lexeme_ne_empty, ?_⟩,
    fun tokens cursor h => ⟨fun token next hs => ?_, fun e => scan_standard_error_iff⟩, ?_⟩
  · have h : Scans .standard (.start text) tokens cursor ↔ _ := Scans.standard_iff
    rw [hstart] at h
    simpa only [Cursor.start, Nat.zero_add] using h
  · rintro front tile back n rfl hp
    exact h.not_isNumberChar_before hp
  · have hp := h.position_add_length
    rw [hstart] at hp
    simpa only [hp] using scan_standard_ok hs
  · obtain ⟨tiles, blanks, tail, tiling, hb, ht⟩ := Tiling.exists_complete text.toList
    have h := tiling.scans 0
    refine ⟨_, _, h, ?_⟩
    rcases ht with rfl | ⟨e, fault⟩
    · have hp := h.position_add_length
      simp only [List.append_nil, Nat.zero_add, String.length_toList] at hp ⊢
      exact .inl (by rw [scan_blanks _ hb, hp])
    · exact .inr ⟨e, fault.scan_eq hb⟩

end Formulas
