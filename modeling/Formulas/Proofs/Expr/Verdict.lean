import Formulas.Proofs.Expr.Reader
import Formulas.Proofs.Expr.Walk

/-! What becomes of a text: its formula is the tree of the only derivation of its tokens, or else
the first fault or the first token out of place is found, whichever comes first. Main statements:
`read_eq_ok_iff_derivation` and `read_eq_fault_iff_viable`. -/
namespace Formulas

open Grammar Derivation Token

variable {cs l rest tail : List Char} {tiles : List Tile} {fault : Option SyntaxError}
  {us ts : List Token} {cursor : Cursor}

theorem Keywords.standard_of_mem : ∀ w ∈ words, w.2.Standard := by
  simp only [words, word, List.forall_mem_cons]
  exact ⟨⟨_, _, rfl⟩, ⟨_, _, rfl⟩, ⟨UnaryOp.not, rfl⟩, ⟨UnaryOp.increment, rfl⟩,
    ⟨UnaryOp.decrement, rfl⟩, ⟨BinaryOp.or, rfl, rfl⟩, ⟨BinaryOp.and, rfl, rfl⟩,
    ⟨BinaryOp.greater, rfl, rfl⟩, ⟨BinaryOp.greaterEqual, rfl, rfl⟩, ⟨BinaryOp.less, rfl, rfl⟩,
    ⟨BinaryOp.lessEqual, rfl, rfl⟩, ⟨BinaryOp.equal, rfl, rfl⟩, ⟨BinaryOp.notEqual, rfl, rfl⟩,
    ⟨BinaryOp.arithmetic .add, rfl, rfl⟩, ⟨BinaryOp.arithmetic .subtract, rfl, rfl⟩,
    ⟨BinaryOp.arithmetic .multiply, rfl, rfl⟩, ⟨BinaryOp.arithmetic .divide, rfl, rfl⟩,
    ⟨BinaryOp.arithmetic .remainder, rfl, rfl⟩, ⟨(), rfl⟩, ⟨(), rfl⟩, ⟨(), .inl rfl⟩,
    ⟨(), .inr rfl⟩, List.forall_mem_nil _⟩

theorem Lexeme.standard {token : Token} (h : Lexeme l rest token) : token.Standard := by
  cases h with
  | keyword longest => exact Keywords.standard_of_mem _ longest.1
  | number _ _ _ _ _ => exact ⟨_, _, rfl⟩
  | text => exact ⟨_, _, rfl⟩
  | word => exact ⟨_, rfl⟩

/-- Scanning from the cursor gives these tokens, up to the end or to a fault. -/
def Coming (keywords : Keywords) (fault : Option SyntaxError) (cursor : Cursor)
    (ts : List Token) : Prop :=
  match scan keywords cursor with
  | .ok (first, behind) => Ahead keywords fault first behind ts
  | .error e => fault = some e ∧ ts = []

theorem coming_blanks (p : Nat) (hb : ∀ c ∈ tail, isSpace c) :
    Coming .standard none ⟨p, tail⟩ [.eof] := by
  rw [Coming, scan_blanks _ hb]
  exact .finish rfl

theorem coming_fault (p : Nat) {blanks : List Char} {e : SyntaxError}
    (hb : ∀ c ∈ blanks, isSpace c) (h : Fault tail e) :
    Coming .standard (some e) ⟨p, blanks ++ tail⟩ [] := by
  rw [Coming, h.scan_eq hb]
  exact ⟨rfl, rfl⟩

theorem Tiling.coming (h : Tiling cs tiles tail)
    (htail : ∀ p, Coming .standard fault ⟨p, tail⟩ ts) (p : Nat) :
    Coming .standard fault ⟨p, cs⟩ (tiles.map Tile.token ++ ts) := by
  induction h generalizing p with
  | nil => exact htail p
  | @cons blanks l rest tail token tiles hb lexeme _ ih =>
    have more := ih htail (p + blanks.length + l.length)
    rw [Coming, lexeme.scan_eq hb]
    rw [Coming] at more
    split at more
    · next hscan => exact .token lexeme.standard hscan more
    · next hscan =>
      obtain ⟨rfl, hts⟩ := more
      rw [List.map_cons, List.cons_append, hts]
      exact .fault lexeme.standard hscan

/-- There are not more tokens than characters, up to the current token and the end. -/
theorem Ahead.length_le {current : Token} (h : Ahead .standard fault current cursor ts) :
    ts.length ≤ cursor.rest.length + 2 := by
  induction h with
  | finish | fault => simp
  | @token fault current next cursor behind ts _ step others ih =>
    have hlen := (Scans.cons step .nil).position_add_length
    rcases scan_standard_ok step with ⟨_, rfl, _⟩ | ⟨_, _, hlt⟩
    · cases others with
      | finish => simp
      | fault standard | token standard =>
        obtain ⟨m, spelled⟩ := standard
        exact absurd rfl spelled.kind_ne_eof
    · rw [List.length_cons]
      omega

/-- What becomes of the tokens `ts` and the fault behind them. The offending token is the first one
that does not go on with an expression. -/
inductive Verdict (fault : Option SyntaxError) (ts : List Token) :
    EStateM.Result SyntaxError Reader Expr → Prop
  | tree {reader : Reader} (d : Tree) (hf : fault = none) (last : Token) (eof : last.kind = .eof)
      (split : ts = d.tokens ++ [last]) (only : ∀ d' : Tree, d'.tokens = d.tokens → d' = d) :
      Verdict fault ts (.ok d.meaning reader)
  | fault {e : SyntaxError} {reader : Reader} (hf : fault = some e) (viable : Viable ts) :
      Verdict fault ts (.error e reader)
  | offence {reader : Reader} (rest : List Token) (split : ts = reader.taken.toList ++ rest)
      (ahead : Ahead .standard fault reader.current reader.cursor rest)
      (viable : Viable reader.taken.toList)
      (stuck : ¬ Viable (reader.taken.toList ++ [reader.current]))
      (incomplete : reader.current.kind = .eof → ∀ d : Tree, d.tokens ≠ reader.taken.toList) :
      Verdict fault ts (.error .unexpectedEnd reader)

theorem expression_follows_eof {t : Token} (h : t.kind = .eof) :
    Symbol.Follows (.nonterminal expression) t := by
  change t.kind ∉ levels ∧ t.kind ≠ .openParen
  rw [h]
  decide

theorem fits_of_eof (d : Tree) {t : Token} (h : t.kind = .eof) :
    d.Fits (.nonterminal expression) (d.tokens ++ [t]) := by
  refine ⟨[t], fun u hu => ?_, List.prefix_refl _⟩
  obtain rfl : t = u := Option.some.inj hu
  exact expression_follows_eof h

/-- The reader stands at the offending token. -/
theorem Verdict.of_place {reader : Reader} {vs rest : List Token} (split : ts = vs ++ rest)
    (place : reader.At .standard fault vs rest) (viable : Viable vs)
    (stuck : ¬ Viable (vs ++ [reader.current]))
    (incomplete : reader.current.kind = .eof → ∀ d : Tree, d.tokens ≠ vs) :
    Verdict fault ts (.error .unexpectedEnd reader) := by
  obtain ⟨rfl, ahead⟩ := place
  exact .offence rest split ahead viable stuck incomplete

theorem Reader.whole_verdict {reader : Reader} (h : reader.At .standard fault [] ts) :
    Verdict fault ts (whole .standard reader) := by
  have hl : ts.length ≤ reader.cursor.rest.length + 3 := Nat.le_succ_of_le h.ahead.length_le
  have hread := reads_expressionWithin (reader.cursor.rest.length + 3) [] ts reader h hl
  change Outcome _ _ _ _ _ _ _ (expression .standard reader) at hread
  rw [whole_apply]
  generalize expression .standard reader = result at hread
  cases hread with
  | fault hf _ d viable => exact .fault hf ⟨d, viable⟩
  | @offence reader vs rest split place d viable none =>
    refine .of_place split place ⟨d, viable⟩ ?_ fun hk d' hd' => ?_
    · rintro ⟨d', hd'⟩
      exact none d' (d'.fits_tokens _ hd')
    · exact none d' (hd' ▸ fits_of_eof d' hk)
  | @read e reader d rest split meaning place only =>
    subst meaning
    dsimp only
    split
    · next hk =>
      have honly : ∀ d' : Tree, d'.tokens = d.tokens → d' = d := fun d' hd' =>
        only d' (hd' ▸ fits_of_eof d' hk)
      cases hahead : place.ahead with
      | finish _ => exact .tree d rfl _ hk split honly
      | fault standard | token standard =>
        obtain ⟨m, spelled⟩ := standard
        exact absurd hk spelled.kind_ne_eof
    · next hk =>
      refine .of_place split place ⟨d, List.prefix_refl _⟩ ?_ fun h => absurd h hk
      -- A longer derivation would be the one that was read.
      rintro ⟨d', hd'⟩
      obtain rfl := only d' (d'.fits_tokens _ hd')
      have hlength := hd'.length_le
      simp only [List.length_append, List.length_singleton] at hlength
      omega

theorem Formula.read_of_start {text : String} {reader : Reader}
    (h : Reader.start .standard text = .ok reader) : Formula.read text =
      match Reader.whole .standard reader with
      | .ok root reader => .ok ⟨text, root, reader.identifiers.toList⟩
      | .error e _ => .error e := by
  rw [Formula.read, Formula.readWith, h]
  rfl

theorem Formula.read_of_start_error {text : String} {e : SyntaxError}
    (h : Reader.start .standard text = .error e) : Formula.read text = .error e := by
  rw [Formula.read, Formula.readWith, h]
  rfl

theorem Coming.start {text : String} (h : Coming .standard fault (.start text) ts) :
    (∃ e, fault = some e ∧ ts = [] ∧ Reader.start .standard text = .error e) ∨
      ∃ reader, Reader.start .standard text = .ok reader ∧ reader.At .standard fault [] ts := by
  rw [Coming] at h
  split at h
  · next token behind hscan =>
    exact .inr ⟨⟨behind, token, #[], #[]⟩, by rw [Reader.start, hscan]; rfl, rfl, h⟩
  · next e hscan =>
    exact .inl ⟨e, h.1, h.2, by rw [Reader.start, hscan]; rfl⟩

theorem Tiling.filter_tokens (h : Tiling cs tiles tail) :
    (tiles.map Tile.token).filter (·.kind ≠ .eof) = tiles.map Tile.token := by
  rw [List.filter_eq_self]
  intro token ht
  exact decide_eq_true (h.kind_ne_eof token ht)

/-- The tokens of a text whose end is reached. -/
theorem coming_of_scans_eof {text : String} {tokens : List Token}
    (h : Scans .standard (.start text) tokens cursor) (hend : .eof ∈ tokens) :
    Coming .standard none (.start text) (tokens.filter (·.kind ≠ .eof) ++ [.eof]) := by
  obtain ⟨tiles, tail, tiling, ⟨rfl, -⟩ | ⟨hb, n, rfl, -⟩⟩ := Scans.standard_iff.mp h
  · exact absurd rfl (tiling.kind_ne_eof .eof hend)
  · have heofs : (List.replicate (n + 1) Token.eof).filter (·.kind ≠ .eof) = [] := by
      rw [List.filter_eq_nil_iff]
      intro token ht
      rw [List.eq_of_mem_replicate ht]
      decide
    rw [List.filter_append, tiling.filter_tokens, heofs, List.append_nil]
    exact tiling.coming (fun p => coming_blanks p hb) 0

/-- The tokens of a text in front of its first fault. -/
theorem coming_of_scans_error {text : String} {e : SyntaxError}
    (h : Scans .standard (.start text) ts cursor) (he : scan .standard cursor = .error e) :
    Coming .standard (some e) (.start text) ts := by
  obtain ⟨tiles, tail, tiling, ⟨rfl, rfl⟩ | ⟨-, n, -, rfl⟩⟩ := Scans.standard_iff.mp h
  · obtain ⟨blanks, cs, hr, hb, hfault⟩ := scan_standard_error_iff.mp he
    obtain rfl : tail = blanks ++ cs := hr
    have hcoming := tiling.coming (fun p => coming_fault p hb hfault) 0
    rwa [List.append_nil] at hcoming
  · exact absurd he (by simp [scan, Cursor.skipSpace, Cursor.advance])

/-- Tokens that the reader finds fault with make no expression. -/
theorem ne_tokens_of_stuck {vs rest : List Token} {current last : Token}
    (split : ts ++ [last] = vs ++ current :: rest) (eof : last.kind = .eof)
    (stuck : ¬ Viable (vs ++ [current]))
    (incomplete : current.kind = .eof → ∀ d : Tree, d.tokens ≠ vs) (d : Tree) : d.tokens ≠ ts := by
  rintro rfl
  rcases List.eq_nil_or_concat rest with rfl | ⟨front, final, rfl⟩
  · obtain ⟨hvs, hlast⟩ := List.append_inj' split rfl
    obtain rfl := List.singleton_inj.mp hlast
    exact incomplete eof d hvs
  · rw [List.concat_eq_append, ← List.cons_append, ← List.append_assoc] at split
    obtain ⟨hvs, -⟩ := List.append_inj' split rfl
    refine stuck ⟨d, front, ?_⟩
    rw [hvs, List.append_assoc, List.singleton_append]

/-- Either there is one derivation of the tokens, and the text has its tree, or there is none. -/
theorem derivation_or_unexpectedEnd {text : String}
    (h : Coming .standard none (.start text) (ts ++ [.eof])) :
    (∃ d : Tree, d.tokens = ts ∧ (∀ d' : Tree, d'.tokens = ts → d' = d) ∧
        ∃ f, Formula.read text = .ok f ∧ f.root = d.meaning) ∨
      (∀ d : Tree, d.tokens ≠ ts) ∧ Formula.read text = .error .unexpectedEnd := by
  obtain ⟨e, hf, -⟩ | ⟨reader, hstart, hat⟩ := h.start
  · cases hf
  have hread := Formula.read_of_start hstart
  have hverdict := reader.whole_verdict hat
  generalize Reader.whole .standard reader = result at hread hverdict
  cases hverdict with
  | fault hf => cases hf
  | tree d _ last eof split only =>
    obtain ⟨rfl, -⟩ := List.append_inj' split rfl
    exact .inl ⟨d, rfl, only, _, hread, rfl⟩
  | offence rest split ahead _ stuck incomplete =>
    obtain ⟨others, rfl⟩ := ahead.exists_cons
    exact .inr ⟨ne_tokens_of_stuck split rfl stuck incomplete, hread⟩

/-- A text whose end is reached has the tree of the derivation of its tokens. There is no other
derivation of them, and if there is none at all the text has no tree. -/
theorem read_eq_ok_iff_derivation {text : String} {tokens : List Token}
    (h : Scans .standard (.start text) tokens cursor) (hend : .eof ∈ tokens) :
    (∀ e : Expr, (∃ f, Formula.read text = .ok f ∧ f.root = e) ↔
      ∃ d : Tree, d.tokens = tokens.filter (·.kind ≠ .eof) ∧ d.meaning = e) ∧
    (∀ d d' : Tree, d.tokens = tokens.filter (·.kind ≠ .eof) →
      d'.tokens = tokens.filter (·.kind ≠ .eof) → d = d') ∧
    ((∀ d : Tree, d.tokens ≠ tokens.filter (·.kind ≠ .eof)) →
      Formula.read text = .error .unexpectedEnd) := by
  rcases derivation_or_unexpectedEnd (coming_of_scans_eof h hend) with
    ⟨d, hd, only, f, hread, hroot⟩ | ⟨hnone, hread⟩
  · refine ⟨fun e => ⟨?_, ?_⟩, fun d₁ d₂ h₁ h₂ => by rw [only d₁ h₁, only d₂ h₂],
      fun hn => absurd hd (hn d)⟩
    · rintro ⟨f', hf', rfl⟩
      obtain rfl := Except.ok.inj (hread.symm.trans hf')
      exact ⟨d, hd, hroot.symm⟩
    · rintro ⟨d', hd', rfl⟩
      rw [only d' hd']
      exact ⟨f, hread, hroot⟩
  · refine ⟨fun e => ⟨?_, ?_⟩, fun d _ hd => absurd hd (hnone d), fun _ => hread⟩
    · rintro ⟨f, hf, -⟩
      rw [hread] at hf
      cases hf
    · rintro ⟨d, hd, -⟩
      exact absurd hd (hnone d)

theorem exists_derivation_sum : ∃ d : Tree,
    d.tokens = [.identifier "a", BinaryOp.token (.arithmetic .add), .identifier "b"] ∧
      d.meaning = Expr.binary (.arithmetic .add) (.identifier "a") (.identifier "b") := by
  have h : Scans .standard (.start "a+b")
      [.identifier "a", BinaryOp.token (.arithmetic .add), .identifier "b", .eof] ⟨3, []⟩ :=
    .cons rfl (.cons rfl (.cons rfl (.cons rfl .nil)))
  refine ((read_eq_ok_iff_derivation h (by simp)).1 _).mp ⟨⟨"a+b", _, ["a", "b"]⟩, ?_, rfl⟩
  rfl

/-- A text with a fault has no tree. -/
theorem exists_error_of_coming {text : String} {e : SyntaxError}
    (h : Coming .standard (some e) (.start text) ts) : ∃ e', Formula.read text = .error e' := by
  obtain ⟨e', -, -, hstart⟩ | ⟨reader, hstart, hat⟩ := h.start
  · exact ⟨e', Formula.read_of_start_error hstart⟩
  have hread := Formula.read_of_start hstart
  have hverdict := reader.whole_verdict hat
  generalize Reader.whole .standard reader = result at hread hverdict
  cases hverdict with
  | tree d hf => cases hf
  | fault | offence => exact ⟨_, hread⟩

/-- Some tokens come next in any text, whether it has a fault or not. -/
theorem exists_coming (cs : List Char) :
    ∃ fault ts, ∀ p, Coming .standard fault ⟨p, cs⟩ ts := by
  obtain ⟨tiles, blanks, tail, tiling, hb, rfl | ⟨e, hfault⟩⟩ := Tiling.exists_complete cs
  · rw [List.append_nil] at tiling
    exact ⟨none, _, tiling.coming fun p => coming_blanks p hb⟩
  · exact ⟨some e, _, tiling.coming fun p => coming_fault p hb hfault⟩

/-- Nothing that stands behind a token out of place has an effect. -/
theorem read_eq_unexpectedEnd_of_stuck {text : String} {vs : List Token} {current : Token}
    (h : Scans .standard (.start text) (vs ++ [current]) cursor) (hk : current.kind ≠ .eof)
    (stuck : ¬ Viable (vs ++ [current])) : Formula.read text = .error .unexpectedEnd := by
  obtain ⟨tiles, tail, tiling, ⟨htokens, -⟩ | ⟨-, n, htokens, -⟩⟩ := Scans.standard_iff.mp h
  swap
  · rw [List.replicate_succ', ← List.append_assoc] at htokens
    obtain rfl := List.singleton_inj.mp (List.append_inj' htokens rfl).2
    exact absurd rfl hk
  obtain ⟨fault, rest, hrest⟩ := exists_coming tail
  have hcoming : Coming .standard fault (.start text) _ := tiling.coming hrest 0
  rw [← htokens, List.append_assoc, List.singleton_append] at hcoming
  obtain ⟨e, -, hnil, -⟩ | ⟨reader, hstart, hat⟩ := hcoming.start
  · simp at hnil
  have hread := Formula.read_of_start hstart
  have hverdict := reader.whole_verdict hat
  generalize Reader.whole .standard reader = result at hread hverdict
  cases hverdict with
  | tree d _ last eof split _ =>
    exact absurd rfl (ne_tokens_of_stuck split.symm eof stuck (fun he => absurd he hk) d)
  | fault _ viable =>
    obtain ⟨d, hd⟩ := viable
    refine absurd ⟨d, .trans ⟨rest, ?_⟩ hd⟩ stuck
    rw [List.append_assoc, List.singleton_append]
  | offence => exact hread

/-- A text is at fault for its first fault just if the tokens in front of it are the beginning of an
expression. Otherwise the reader stops at the first token that is out of place and never comes to
the fault, and every text that begins with the same tokens is rejected in the same way. -/
theorem read_eq_fault_iff_viable {text : String} {e : SyntaxError}
    (h : Scans .standard (.start text) ts cursor) (he : scan .standard cursor = .error e) :
    (Formula.read text = .error e ↔ Viable ts) ∧
    (¬ Viable ts → Formula.read text = .error .unexpectedEnd ∧
      ∃ reader stopped unread, Reader.start .standard text = .ok reader ∧
        (Reader.whole .standard).run reader = .error .unexpectedEnd stopped ∧
        ts = stopped.taken.toList ++ stopped.current :: unread ∧
        Scans .standard (.start text) (stopped.taken.toList ++ [stopped.current]) stopped.cursor ∧
        Scans .standard stopped.cursor unread cursor ∧
        Viable stopped.taken.toList ∧ ¬ Viable (stopped.taken.toList ++ [stopped.current]) ∧
        ∀ text' cursor', Scans .standard (.start text')
          (stopped.taken.toList ++ [stopped.current]) cursor' →
            Formula.read text' = .error .unexpectedEnd) := by
  have hne : e ≠ .unexpectedEnd := by
    obtain ⟨_, _, _, _, hfault⟩ := scan_standard_error_iff.mp he
    cases hfault <;> exact SyntaxError.noConfusion
  obtain ⟨e', hf, rfl, hstart⟩ | ⟨reader, hstart, hat⟩ :=
    (coming_of_scans_error h he).start
  · cases hf
    have hviable : Viable [] := by
      obtain ⟨d⟩ := nonempty_nonterminal Grammar.expression
      exact ⟨d, List.nil_prefix⟩
    exact ⟨⟨fun _ => hviable, fun _ => Formula.read_of_start_error hstart⟩,
      fun hn => absurd hviable hn⟩
  have hread := Formula.read_of_start hstart
  have hverdict := reader.whole_verdict hat
  cases hr : Reader.whole .standard reader with
  | ok root stopped =>
    rw [hr] at hverdict
    cases hverdict with
    | tree d hf => cases hf
  | error e' stopped =>
    rw [hr] at hverdict hread
    cases hverdict with
    | fault hf viable =>
      cases hf
      exact ⟨⟨fun _ => viable, fun _ => hread⟩, fun hn => absurd viable hn⟩
    | offence rest split ahead viable stuck _ =>
      obtain ⟨unread, rfl⟩ := ahead.exists_cons
      have hnot : ¬ Viable ts := by
        rintro ⟨d, hd⟩
        refine stuck ⟨d, .trans ⟨unread, ?_⟩ hd⟩
        rw [split, List.append_assoc, List.singleton_append]
      have herror : Formula.read text ≠ .error e := by
        rw [hread]
        exact fun h => hne (Except.error.inj h).symm
      refine ⟨⟨fun h => absurd h herror, fun h => absurd h hnot⟩, fun _ => ⟨hread, ?_⟩⟩
      have hseen := Reader.scans_of_whole_error hstart hr
      rw [split, ← List.singleton_append, ← List.append_assoc] at h
      have hk : stopped.current.kind ≠ .eof := by
        cases ahead with
        | fault standard | token standard =>
          obtain ⟨m, spelled⟩ := standard
          exact spelled.kind_ne_eof
      exact ⟨reader, stopped, unread, hstart, hr, split, hseen, h.drop hseen, viable, stuck,
        fun _ _ h' => read_eq_unexpectedEnd_of_stuck h' hk stuck⟩

theorem viable_before_fault :
    Viable [.identifier "a", BinaryOp.token (.arithmetic .add)] := by
  have h : Scans .standard (.start "a+#")
      [.identifier "a", BinaryOp.token (.arithmetic .add)] ⟨2, ['#']⟩ :=
    .cons rfl (.cons rfl .nil)
  have hread : Formula.read "a+#" = .error (.unknownCharacter '#') := rfl
  exact (read_eq_fault_iff_viable h rfl).1.mp hread

end Formulas
