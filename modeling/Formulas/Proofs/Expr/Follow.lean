import Formulas.Proofs.Expr.Grammar

/-! Which tokens begin a derivation and which may come behind it. One token is enough to tell the
productions of a nonterminal apart, and a second one tells an identifier from a call. -/
namespace Formulas.Grammar

open Token (Kind)

/-- The kinds of the tokens of a class. -/
def Terminal.kinds : Terminal → List Kind
  | operator kind => [kind]
  | prefixed => [.additive, .negation, .step]
  | constant => [.constant]
  | identifier => [.identifier]
  | openParen => [.openParen]
  | closeParen => [.closeParen]
  | delimiter => [.delimiter]

theorem prefixed_kind (op : UnaryOp) : op.token.kind ∈ Terminal.prefixed.kinds := by
  cases op <;> decide

theorem prefixed_token_inj {op op' : UnaryOp} (h : op.token = op'.token) : op = op' := by
  cases op <;> cases op' <;> first
    | rfl
    | simp [UnaryOp.token, BinaryOp.token] at h

theorem kind_mem_levels (op : BinaryOp) : op.kind ∈ levels := by
  cases op with
  | arithmetic op => cases op <;> decide
  | _ => decide

namespace Terminal.Spelled

variable {c : Terminal} {m m' : c.Meaning} {t : Token}

theorem kind_mem (h : c.Spelled m t) : t.kind ∈ c.kinds := by
  cases c with
  | operator kind =>
    obtain ⟨hk, rfl⟩ := h
    exact List.mem_singleton.mpr hk
  | prefixed =>
    obtain rfl := h
    exact prefixed_kind _
  | constant =>
    obtain ⟨lexeme, rfl⟩ := h
    exact List.mem_singleton.mpr rfl
  | delimiter => rcases h with rfl | rfl <;> decide
  | identifier | openParen | closeParen =>
    obtain rfl := h
    exact List.mem_singleton.mpr rfl

theorem kind_ne_eof (h : c.Spelled m t) : t.kind ≠ .eof := by
  intro he
  cases c with
  | operator kind =>
    have hm : BinaryOp.kind m ∈ levels := kind_mem_levels m
    rw [h.1, ← List.mem_singleton.mp h.kind_mem, he] at hm
    exact absurd hm (by decide)
  | prefixed | constant | identifier | openParen | closeParen | delimiter =>
    exact absurd (he ▸ h.kind_mem) (by decide)

theorem unique (h : c.Spelled m t) (h' : c.Spelled m' t) : m = m' := by
  cases c with
  | operator => exact Token.Payload.binary.inj (congrArg Token.payload (h.2.symm.trans h'.2))
  | prefixed => exact prefixed_token_inj (h.symm.trans h')
  | constant =>
    obtain ⟨lexeme, rfl⟩ := h
    obtain ⟨lexeme', h'⟩ := h'
    exact Token.Payload.constant.inj (congrArg Token.payload h')
  | identifier => exact Token.Payload.path.inj (congrArg Token.payload (h.symm.trans h'))
  | openParen | closeParen | delimiter => rfl

end Terminal.Spelled

/-- The first token of a derivation picks the production, up to calls and identifiers. -/
def Production.Starts : {s : Nonterminal} → Production s → Token → Prop
  | _, chain .., _ | _, tightest, _ => True
  | _, finish kind _, t => t.kind ≠ kind
  | _, step kind _, t => t.kind = kind
  | _, prefixed, t => t.kind ∈ Terminal.prefixed.kinds
  | _, plain, t => t.kind ∉ Terminal.prefixed.kinds
  | _, constant, t => t.kind = .constant
  | _, identifier, t | _, call, t => t.kind = .identifier
  | _, group, t => t.kind = .openParen
  | _, noArguments, t => t.kind = .closeParen
  | _, someArguments, t => t.kind ≠ .closeParen
  | _, lastArgument, t => t.kind ≠ .delimiter
  | _, nextArgument, t => t.kind = .delimiter

theorem Production.eq_of_starts {s : Nonterminal} {p p' : Production s} {t : Token}
    (h : p.Starts t) (h' : p'.Starts t) (ht : s = .primary → t.kind ≠ .identifier) : p = p' := by
  cases p <;> cases p' <;> simp_all [Starts]

/-- The token may come right behind the symbol. -/
def Symbol.Follows : Symbol → Token → Prop
  | terminal _, _ => True
  | nonterminal (.binary kinds), t => t.kind ∉ kinds ∧ t.kind ≠ .openParen
  | nonterminal (.repetition kind tighter), t => t.kind ∉ kind :: tighter ∧ t.kind ≠ .openParen
  | nonterminal .unary, t | nonterminal .primary, t => t.kind ≠ .openParen
  | nonterminal .arguments, t | nonterminal .moreArguments, t => t.kind = .closeParen

/-- The tokens may come behind the symbol. -/
def Symbol.Before (x : Symbol) (w : List Token) : Prop := ∀ t ∈ w.head?, x.Follows t

namespace Derivation

variable {form : Form} {x y : Symbol} {xs : List Symbol} {z : List Token}

/-- The tokens are the beginning of those of the derivation and of some that may come behind `x`. -/
def Fits (d : Derivation form) (x : Symbol) (z : List Token) : Prop :=
  ∃ w, x.Before w ∧ z <+: d.tokens ++ w

theorem Fits.mono {d : Derivation form} {z' : List Token} (h : d.Fits x z) (hz : z' <+: z) :
    d.Fits x z' := by
  obtain ⟨w, hw, hp⟩ := h
  exact ⟨w, hw, hz.trans hp⟩

theorem fits_tokens (d : Derivation form) (x : Symbol) (h : z <+: d.tokens) : d.Fits x z :=
  ⟨[], by simp [Symbol.Before], by simpa using h⟩

/-- What may come behind `y` when `xs` come next inside of `x`. -/
def Closes (x y : Symbol) (xs : List Symbol) : Prop :=
  ∀ (others : Derivation (.row xs)) (w : List Token), x.Before w → y.Before (others.tokens ++ w)

theorem closes_terminal (x : Symbol) (c : Terminal) (xs : List Symbol) :
    Closes x (.terminal c) xs := fun _ _ _ _ _ => trivial

theorem Fits.first {first : Derivation (.one y)} {others : Derivation (.row xs)}
    (h : (cons first others).Fits x z) (hc : Closes x y xs) : first.Fits y z := by
  obtain ⟨w, hw, hp⟩ := h
  exact ⟨others.tokens ++ w, hc others w hw, by simpa [tokens] using hp⟩

theorem Fits.others {first : Derivation (.one y)} {others : Derivation (.row xs)}
    (h : (cons first others).Fits x (first.tokens ++ z)) : others.Fits x z := by
  obtain ⟨w, hw, hp⟩ := h
  exact ⟨w, hw, by simpa [tokens] using hp⟩

/-- Only one derivation of a class of tokens has this token. -/
theorem Fits.eq_leaf {c : Terminal} {d : Derivation (.one (.terminal c))} {m : c.Meaning}
    {t : Token} (h : d.Fits x (t :: z)) (spelled : c.Spelled m t) : d = leaf t m spelled := by
  cases d with
  | leaf t' m' spelled' =>
    obtain ⟨w, -, hp⟩ := h
    obtain rfl := (List.cons_prefix_cons.mp hp).1
    obtain rfl := spelled.unique spelled'
    rfl

theorem Fits.follows {d : Derivation form} {t : Token} (h : d.Fits x (t :: z))
    (hd : d.tokens = []) : x.Follows t := by
  obtain ⟨w, hw, hp⟩ := h
  obtain ⟨more, rfl⟩ := hd ▸ hp
  exact hw t rfl

/-- The first token is of one of the kinds. -/
def Begins (d : Derivation form) (kinds : List Kind) : Prop :=
  ∃ t more, d.tokens = t :: more ∧ t.kind ∈ kinds

theorem Begins.cons {kinds : List Kind} {first : Derivation (.one y)}
    (h : first.Begins kinds) (others : Derivation (.row xs)) :
    (cons first others).Begins kinds := by
  obtain ⟨t, more, hd, ht⟩ := h
  exact ⟨t, more ++ others.tokens, by rw [tokens, hd, List.cons_append], ht⟩

theorem Begins.mono {d : Derivation form} {kinds kinds' : List Kind} (h : d.Begins kinds)
    (hs : kinds ⊆ kinds') : d.Begins kinds' := by
  obtain ⟨t, more, hd, ht⟩ := h
  exact ⟨t, more, hd, hs ht⟩

theorem Begins.head_mem {d : Derivation form} {kinds : List Kind} (h : d.Begins kinds)
    {w : List Token} {t : Token} (ht : t ∈ (d.tokens ++ w).head?) : t.kind ∈ kinds := by
  obtain ⟨u, more, hd, hu⟩ := h
  rw [hd] at ht
  exact Option.some.inj ht ▸ hu

theorem Begins.kind_mem {d : Derivation form} {kinds : List Kind} (h : d.Begins kinds) {t : Token}
    (hf : d.Fits x (t :: z)) : t.kind ∈ kinds := by
  obtain ⟨w, -, more, hp⟩ := hf
  exact h.head_mem (w := w) (hp ▸ rfl)

theorem Begins.node {s : Nonterminal} {p : Production s} {parts : Derivation (.row p.symbols)}
    {kinds : List Kind} (h : parts.Begins kinds) : (node p parts).Begins kinds := h

theorem begins_leaf {c : Terminal} (d : Derivation (.one (.terminal c))) : d.Begins c.kinds := by
  cases d with
  | leaf t m spelled => exact ⟨t, [], rfl, spelled.kind_mem⟩

theorem begins_terminal {c : Terminal} (d : Derivation (.row (.terminal c :: xs))) :
    d.Begins c.kinds := by
  cases d with
  | cons first others => exact first.begins_leaf.cons others

/-- The kinds that an operand without operators begins with. -/
def primaryKinds : List Kind := [.constant, .identifier, .openParen]

theorem begins_primary (d : Derivation (.one (.nonterminal .primary))) :
    d.Begins primaryKinds := by
  cases d with
  | node p parts =>
    cases p with
    | constant => exact Begins.mono parts.begins_terminal (by decide)
    | identifier | call => exact Begins.mono parts.begins_terminal (by decide)
    | group => exact Begins.mono parts.begins_terminal (by decide)

theorem begins_unary (d : Derivation (.one (.nonterminal .unary))) :
    d.Begins (Terminal.prefixed.kinds ++ primaryKinds) := by
  cases d with
  | node p parts =>
    cases p with
    | prefixed => exact Begins.mono parts.begins_terminal (by decide)
    | plain =>
      cases parts with
      | cons first others => exact (first.begins_primary.mono (by decide)).cons others

theorem begins_binary {kinds : List Kind} (d : Derivation (.one (.nonterminal (.binary kinds)))) :
    d.Begins (Terminal.prefixed.kinds ++ primaryKinds) := by
  induction kinds with
  | nil =>
    cases d with
    | node p parts =>
      cases p with
      | tightest =>
        cases parts with
        | cons first others => exact first.begins_unary.cons others
  | cons kind tighter ih =>
    cases d with
    | node p parts =>
      cases p with
      | chain =>
        cases parts with
        | cons first others => exact (ih first).cons others

/-- The production of a derivation is one that its first token picks. -/
theorem Fits.starts {s : Nonterminal} {p : Production s} {parts : Derivation (.row p.symbols)}
    {t : Token} (h : (node p parts).Fits (.nonterminal s) (t :: z)) : p.Starts t := by
  change parts.Fits (.nonterminal s) (t :: z) at h
  cases p with
  | chain | tightest => trivial
  | finish =>
    cases parts with
    | nil => exact fun ht => (h.follows rfl).1 (ht ▸ List.mem_cons_self)
  | noArguments =>
    cases parts with
    | nil => exact h.follows rfl
  | lastArgument =>
    cases parts with
    | nil => exact fun ht => Kind.noConfusion (ht.symm.trans (h.follows rfl))
  | prefixed => exact Begins.kind_mem parts.begins_terminal h
  | step | constant | identifier | call | group | nextArgument =>
    exact List.mem_singleton.mp (Begins.kind_mem parts.begins_terminal h)
  | plain =>
    cases parts with
    | cons first others =>
      have ht := (first.begins_primary.cons others).kind_mem h
      exact (by decide : ∀ k ∈ primaryKinds, k ∉ Terminal.prefixed.kinds) _ ht
  | someArguments =>
    cases parts with
    | cons first others =>
      have ht := (first.begins_binary.cons others).kind_mem h
      exact (by decide : ∀ k ∈ Terminal.prefixed.kinds ++ primaryKinds, k ≠ .closeParen) _ ht

/-- A derivation has the production that the first token picks. -/
theorem Fits.exists_parts {s : Nonterminal} {p : Production s}
    {d : Derivation (.one (.nonterminal s))} {t : Token} (h : d.Fits (.nonterminal s) (t :: z))
    (hp : p.Starts t) (ht : s = .primary → t.kind ≠ .identifier) :
    ∃ parts : Derivation (.row p.symbols), d = node p parts ∧
      parts.Fits (.nonterminal s) (t :: z) := by
  cases d with
  | node p' parts =>
    obtain rfl := Production.eq_of_starts hp h.starts ht
    exact ⟨parts, rfl, h⟩

/-- What comes behind the identifier tells a call from a plain identifier. -/
theorem Fits.exists_call {d : Derivation (.one (.nonterminal .primary))} {t u : Token}
    {path : String} (h : d.Fits (.nonterminal .primary) (t :: u :: z))
    (spelled : Terminal.identifier.Spelled path t) :
    (u.kind ≠ .openParen ∧ d = node .identifier (cons (leaf t path spelled) nil)) ∨
      u.kind = .openParen ∧ ∃ others, d = node .call (cons (leaf t path spelled) others) ∧
        others.Fits (.nonterminal .primary) (u :: z) := by
  have ht : t.kind = .identifier := List.mem_singleton.mp spelled.kind_mem
  cases d with
  | node p parts =>
    have hs := h.starts
    change parts.Fits (.nonterminal .primary) (t :: u :: z) at h
    cases p with
    | constant | group => exact absurd (ht.symm.trans hs) (by decide)
    | identifier =>
      cases parts with
      | cons first others =>
        obtain rfl := (h.first (closes_terminal _ _ _)).eq_leaf spelled
        have hu := Fits.others h
        cases others with
        | nil => exact .inl ⟨hu.follows rfl, rfl⟩
    | call =>
      cases parts with
      | cons first others =>
        obtain rfl := (h.first (closes_terminal _ _ _)).eq_leaf spelled
        have hu := Fits.others h
        have hk := (begins_terminal others).kind_mem hu
        exact .inr ⟨List.mem_singleton.mp hk, others, rfl, hu⟩

theorem closes_nil {s s' : Nonterminal}
    (h : ∀ t, (Symbol.nonterminal s).Follows t → (Symbol.nonterminal s').Follows t) :
    Closes (.nonterminal s) (.nonterminal s') [] := by
  intro others w hw
  cases others with
  | nil => exact fun t ht => h t (hw t ht)

theorem closes_closeParen {x y : Symbol} (xs : List Symbol)
    (h : ∀ t : Token, t.kind = .closeParen → y.Follows t) :
    Closes x y (.terminal .closeParen :: xs) := by
  intro others w _ t ht
  exact h t (List.mem_singleton.mp (others.begins_terminal.head_mem ht))

/-- A tighter operand ends where the next operator of the repetition stands. -/
theorem closes_repetition {x : Symbol} {kind : Kind} {tighter : List Kind}
    (hk : kind :: tighter <:+ levels)
    (hx : ∀ t, x.Follows t → t.kind ∉ kind :: tighter ∧ t.kind ≠ .openParen) :
    Closes x (.nonterminal (.binary tighter)) [.nonterminal (.repetition kind tighter)] := by
  have hnodup : (kind :: tighter).Nodup := (by decide : levels.Nodup).sublist hk.sublist
  have hkind : kind ∈ levels := hk.subset List.mem_cons_self
  have hopen : kind ≠ .openParen := fun h => absurd (h ▸ hkind) (by decide)
  intro others w hw t ht
  cases others with
  | cons first others =>
    cases others with
    | nil =>
      cases first with
      | node p parts =>
        cases p with
        | finish =>
          cases parts with
          | nil =>
            obtain ⟨hn, ho⟩ := hx t (hw t ht)
            exact ⟨fun h => hn (List.mem_cons_of_mem _ h), ho⟩
        | step =>
          have ht := (Begins.node parts.begins_terminal).cons nil |>.head_mem ht
          obtain rfl := List.mem_singleton.mp ht
          exact ⟨(List.nodup_cons.mp hnodup).1, hopen⟩

theorem expression_follows {t : Token} (ht : t.kind ∈ [.closeParen, .delimiter]) :
    (Symbol.nonterminal expression).Follows t :=
  (by decide : ∀ k ∈ [Kind.closeParen, .delimiter], k ∉ levels ∧ k ≠ .openParen) _ ht

/-- An argument ends where the next mark or the closing parenthesis stands. -/
theorem closes_moreArguments {x : Symbol} (hx : ∀ t, x.Follows t → t.kind = .closeParen) :
    Closes x (.nonterminal expression) [.nonterminal .moreArguments] := by
  intro others w hw t ht
  cases others with
  | cons first others =>
    cases others with
    | nil =>
      cases first with
      | node p parts =>
        cases p with
        | lastArgument =>
          cases parts with
          | nil => exact expression_follows (by simp [hx t (hw t ht)])
        | nextArgument =>
          have ht := (Begins.node parts.begins_terminal).cons nil |>.head_mem ht
          exact expression_follows (List.mem_cons_of_mem _ ht)

/-- Something can be derived from every nonterminal. -/
theorem nonempty_nonterminal (s : Nonterminal) : Nonempty (Derivation (.one (.nonterminal s))) := by
  have hprimary : Derivation (.one (.nonterminal .primary)) :=
    node .identifier (cons (leaf (.identifier "x") "x" rfl) nil)
  have hunary : Derivation (.one (.nonterminal .unary)) := node .plain (cons hprimary nil)
  cases s with
  | binary kinds =>
    induction kinds with
    | nil => exact ⟨node .tightest (cons hunary nil)⟩
    | cons kind tighter ih =>
      obtain ⟨first⟩ := ih
      exact ⟨node (.chain kind tighter) (cons first (cons (node (.finish _ _) nil) nil))⟩
  | repetition kind tighter => exact ⟨node (.finish _ _) nil⟩
  | unary => exact ⟨hunary⟩
  | primary => exact ⟨hprimary⟩
  | arguments => exact ⟨node .noArguments nil⟩
  | moreArguments => exact ⟨node .lastArgument nil⟩

/-- Something can be derived from a row unless it asks for an operator that does not exist. -/
theorem nonempty_row (xs : List Symbol)
    (h : ∀ kind, Symbol.terminal (.operator kind) ∉ xs) : Nonempty (Derivation (.row xs)) := by
  induction xs with
  | nil => exact ⟨nil⟩
  | cons x xs ih =>
    obtain ⟨others⟩ := ih fun kind hm => h kind (List.mem_cons_of_mem _ hm)
    cases x with
    | nonterminal s =>
      obtain ⟨first⟩ := nonempty_nonterminal s
      exact ⟨cons first others⟩
    | terminal c =>
      cases c with
      | operator kind => exact absurd List.mem_cons_self (h kind)
      | prefixed => exact ⟨cons (leaf _ .not rfl) others⟩
      | constant => exact ⟨cons (leaf (.constant "" .undefined) _ ⟨_, rfl⟩) others⟩
      | identifier => exact ⟨cons (leaf (.identifier "x") _ rfl) others⟩
      | openParen => exact ⟨cons (leaf .openParen () rfl) others⟩
      | closeParen => exact ⟨cons (leaf .closeParen () rfl) others⟩
      | delimiter => exact ⟨cons (leaf .comma () (.inl rfl)) others⟩

end Derivation
end Formulas.Grammar
