import Formulas.Proofs.Expr.Outcome
import Formulas.Proofs.Expr.Step

/-! The reader follows the grammar, as long as its fuel is not less than the number of tokens. -/
namespace Formulas.Reader

open Token (Kind)
open Grammar Derivation

variable {keywords : Keywords} {fault : Option SyntaxError} {us ts rest : List Token}
  {reader : Reader} {β γ : Type}

theorem At.standard (h : reader.At keywords fault us ts) (hk : reader.current.kind ≠ .eof) :
    reader.current.Standard := by
  cases h.ahead with
  | finish eof => exact absurd eof hk
  | fault standard | token standard => exact standard

/-- Behind any token but the end there is another one or a fault. -/
theorem At.scan_cases (h : reader.At keywords fault us ts) (hk : reader.current.kind ≠ .eof) :
    (∃ e, fault = some e ∧ ts = [reader.current] ∧ scan keywords reader.cursor = .error e) ∨
      ∃ token cursor rest, ts = reader.current :: rest ∧
        scan keywords reader.cursor = .ok (token, cursor) ∧
        (reader.moved token cursor).At keywords fault (us ++ [reader.current]) rest := by
  obtain ⟨htaken, hahead⟩ := h
  cases hahead with
  | finish eof => exact absurd eof hk
  | fault _ stop => exact .inl ⟨_, rfl, rfl, stop⟩
  | token _ step others =>
    exact .inr ⟨_, _, _, rfl, step, by simp [moved, htaken], others⟩

/-- Going past a token that the grammar asks for. -/
theorem consume {step : ReadM β} (b : β) {c : Terminal} {m : c.Meaning}
    (hstep : step reader = match scan keywords reader.cursor with
      | .ok (token, cursor) => .ok b (reader.moved token cursor)
      | .error e => .error e reader)
    (h : reader.At keywords fault us ts) (spelled : c.Spelled m reader.current) :
    Outcome keywords fault (.terminal c) (.one (.terminal c)) (fun m' b' => m' = m ∧ b' = b) us ts
      (step reader) := by
  rw [hstep]
  rcases h.scan_cases spelled.kind_ne_eof with
    ⟨e, rfl, rfl, hscan⟩ | ⟨token, cursor, rest, rfl, hscan, h₁⟩
  · rw [hscan]
    exact .fault rfl (by rw [h.taken]) (.leaf _ m spelled) (List.prefix_refl _)
  · rw [hscan]
    exact .read (.leaf _ m spelled) _ rfl ⟨rfl, rfl⟩ h₁ fun d' hd' => hd'.eq_leaf spelled

theorem take_outcome {c : Terminal} {m : c.Meaning} (h : reader.At keywords fault us ts)
    (spelled : c.Spelled m reader.current) : Outcome keywords fault (.terminal c)
      (.one (.terminal c)) (fun m' t => m' = m ∧ t = reader.current) us ts (take keywords reader) :=
  consume reader.current (take_apply keywords reader) h spelled

theorem advance_outcome {c : Terminal} {m : c.Meaning} (h : reader.At keywords fault us ts)
    (spelled : c.Spelled m reader.current) : Outcome keywords fault (.terminal c)
      (.one (.terminal c)) (fun m' b => m' = m ∧ b = ()) us ts (advance keywords reader) :=
  consume () (advance_apply keywords reader) h spelled

/-- What the kind of the current token says about it. -/
theorem At.exists_spelled {kind : Kind} (h : reader.At keywords fault us ts)
    (hk : reader.current.kind = kind) (hne : kind ≠ .eof) :
    ∃ m, kind.terminal.Spelled m reader.current := by
  subst hk
  exact h.standard hne

theorem terminal_of_mem_levels {kind : Kind} (h : kind ∈ levels) :
    kind.terminal = .operator kind := by
  revert kind
  simp [levels, Kind.terminal]

theorem At.exists_operator (h : reader.At keywords fault us ts)
    (hk : reader.current.kind ∈ levels) :
    ∃ op, (Terminal.operator reader.current.kind).Spelled op reader.current := by
  have hne : reader.current.kind ≠ .eof := fun he => absurd (he ▸ hk) (by decide)
  exact terminal_of_mem_levels hk ▸ h.standard hne

theorem At.exists_prefixed (h : reader.At keywords fault us ts)
    (hk : reader.current.kind ∈ Terminal.prefixed.kinds) :
    ∃ op, Terminal.prefixed.Spelled op reader.current := by
  have hk : reader.current.kind = .additive ∨ reader.current.kind = .negation ∨
      reader.current.kind = .step := by
    simpa [Terminal.kinds] using hk
  rcases hk with hk | hk | hk
  · -- Of the operators of a sum each is a sign as well.
    obtain ⟨op, ho, hop⟩ := h.exists_operator (by rw [hk]; decide)
    rw [hk] at ho
    rw [hop]
    cases op with
    | arithmetic op =>
      cases op with
      | add => exact ⟨.plus, rfl⟩
      | subtract => exact ⟨.negate, rfl⟩
      | multiply | divide | remainder => cases ho
    | _ => cases ho
  · exact h.exists_spelled hk (by decide)
  · exact h.exists_spelled hk (by decide)

/-- The closing parenthesis is there, or something else that cannot stand in its place. -/
theorem expect_outcome (h : reader.At keywords fault us ts) :
    Outcome keywords fault (.terminal .closeParen) (.one (.terminal .closeParen)) (fun _ _ => True)
      us ts (expect keywords .closeParen reader) := by
  rw [expect_apply]
  split
  · next hk =>
    obtain ⟨m, spelled⟩ := h.exists_spelled hk (by decide)
    exact (advance_outcome h spelled).mono fun _ _ _ => trivial
  · next hk =>
    obtain ⟨rest, rfl⟩ := h.exists_cons
    refine .offence [] _ rfl (by rwa [List.append_nil]) (.leaf _ () rfl) List.nil_prefix ?_
    intro d hd
    cases d with
    | leaf t m spelled => exact hk (List.mem_singleton.mp ((begins_leaf _).kind_mem hd))

theorem unaryOf?_token (op : UnaryOp) : unaryOf? op.token = some op := by
  cases op <;> rfl

theorem unaryOf?_eq_none {t : Token} (h : t.kind ∉ Terminal.prefixed.kinds) :
    unaryOf? t = none := by
  obtain ⟨kind, lexeme, payload⟩ := t
  cases kind with
  | additive | negation | step => simp [Terminal.kinds] at h
  | _ => rfl

/-- The reading of a nonterminal with at most `n` tokens before the reader. -/
def Reads (keywords : Keywords) (fault : Option SyntaxError) (n : Nat) (s : Nonterminal)
    (value : s.Meaning → β → Prop) (m : ReadM β) : Prop :=
  ∀ us ts reader, reader.At keywords fault us ts → ts.length ≤ n →
    Outcome keywords fault (.nonterminal s) (.one (.nonterminal s)) value us ts (m reader)

/-- There is always a token before the reader, if only the end. -/
theorem reads_zero {s : Nonterminal} {value : s.Meaning → β → Prop} {m : ReadM β} :
    Reads keywords fault 0 s value m := by
  intro us ts reader h hl
  obtain ⟨rest, rfl⟩ := h.exists_cons
  cases hl

theorem length_le {c : Terminal} (d : Derivation (.one (.terminal c))) {n : Nat}
    (h : ts = d.tokens ++ rest) (hn : ts.length ≤ n + 1) : rest.length ≤ n := by
  cases d with
  | leaf => simpa [h, tokens] using hn

theorem length_rest_le {form : Form} {d : Derivation form} {n : Nat} (h : ts = d.tokens ++ rest)
    (hn : ts.length ≤ n) : rest.length ≤ n := by
  rw [h, List.length_append] at hn
  omega

theorem reads_chain {kind : Kind} {tighter : List Kind} (hk : kind :: tighter <:+ levels)
    {operand : ReadM Expr} {n : Nat}
    (hoperand : Reads keywords fault n (.binary tighter) (fun e b => b = e) operand) (fuel : Nat)
    (hn : fuel ≤ n) (left : Expr) : Reads keywords fault fuel (.repetition kind tighter)
      (fun fold b => b = fold left) (chain keywords kind operand fuel left) := by
  induction fuel generalizing left with
  | zero => exact reads_zero
  | succ fuel ih =>
    intro us ts reader h hl
    obtain ⟨rest, rfl⟩ := h.exists_cons
    have hlevel : kind ∈ levels := hk.subset List.mem_cons_self
    rw [chain_apply]
    split
    · next hc =>
      subst hc
      obtain ⟨op, spelled⟩ := h.exists_operator hlevel
      refine Outcome.node (.step _ tighter) rfl (by simp) ?_
      refine Outcome.bind (take_outcome h spelled) (closes_terminal _ _ _)
        (nonempty_row _ (by simp)) fun d token rest₁ reader₁ hrest₁ htoken h₁ => ?_
      have hl₁ := length_le d hrest₁ hl
      obtain ⟨hop, rfl⟩ := htoken
      have hpayload : reader.current.payload = .binary op := congrArg Token.payload spelled.2
      rw [hop, hpayload]
      refine Outcome.bind (hoperand _ _ _ h₁ (by omega)) (closes_repetition hk fun _ => id)
        (nonempty_row _ (by simp)) fun d right rest₂ reader₂ hrest₂ hright h₂ => ?_
      have hl₂ := length_rest_le hrest₂ hl₁
      subst hright
      exact (ih (by omega) _ _ _ _ h₂ hl₂).last (closes_nil fun _ => id) fun _ _ => id
    · next hc =>
      refine Outcome.node (.finish _ _) hc (by simp) ?_
      exact Outcome.pure rfl h

theorem reads_level {kinds : List Kind} (hk : kinds <:+ levels) {operand : ReadM Expr} {n : Nat}
    (hoperand : Reads keywords fault n .unary (fun e b => b = e) operand) :
    Reads keywords fault n (.binary kinds) (fun e b => b = e) (level keywords operand n kinds) := by
  induction kinds with
  | nil =>
    intro us ts reader h hl
    obtain ⟨rest, rfl⟩ := h.exists_cons
    refine Outcome.node .tightest trivial (by simp) ?_
    exact (hoperand _ _ _ h hl).last (closes_nil fun _ ht => ht.2) fun _ _ => id
  | cons kind tighter ih =>
    have ih := ih ((List.suffix_cons kind tighter).trans hk)
    intro us ts reader h hl
    obtain ⟨rest, rfl⟩ := h.exists_cons
    refine Outcome.node (.chain kind tighter) trivial (by simp) ?_
    refine Outcome.bind (ih _ _ _ h hl) (closes_repetition hk fun _ => id)
      (nonempty_row _ (by simp)) fun d left rest₂ reader₂ hrest hleft h₂ => ?_
    have hl₂ := length_rest_le hrest hl
    subst hleft
    exact (reads_chain hk ih n (Nat.le_refl n) _ _ _ _ h₂ hl₂).last
      (closes_nil fun _ => id) fun _ _ => id

theorem reads_unaryChain {operand : ReadM Expr} {n : Nat}
    (hoperand : Reads keywords fault n .primary (fun e b => b = e) operand) (fuel : Nat)
    (hn : fuel ≤ n) :
    Reads keywords fault fuel .unary (fun e b => b = e) (unaryChain keywords operand fuel) := by
  induction fuel with
  | zero => exact reads_zero
  | succ fuel ih =>
    intro us ts reader h hl
    obtain ⟨rest, rfl⟩ := h.exists_cons
    rw [unaryChain_apply]
    by_cases hk : reader.current.kind ∈ Terminal.prefixed.kinds
    · obtain ⟨op, spelled⟩ := h.exists_prefixed hk
      have hop : unaryOf? reader.current = some op := by rw [spelled]; exact unaryOf?_token op
      rw [hop]
      refine Outcome.node .prefixed hk (by simp) ?_
      refine Outcome.bind (advance_outcome h spelled) (closes_terminal _ _ _)
        (nonempty_row _ (by simp)) fun d _ rest₁ reader₁ hrest₁ hd h₁ => ?_
      have hl₁ := length_le d hrest₁ hl
      rw [hd.1]
      refine Outcome.bind (ih (by omega) _ _ _ h₁ hl₁) (closes_nil fun _ => id) ⟨.nil⟩
        fun d e rest₂ reader₂ _ he h₂ => ?_
      subst he
      exact Outcome.pure rfl h₂
    · rw [unaryOf?_eq_none hk]
      refine Outcome.node .plain hk (by simp) ?_
      exact (hoperand _ _ _ h (by omega)).last (closes_nil fun _ => id) fun _ _ => id

theorem reads_moreArguments {argument : ReadM Expr} {n : Nat}
    (hargument : Reads keywords fault n Grammar.expression (fun e b => b = e) argument) (fuel : Nat)
    (hn : fuel ≤ n + 1) : Reads keywords fault fuel .moreArguments (fun es b => b = es)
      (moreArguments keywords argument fuel) := by
  induction fuel with
  | zero => exact reads_zero
  | succ fuel ih =>
    intro us ts reader h hl
    obtain ⟨rest, rfl⟩ := h.exists_cons
    rw [moreArguments_apply]
    split
    · next hk =>
      obtain ⟨m, spelled⟩ := h.exists_spelled hk (by decide)
      refine Outcome.node .nextArgument hk (by simp) ?_
      refine Outcome.bind (advance_outcome h spelled) (closes_terminal _ _ _)
        (nonempty_row _ (by simp)) fun d _ rest₁ reader₁ hrest₁ _ h₁ => ?_
      have hl₁ := length_le d hrest₁ hl
      refine Outcome.bind (hargument _ _ _ h₁ (by omega)) (closes_moreArguments fun _ => id)
        (nonempty_row _ (by simp)) fun d first rest₂ reader₂ hrest₂ hfirst h₂ => ?_
      have hl₂ := length_rest_le hrest₂ hl₁
      refine Outcome.bind (ih (by omega) _ _ _ h₂ hl₂) (closes_nil fun _ => id) ⟨.nil⟩
        fun d others rest₃ reader₃ _ hothers h₃ => ?_
      subst hfirst hothers
      exact Outcome.pure rfl h₃
    · next hk =>
      refine Outcome.node .lastArgument hk (by simp) ?_
      exact Outcome.pure rfl h

theorem reads_arguments {argument : ReadM Expr} {n : Nat}
    (hargument : Reads keywords fault n Grammar.expression (fun e b => b = e) argument) :
    Reads keywords fault n .arguments (fun es b => b = es)
      (arguments keywords argument (n + 1)) := by
  intro us ts reader h hl
  obtain ⟨rest, rfl⟩ := h.exists_cons
  rw [arguments_apply]
  split
  · next hk =>
    refine Outcome.node .noArguments hk (by simp) ?_
    exact Outcome.pure rfl h
  · next hk =>
    refine Outcome.node .someArguments hk (by simp) ?_
    refine Outcome.bind (hargument _ _ _ h hl) (closes_moreArguments fun _ => id)
      (nonempty_row _ (by simp)) fun d first rest₁ reader₁ hrest₁ hfirst h₁ => ?_
    have hl₁ := length_rest_le hrest₁ hl
    refine Outcome.bind (reads_moreArguments hargument _ (Nat.le_refl _) _ _ _ h₁ (by omega))
      (closes_nil fun _ => id) ⟨.nil⟩ fun d others rest₂ reader₂ _ hothers h₂ => ?_
    subst hfirst hothers
    exact Outcome.pure rfl h₂

/-- What stands between parentheses is read up to the closing one. -/
theorem parens_outcome {s : Nonterminal} {x : Symbol} {inner : ReadM γ} (make : γ → β) {n : Nat}
    {value : s.Meaning → γ → Prop}
    {value' : rowMeaning [.terminal .openParen, .nonterminal s, .terminal .closeParen] → β → Prop}
    (hinner : Reads keywords fault n s value inner)
    (follows : ∀ t : Token, t.kind = .closeParen → Symbol.Follows (.nonterminal s) t)
    (meaning : ∀ m a, value m a → value' ((), m, (), ()) (make a))
    (h : reader.At keywords fault us ts) (hk : reader.current.kind = .openParen)
    (hl : ts.length ≤ n + 1) : Outcome keywords fault x
      (.row [.terminal .openParen, .nonterminal s, .terminal .closeParen]) value' us ts
      ((advance keywords >>= fun _ => inner >>= fun a =>
        expect keywords .closeParen >>= fun _ => pure (make a)) reader) := by
  obtain ⟨m, spelled⟩ := h.exists_spelled hk (by decide)
  refine Outcome.bind (advance_outcome h spelled) (closes_terminal _ _ _) ?_
    fun d _ rest₁ reader₁ hrest₁ _ h₁ => ?_
  · obtain ⟨d⟩ := nonempty_nonterminal s
    exact ⟨.cons d (.cons (.leaf .closeParen () rfl) .nil)⟩
  have hl₁ := length_le d hrest₁ hl
  refine Outcome.bind (hinner _ _ _ h₁ hl₁) (closes_closeParen [] follows)
    (nonempty_row _ (by simp)) fun d a rest₂ reader₂ _ ha h₂ => ?_
  refine Outcome.bind (expect_outcome h₂) (closes_terminal _ _ _) ⟨.nil⟩
    fun _ _ _ reader₃ _ _ h₃ => ?_
  exact Outcome.pure (meaning _ a ha) h₃

/-- Behind a name there is the rest of a call, or the name stands for itself. -/
theorem afterName_outcome {argument : ReadM Expr} {n : Nat} {path : String}
    (hargument : Reads keywords fault n Grammar.expression (fun e b => b = e) argument)
    (h : reader.At keywords fault (us ++ [.identifier path]) rest) (hl : rest.length ≤ n) :
    Outcome keywords fault (.nonterminal .primary) (.one (.nonterminal .primary))
      (fun e b => b = e) us (.identifier path :: rest)
      (afterName keywords argument (n + 1) path reader) := by
  obtain ⟨others, rfl⟩ := h.exists_cons
  have spelled : Terminal.identifier.Spelled path (.identifier path) := rfl
  rw [afterName_apply]
  split
  · next hk =>
    have hrow : Outcome keywords fault (.nonterminal .primary)
        (.row [.terminal .openParen, .nonterminal .arguments, .terminal .closeParen])
        (fun m b => b = Production.call.build (path, m)) _ _ _ :=
      parens_outcome (Expr.call path) (reads_arguments hargument) (fun _ => id)
        (fun _ _ hes => congrArg (Expr.call path) hes) h hk (Nat.le_succ_of_le hl)
    refine hrow.within (fun d => .node .call (.cons (.leaf _ path spelled) d)) (fun _ => rfl) ?_
      fun _ _ => id
    intro d' z hz hp hd'
    obtain ⟨u, z, rfl⟩ := List.exists_cons_of_ne_nil hz
    obtain rfl := (List.cons_prefix_cons.mp hp).1
    rcases hd'.exists_call spelled with ⟨ho, _⟩ | ⟨_, more, rfl, hmore⟩
    · exact absurd hk ho
    · exact ⟨more, rfl, hmore⟩
  · next hk =>
    refine .read (.node .identifier (.cons (.leaf _ path spelled) .nil)) _ rfl rfl
      ⟨h.taken, h.ahead⟩ fun d' hd' => ?_
    rcases hd'.exists_call spelled with ⟨_, rfl⟩ | ⟨ho, _⟩
    · rfl
    · exact absurd ho hk

theorem identifierOrCall_outcome {argument : ReadM Expr} {n : Nat} {path : String}
    (hargument : Reads keywords fault n Grammar.expression (fun e b => b = e) argument)
    (h : reader.At keywords fault us ts) (spelled : Terminal.identifier.Spelled path reader.current)
    (hl : ts.length ≤ n + 1) : Outcome keywords fault (.nonterminal .primary)
      (.one (.nonterminal .primary)) (fun e b => b = e) us ts
      (identifierOrCall keywords argument (n + 1) reader) := by
  have hpayload : reader.current.payload = .path path := congrArg Token.payload spelled
  rw [identifierOrCall_eq]
  change Outcome _ _ _ _ _ _ _ (EStateM.bind (take keywords) _ reader)
  unfold EStateM.bind
  rw [take_apply]
  rcases h.scan_cases spelled.kind_ne_eof with
    ⟨e, rfl, rfl, hscan⟩ | ⟨token, cursor, rest, rfl, hscan, h₁⟩
  · rw [hscan]
    exact .fault rfl (by rw [h.taken]) (.node .identifier (.cons (.leaf _ path spelled) .nil))
      (List.prefix_refl _)
  · rw [hscan]
    simp only [hpayload]
    rw [show reader.current = .identifier path from spelled] at h₁ ⊢
    exact afterName_outcome hargument h₁ (by simpa using hl)

theorem reads_primary {inner : ReadM Expr} {n : Nat}
    (hinner : Reads keywords fault n Grammar.expression (fun e b => b = e) inner) :
    Reads keywords fault (n + 1) .primary (fun e b => b = e)
      (primary keywords inner (n + 1)) := by
  intro us ts reader h hl
  obtain ⟨rest, rfl⟩ := h.exists_cons
  by_cases hk : reader.current.kind ∈ primaryKinds
  · simp only [primaryKinds, List.mem_cons, List.not_mem_nil, or_false] at hk
    rw [primary_apply]
    rcases hk with hk | hk | hk
    · obtain ⟨value, spelled⟩ := h.exists_spelled hk (by decide)
      refine Outcome.node .constant hk (by simp [hk]) ?_
      rw [hk]
      refine Outcome.bind (take_outcome h spelled) (closes_terminal _ _ _) ⟨.nil⟩
        fun d token rest₁ reader₁ _ htoken h₁ => ?_
      obtain ⟨lexeme, hcurrent⟩ := spelled
      obtain ⟨hvalue, rfl⟩ := htoken
      have hpayload : reader.current.payload = .constant value := congrArg Token.payload hcurrent
      rw [hvalue, hpayload]
      exact Outcome.pure rfl h₁
    · obtain ⟨path, spelled⟩ := h.exists_spelled hk (by decide)
      rw [hk]
      exact identifierOrCall_outcome hinner h spelled hl
    · refine Outcome.node .group hk (by simp [hk]) ?_
      rw [hk]
      exact parens_outcome (fun e => e) hinner (fun t ht => expression_follows (by simp [ht]))
        (fun _ _ => id) h hk hl
  · rw [primary_eq_throw keywords inner (n + 1) hk]
    obtain ⟨filler⟩ := nonempty_nonterminal .primary
    refine .offence [] _ rfl (by rwa [List.append_nil]) filler List.nil_prefix fun d hd => ?_
    exact hk (d.begins_primary.kind_mem hd)

/-- With enough fuel an expression is read as the grammar says. -/
theorem reads_expressionWithin (n : Nat) :
    Reads keywords fault n Grammar.expression (fun e b => b = e)
      (expressionWithin keywords (n + 1)) := by
  induction n with
  | zero => exact reads_zero
  | succ n ih =>
    exact reads_level (List.suffix_refl _) (reads_unaryChain (reads_primary ih) _ (Nat.le_refl _))

end Formulas.Reader
