import Formulas.Proofs.Expr.Verdict
import Formulas.Proofs.Token.Seam

/-! Formulas are put together by putting their texts together. Main statement:
`read_composes`. -/
namespace Formulas

open Grammar Derivation Token

namespace Grammar.Derivation

/-- An expression in parentheses is an operand. -/
def group (d : Tree) : Derivation (.one (.nonterminal .unary)) :=
  node .plain (cons (node .group (cons (leaf .openParen () rfl)
    (cons d (cons (leaf .closeParen () rfl) nil)))) nil)

@[simp] theorem tokens_group (d : Tree) :
    d.group.tokens = .openParen :: (d.tokens ++ [.closeParen]) := by
  change ([Token.openParen] ++ (d.tokens ++ ([Token.closeParen] ++ []))) ++ [] = _
  simp

@[simp] theorem meaning_group (d : Tree) : d.group.meaning = d.meaning := rfl

def before (op : UnaryOp) (u : Derivation (.one (.nonterminal .unary))) :
    Derivation (.one (.nonterminal .unary)) :=
  node .prefixed (cons (leaf op.token op rfl) (cons u nil))

@[simp] theorem tokens_before (op : UnaryOp) (u : Derivation (.one (.nonterminal .unary))) :
    (before op u).tokens = op.token :: u.tokens := by
  change [op.token] ++ (u.tokens ++ []) = _
  simp

@[simp] theorem meaning_before (op : UnaryOp) (u : Derivation (.one (.nonterminal .unary))) :
    (before op u).meaning = Expr.unary op u.meaning := rfl

def call (name : String) (args : Derivation (.one (.nonterminal .arguments))) :
    Derivation (.one (.nonterminal .unary)) :=
  node .plain (cons (node .call (cons (leaf (.identifier name) name rfl)
    (cons (leaf .openParen () rfl) (cons args (cons (leaf .closeParen () rfl) nil))))) nil)

@[simp] theorem tokens_call (name : String) (args : Derivation (.one (.nonterminal .arguments))) :
    (call name args).tokens =
      .identifier name :: .openParen :: (args.tokens ++ [.closeParen]) := by
  change ([Token.identifier name] ++ ([Token.openParen] ++ (args.tokens ++
    ([Token.closeParen] ++ [])))) ++ [] = _
  simp

def arguments (d : Tree) (others : Derivation (.one (.nonterminal .moreArguments))) :
    Derivation (.one (.nonterminal .arguments)) :=
  node .someArguments (cons d (cons others nil))

@[simp] theorem tokens_arguments (d : Tree)
    (others : Derivation (.one (.nonterminal .moreArguments))) :
    (arguments d others).tokens = d.tokens ++ others.tokens := by
  change d.tokens ++ (others.tokens ++ []) = _
  simp

def moreArguments {mark : Token} (h : Terminal.delimiter.Spelled () mark) (d : Tree)
    (others : Derivation (.one (.nonterminal .moreArguments))) :
    Derivation (.one (.nonterminal .moreArguments)) :=
  node .nextArgument (cons (leaf mark () h) (cons d (cons others nil)))

@[simp] theorem tokens_moreArguments {mark : Token} (h : Terminal.delimiter.Spelled () mark)
    (d : Tree) (others : Derivation (.one (.nonterminal .moreArguments))) :
    (moreArguments h d others).tokens = mark :: (d.tokens ++ others.tokens) := by
  change [mark] ++ (d.tokens ++ (others.tokens ++ [])) = _
  simp

/-- An expression of tight operators is one of looser operators too. -/
theorem exists_binary_looser {kinds : List Kind}
    (d : Derivation (.one (.nonterminal (.binary kinds)))) (looser : List Kind) :
    ∃ e : Derivation (.one (.nonterminal (.binary (looser ++ kinds)))),
      e.tokens = d.tokens ∧ e.meaning = d.meaning := by
  induction looser with
  | nil => exact ⟨d, rfl, rfl⟩
  | cons kind looser ih =>
    obtain ⟨e, htokens, hmeaning⟩ := ih
    refine ⟨node (.chain kind (looser ++ kinds)) (cons e (cons (node (.finish _ _) nil) nil)), ?_,
      hmeaning⟩
    rw [← htokens]
    exact List.append_nil _

/-- An operand is an expression. -/
theorem exists_binary_of_unary (u : Derivation (.one (.nonterminal .unary))) (kinds : List Kind) :
    ∃ d : Derivation (.one (.nonterminal (.binary kinds))),
      d.tokens = u.tokens ∧ d.meaning = u.meaning := by
  have hlooser := exists_binary_looser (node .tightest (cons u nil)) kinds
  have htokens : (node .tightest (cons u nil)).tokens = u.tokens := List.append_nil _
  rw [List.append_nil, htokens] at hlooser
  exact hlooser

/-- Operands behind an operator each, folded onto what stands in front of them. -/
theorem exists_repetition (op : BinaryOp) {tighter : List Kind}
    (ds : List (Derivation (.one (.nonterminal (.binary tighter))))) :
    ∃ r : Derivation (.one (.nonterminal (.repetition op.kind tighter))),
      r.tokens = ds.flatMap (fun d => op.token :: d.tokens) ∧
        ∀ e, r.meaning e = ds.foldl (fun e d => Expr.binary op e d.meaning) e := by
  induction ds with
  | nil => exact ⟨node (.finish op.kind tighter) nil, rfl, fun e => rfl⟩
  | cons d ds ih =>
    obtain ⟨r, htokens, hmeaning⟩ := ih
    refine ⟨node (.step op.kind tighter)
      (cons (leaf op.token op ⟨rfl, rfl⟩) (cons d (cons r nil))), ?_, fun e => ?_⟩
    · show [op.token] ++ (d.tokens ++ (r.tokens ++ [])) = _
      simp [htokens]
    · exact hmeaning (Expr.binary op e d.meaning)

/-- A chain of one operator is an expression that leans to the left. -/
theorem exists_chain (op : BinaryOp) {tighter : List Kind}
    (first : Derivation (.one (.nonterminal (.binary tighter))))
    (more : List (Derivation (.one (.nonterminal (.binary tighter))))) :
    ∃ d : Derivation (.one (.nonterminal (.binary (op.kind :: tighter)))),
      d.tokens = first.tokens ++ more.flatMap (fun d => op.token :: d.tokens) ∧
        d.meaning = more.foldl (fun e d => Expr.binary op e d.meaning) first.meaning := by
  obtain ⟨r, htokens, hmeaning⟩ := exists_repetition op more
  refine ⟨node (.chain op.kind tighter) (cons first (cons r nil)), ?_, hmeaning first.meaning⟩
  show first.tokens ++ (r.tokens ++ []) = _
  rw [htokens, List.append_nil]

/-- Two operands with an operator between them are an expression. -/
theorem exists_binary_of_operator (op : BinaryOp) (a b : Derivation (.one (.nonterminal .unary)))
    {kinds : List Kind} (hk : op.kind ∈ kinds) :
    ∃ d : Derivation (.one (.nonterminal (.binary kinds))),
      d.tokens = a.tokens ++ op.token :: b.tokens ∧
        d.meaning = Expr.binary op a.meaning b.meaning := by
  obtain ⟨looser, tighter, rfl⟩ := List.append_of_mem hk
  obtain ⟨left, hl, hlm⟩ := exists_binary_of_unary a tighter
  obtain ⟨right, hr, hrm⟩ := exists_binary_of_unary b tighter
  obtain ⟨d, htokens, hmeaning⟩ := exists_chain op left [right]
  obtain ⟨e, hsame, hsame'⟩ := exists_binary_looser d looser
  refine ⟨e, ?_, ?_⟩
  · simp [hsame, htokens, hl, hr]
  · rw [hsame', ← hlm, ← hrm]
    exact hmeaning

end Grammar.Derivation

variable {text text₁ text₂ name : String} {f f₁ f₂ : Formula} {cs : List Char}

/-- A text with a tree consists of the tokens of a derivation of it. -/
theorem cut_of_read (h : Formula.read text = .ok f) :
    ∃ d : Tree, Cut text.toList d.tokens ∧ d.meaning = f.root := by
  obtain ⟨tiles, blanks, tail, tiling, hb, rfl | ⟨e, hfault⟩⟩ := Tiling.exists_complete text.toList
  · rw [List.append_nil] at tiling
    rcases derivation_or_unexpectedEnd (tiling.coming (fun p => coming_blanks p hb) 0) with
      ⟨d, hd, -, f', hf', hroot⟩ | ⟨-, hread⟩
    · obtain rfl := Except.ok.inj (hf'.symm.trans h)
      exact ⟨d, ⟨tiles, blanks, tiling, hb, hd.symm⟩, hroot.symm⟩
    · rw [hread] at h
      cases h
  · have hcoming := tiling.coming (fun p => coming_fault p hb hfault) 0
    obtain ⟨e', hread⟩ := exists_error_of_coming hcoming
    rw [hread] at h
    cases h

/-- A text that consists of the tokens of a derivation has its tree. -/
theorem read_of_cut (text : String) {d : Tree} (h : Cut text.toList d.tokens) :
    ∃ f, Formula.read text = .ok f ∧ f.root = d.meaning ∧
      f.identifiers = Expr.leaves d.meaning := by
  obtain ⟨tiles, tail, tiling, hb, htokens⟩ := h
  rcases derivation_or_unexpectedEnd (tiling.coming (fun p => coming_blanks p hb) 0) with
    ⟨d', -, only, f, hread, hroot⟩ | ⟨hnone, -⟩
  · obtain rfl := only d htokens.symm
    refine ⟨f, hread, hroot, ?_⟩
    rw [← hroot]
    exact Formula.identifiers_eq_leaves hread
  · exact absurd htokens.symm (hnone d)

/-- An operand alone is a text with its tree. -/
theorem read_of_operand (text : String) (u : Derivation (.one (.nonterminal .unary)))
    (h : Cut text.toList u.tokens) :
    ∃ f, Formula.read text = .ok f ∧ f.root = u.meaning ∧
      f.identifiers = Expr.leaves u.meaning := by
  obtain ⟨d, htokens, hmeaning⟩ : ∃ d : Tree, d.tokens = u.tokens ∧ d.meaning = u.meaning :=
    exists_binary_of_unary u levels
  rw [← htokens] at h
  rw [← hmeaning]
  exact read_of_cut text h

theorem Cut.parens {ts : List Token} (h : Cut cs ts) {rest : List Char} {us : List Token}
    (hrest : Cut rest us) :
    Cut ('(' :: (cs ++ ')' :: rest)) (.openParen :: (ts ++ .closeParen :: us)) := by
  have hclose : Cut (')' :: rest) (.closeParen :: us) :=
    .cons (Lexeme.of_mark closeParen_mem rest) hrest
  exact .cons (Lexeme.of_mark openParen_mem _) (h.append (breaks_of_mark closeParen_mem) hclose)

theorem read_binary (op : BinaryOp) (h₁ : Formula.read text₁ = .ok f₁)
    (h₂ : Formula.read text₂ = .ok f₂) :
    ∃ f, Formula.read ("(" ++ text₁ ++ ")" ++ op.symbol ++ "(" ++ text₂ ++ ")") = .ok f ∧
      f.root = .binary op f₁.root f₂.root ∧ f.identifiers = f₁.identifiers ++ f₂.identifiers := by
  obtain ⟨d₁, hcut₁, hroot₁⟩ := cut_of_read h₁
  obtain ⟨d₂, hcut₂, hroot₂⟩ := cut_of_read h₂
  obtain ⟨d, htokens, hmeaning⟩ : ∃ d : Tree,
      d.tokens = d₁.group.tokens ++ op.token :: d₂.group.tokens ∧
        d.meaning = Expr.binary op d₁.meaning d₂.meaning :=
    exists_binary_of_operator op d₁.group d₂.group (kind_mem_levels op)
  have hop := Cut.cons ((breaks_of_mark openParen_mem).lexeme_of_mem op.mem_words)
    (hcut₂.parens .nil)
  have hcut := hcut₁.parens hop
  obtain ⟨f, hread, hroot, hidentifiers⟩ :=
    read_of_cut ("(" ++ text₁ ++ ")" ++ op.symbol ++ "(" ++ text₂ ++ ")") (d := d)
      (by simpa [htokens] using hcut)
  rw [hmeaning, hroot₁, hroot₂] at hroot hidentifiers
  refine ⟨f, hread, hroot, ?_⟩
  rw [hidentifiers, Formula.identifiers_eq_leaves h₁, Formula.identifiers_eq_leaves h₂]
  simp [Expr.binary, Expr.leaves, Expr.leavesAll]

theorem read_unary (op : UnaryOp) (h₁ : Formula.read text₁ = .ok f₁) :
    ∃ f, Formula.read (op.symbol ++ "(" ++ text₁ ++ ")") = .ok f ∧
      f.root = .unary op f₁.root ∧ f.identifiers = f₁.identifiers := by
  obtain ⟨d, hcut₁, hroot₁⟩ := cut_of_read h₁
  have hcut := Cut.cons ((breaks_of_mark openParen_mem).lexeme_of_mem op.mem_words)
    (hcut₁.parens .nil)
  obtain ⟨f, hread, hroot, hidentifiers⟩ :=
    read_of_operand (op.symbol ++ "(" ++ text₁ ++ ")") (before op d.group) (by simpa using hcut)
  rw [meaning_before, meaning_group, hroot₁] at hroot hidentifiers
  refine ⟨f, hread, hroot, ?_⟩
  rw [hidentifiers, Formula.identifiers_eq_leaves h₁]
  simp [Expr.unary, Expr.leaves, Expr.leavesAll]

theorem read_group (h₁ : Formula.read text₁ = .ok f₁) :
    ∃ f, Formula.read ("(" ++ text₁ ++ ")") = .ok f ∧ f.root = f₁.root ∧
      f.identifiers = f₁.identifiers := by
  obtain ⟨d, hcut₁, hroot₁⟩ := cut_of_read h₁
  obtain ⟨f, hread, hroot, hidentifiers⟩ :=
    read_of_operand ("(" ++ text₁ ++ ")") d.group (by simpa using hcut₁.parens .nil)
  rw [meaning_group, hroot₁] at hroot hidentifiers
  exact ⟨f, hread, hroot, by rw [hidentifiers, Formula.identifiers_eq_leaves h₁]⟩

/-- The texts of arguments behind the first one, each with its mark in front of it. -/
def markedTexts : List (Char × String × Formula) → String
  | [] => ""
  | (mark, text, _) :: args => mark.toString ++ text ++ markedTexts args

/-- The texts of more arguments and a closing parenthesis begin with a break. -/
theorem exists_cut_markedTexts {args : List (Char × String × Formula)}
    (h : ∀ a ∈ args, a.1 ∈ [',', ';'] ∧ Formula.read a.2.1 = .ok a.2.2) :
    ∃ b cs, (markedTexts args).toList ++ [')'] = b :: cs ∧ Breaks b ∧
      ∃ d : Derivation (.one (.nonterminal .moreArguments)),
        Cut (b :: cs) (d.tokens ++ [.closeParen]) ∧ d.meaning = args.map fun a => a.2.2.root := by
  induction args with
  | nil =>
    refine ⟨')', [], rfl, breaks_of_mark closeParen_mem, node .lastArgument nil, ?_, rfl⟩
    exact .cons (Lexeme.of_mark closeParen_mem []) .nil
  | cons a args ih =>
    obtain ⟨mark, text, f⟩ := a
    obtain ⟨⟨hmark, hread⟩, hargs⟩ := List.forall_mem_cons.mp h
    obtain ⟨b, cs, hcs, hb, others, hcut, hmeaning⟩ := ih hargs
    obtain ⟨d, hd, hroot⟩ := cut_of_read hread
    have hrest := hd.append hb hcut
    obtain ⟨token, hdelimiter, htoken⟩ : ∃ token, Terminal.delimiter.Spelled () token ∧
        (mark, token) ∈ marks := by
      rcases List.mem_cons.mp hmark with rfl | hmark
      · exact ⟨.comma, .inl rfl, by simp [marks]⟩
      · obtain rfl := List.mem_singleton.mp hmark
        exact ⟨.semicolon, .inr rfl, by simp [marks]⟩
    refine ⟨mark, text.toList ++ b :: cs, ?_, breaks_of_mark htoken,
      moreArguments hdelimiter d others, ?_, ?_⟩
    · simp [markedTexts, hcs]
    · rw [tokens_moreArguments, List.cons_append, List.append_assoc]
      exact .cons (Lexeme.of_mark htoken _) hrest
    · change d.meaning :: others.meaning = _
      rw [hroot, hmeaning]
      rfl

theorem read_call (text : String) (cs : List Char) (hname : IsName name)
    (args : Derivation (.one (.nonterminal .arguments)))
    (hargs : Cut (cs ++ [')']) (args.tokens ++ [.closeParen]))
    (htext : text.toList = name.toList ++ '(' :: (cs ++ [')'])) :
    ∃ f, Formula.read text = .ok f ∧ f.root = .call name args.meaning ∧
      f.identifiers = Expr.leavesAll args.meaning := by
  have hcut := Cut.cons ((breaks_of_mark openParen_mem).lexeme_of_isName hname)
    (.cons (Lexeme.of_mark openParen_mem _) hargs)
  exact read_of_operand text (call name args) (by simpa [htext] using hcut)

/-- Formulas in parentheses can be operands and, without parentheses, arguments. The tree of the
whole is made of the trees of the parts, and the identifiers are those of the parts in a row. -/
theorem read_composes :
    (∀ (op : BinaryOp) (text₁ text₂ : String) (f₁ f₂ : Formula), Formula.read text₁ = .ok f₁ →
      Formula.read text₂ = .ok f₂ →
      ∃ f, Formula.read ("(" ++ text₁ ++ ")" ++ op.symbol ++ "(" ++ text₂ ++ ")") = .ok f ∧
        f.root = .binary op f₁.root f₂.root ∧ f.identifiers = f₁.identifiers ++ f₂.identifiers) ∧
    (∀ (op : UnaryOp) (text : String) (f₁ : Formula), Formula.read text = .ok f₁ →
      ∃ f, Formula.read (op.symbol ++ "(" ++ text ++ ")") = .ok f ∧
        f.root = .unary op f₁.root ∧ f.identifiers = f₁.identifiers) ∧
    (∀ (text : String) (f₁ : Formula), Formula.read text = .ok f₁ →
      ∃ f, Formula.read ("(" ++ text ++ ")") = .ok f ∧
        f.root = f₁.root ∧ f.identifiers = f₁.identifiers) ∧
    (∀ name, IsName name → ∃ f, Formula.read (name ++ "()") = .ok f ∧
      f.root = .call name [] ∧ f.identifiers = []) ∧
    (∀ name, IsName name → ∀ (text : String) (f₁ : Formula)
      (args : List (Char × String × Formula)), Formula.read text = .ok f₁ →
      (∀ a ∈ args, a.1 ∈ [',', ';'] ∧ Formula.read a.2.1 = .ok a.2.2) →
      ∃ f, Formula.read (name ++ "(" ++ text ++ markedTexts args ++ ")") = .ok f ∧
        f.root = .call name (f₁.root :: args.map fun a => a.2.2.root) ∧
        f.identifiers = f₁.identifiers ++ args.flatMap fun a => a.2.2.identifiers) := by
  refine ⟨fun op _ _ _ _ => read_binary op, fun op _ _ => read_unary op, fun _ _ => read_group,
    fun name hname => ?_, fun name hname text f₁ args h₁ hargs => ?_⟩
  · have hclose : Cut [')'] [.closeParen] := .cons (Lexeme.of_mark closeParen_mem []) .nil
    exact read_call _ [] hname (node .noArguments nil) hclose (by simp)
  · obtain ⟨d, hcut, hroot⟩ := cut_of_read h₁
    obtain ⟨b, cs, hcs, hb, others, hothers, hmeaning⟩ := exists_cut_markedTexts hargs
    have hjoined := hcut.append hb hothers
    rw [← hcs, ← List.append_assoc, ← List.append_assoc] at hjoined
    obtain ⟨f, hread, hf, hidentifiers⟩ :=
      read_call (name ++ "(" ++ text ++ markedTexts args ++ ")")
        (text.toList ++ (markedTexts args).toList) hname (Derivation.arguments d others)
        (by simpa using hjoined) (by simp)
    have hroots : (Derivation.arguments d others).meaning =
        f₁.root :: args.map fun a => a.2.2.root := by
      change d.meaning :: others.meaning = _
      rw [hroot, hmeaning]
      rfl
    have hleaves : (args.map fun a => a.2.2.root).flatMap Expr.leaves =
        args.flatMap fun a => a.2.2.identifiers := by
      rw [List.flatMap_map]
      refine List.flatMap_congr fun a ha => ?_
      rw [Formula.identifiers_eq_leaves (hargs a ha).2]
    refine ⟨f, hread, by rw [hf, hroots], ?_⟩
    rw [hidentifiers, hroots, Expr.leavesAll, Expr.leavesAll_eq_flatMap, hleaves,
      Formula.identifiers_eq_leaves h₁]

theorem read_sum_of_identifiers : ∃ f, Formula.read "(a)+(b)" = .ok f ∧
    f.root = .binary (.arithmetic .add) (.identifier "a") (.identifier "b") ∧
    f.identifiers = ["a", "b"] := by
  have ha : Formula.read "a" = .ok ⟨"a", .identifier "a", ["a"]⟩ := rfl
  have hb : Formula.read "b" = .ok ⟨"b", .identifier "b", ["b"]⟩ := rfl
  exact read_composes.1 (.arithmetic .add) "a" "b" _ _ ha hb

end Formulas
