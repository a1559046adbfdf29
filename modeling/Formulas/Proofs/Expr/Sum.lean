import Formulas.Proofs.Evaluation.Equation
import Formulas.Proofs.Expr.Printed
import Formulas.Proofs.Expr.Spacing

/-! Chains of plus signs: the reader leans them to the left, and from the first text on they join
plain texts instead of adding numbers. Main statement: `sums_join_from_first_text`. -/
namespace Formulas

open Grammar Derivation Token

/-! ### Values -/

namespace Value

def plus (a b : Value) : Value := (BinaryOp.arithmetic .add).apply a b

/-- The sum of values in a row, from left to right. -/
def sum (first : Value) (more : List Value) : Value := more.foldl plus first

variable {a b first : Value} {more : List Value}

theorem exists_text (h : a.isText) : ∃ s, a = .text s := by
  cases a with
  | text s => exact ⟨s, rfl⟩
  | _ => cases h

theorem plus_of_text (h : a.isText ∨ b.isText) : a.plus b = .text (a.plain ++ b.plain) :=
  if_pos ⟨rfl, h⟩

theorem plus_of_not_text (ha : ¬ a.isText) (hb : ¬ b.isText) :
    a.plus b = .number (Arithmetic.add.apply a.toNumber b.toNumber) :=
  if_neg fun h => h.2.elim ha hb

theorem sum_append (first : Value) (front back : List Value) :
    sum first (front ++ back) = sum (sum first front) back :=
  List.foldl_append

/-- A sum that has become a text stays one and grows by the plain texts. -/
theorem sum_text (s : String) (more : List Value) :
    sum (.text s) more = .text (s ++ String.join (more.map plain)) := by
  induction more generalizing s with
  | nil => simp [sum]
  | cons v more ih =>
    have hstep : plus (.text s) v = .text (s ++ v.plain) := plus_of_text (.inl rfl)
    show sum (plus (.text s) v) more = _
    rw [hstep, ih, List.map_cons, String.join_cons, String.append_assoc]

theorem not_isText_sum (hfirst : ¬ first.isText) (hmore : ∀ v ∈ more, ¬ v.isText) :
    ¬ (sum first more).isText := by
  induction more generalizing first with
  | nil => exact hfirst
  | cons v more ih =>
    obtain ⟨hv, hmore⟩ := List.forall_mem_cons.mp hmore
    refine ih ?_ hmore
    rw [plus_of_not_text hfirst hv]
    exact Bool.false_ne_true

theorem sum_of_text (h : first.isText) :
    sum first more = .text (String.join ((first :: more).map plain)) := by
  obtain ⟨s, rfl⟩ := exists_text h
  rw [sum_text, List.map_cons, String.join_cons]
  rfl

/-- The first text turns the sum of what stands in front of it into a text. -/
theorem sum_append_text {front back : List Value} (h : a.isText) :
    sum first (front ++ a :: back) =
      .text ((sum first front).plain ++ String.join ((a :: back).map plain)) := by
  have hturn : (sum first front).plus a = .text ((sum first front).plain ++ a.plain) :=
    plus_of_text (.inr h)
  rw [sum_append]
  show sum ((sum first front).plus a) back = _
  rw [hturn, sum_text, List.map_cons, String.join_cons, String.append_assoc]

end Value

/-! ### Texts -/

/-- What can stand between two plus signs, with the value that it has in a scope. -/
structure Addend (host : Host) (scope : Value) where
  text : String
  tree : Derivation (.one (.nonterminal (.binary [.multiplicative])))
  tokenized : Tokenized text tree.tokens
  value : Value
  evaluated : tree.meaning.evaluate host scope = .ok value

variable {host : Host} {scope : Value} {cs cs' : List Char} {ts ts' : List Token}

def Addend.expr (a : Addend host scope) : Expr := a.tree.meaning

theorem Cut.plus (h : Cut cs ts) (h' : Cut cs' ts') :
    Cut (cs ++ " + ".toList ++ cs') (ts ++ (BinaryOp.arithmetic .add).token :: ts') := by
  have hblank : ∀ c ∈ [' '], isSpace c := List.forall_mem_singleton.mpr (by decide)
  have hbreaks : Breaks ' ' := breaks_space (by decide)
  have hlexeme : Lexeme "+".toList (' ' :: cs') (BinaryOp.arithmetic .add).token :=
    hbreaks.lexeme_of_mem (BinaryOp.arithmetic .add).mem_words
  have hsign : Cut (' ' :: '+' :: ' ' :: cs') ((BinaryOp.arithmetic .add).token :: ts') :=
    (Cut.cons hlexeme (h'.append_blanks hblank)).append_blanks hblank
  have hjoined := h.append hbreaks hsign
  rwa [List.append_assoc]

/-- The text of a sum: its operands with a plus sign between any two of them. -/
def sumText (first : Addend host scope) (more : List (Addend host scope)) : String :=
  " + ".intercalate ((first :: more).map Addend.text)

theorem cut_sumText (first : Addend host scope) (more : List (Addend host scope)) :
    Cut (sumText first more).toList
      (first.tree.tokens ++
        (more.map Addend.tree).flatMap fun d => (BinaryOp.arithmetic .add).token :: d.tokens) := by
  induction more generalizing first with
  | nil =>
    unfold sumText
    rw [List.map_singleton, String.intercalate_singleton]
    simpa using tokenized_iff_cut.mp first.tokenized
  | cons second more ih =>
    have hjoined := (tokenized_iff_cut.mp first.tokenized).plus (ih second)
    have htext : sumText first (second :: more) = first.text ++ " + " ++ sumText second more :=
      String.intercalate_cons_cons
    rw [htext, String.toList_append, String.toList_append]
    exact hjoined

/-- The reader makes a chain that leans to the left. -/
theorem read_sumText (first : Addend host scope) (more : List (Addend host scope)) :
    ∃ f, Formula.read (sumText first more) = .ok f ∧
      f.root = more.foldl (fun e a => .binary (.arithmetic .add) e a.expr) first.expr := by
  obtain ⟨d, htokens, hmeaning⟩ :=
    exists_chain (.arithmetic .add) first.tree (more.map Addend.tree)
  obtain ⟨e, hsame, hsame'⟩ : ∃ e : Tree, e.tokens = d.tokens ∧ e.meaning = d.meaning :=
    exists_binary_looser d [.logicalOr, .logicalAnd, .equality, .comparison]
  have hcut := cut_sumText first more
  rw [← htokens, ← hsame] at hcut
  obtain ⟨f, hread, hroot, -⟩ := read_of_cut _ hcut
  refine ⟨f, hread, ?_⟩
  rw [hroot, hsame', hmeaning]
  exact List.foldl_map

/-- A chain evaluates to the sum of its values. -/
theorem evaluate_chain {e : Expr} {v : Value} (he : e.evaluate host scope = .ok v)
    (more : List (Addend host scope)) :
    (more.foldl (fun e a => .binary (.arithmetic .add) e a.expr) e).evaluate host scope =
      .ok (Value.sum v (more.map Addend.value)) := by
  induction more generalizing e v with
  | nil => exact he
  | cons a more ih =>
    have hargs : [e, a.expr].mapM (Expr.evaluate host scope) = .ok [v, a.value] :=
      mapM_evaluate_eq_ok_iff.mpr (.cons he (.cons a.evaluated .nil))
    have hstep : (Expr.binary (.arithmetic .add) e a.expr).evaluate host scope =
        .ok (v.plus a.value) := by
      show (Expr.apply (.binary (.arithmetic .add)) [e, a.expr]).evaluate host scope = _
      rw [Expr.evaluate_apply, hargs]
      rfl
    exact ih hstep

/-- Operands with plus signs between them are summed up from left to right. If one of them is a
text, the sum is a text: the plain text of what stands in front of it, and the plain texts of itself
and of everything behind it. Without a text among them there is none in the end. -/
theorem sums_join_from_first_text :
    (∀ (host : Host) (scope : Value) (first : Addend host scope)
      (more : List (Addend host scope)), ∃ f, Formula.read (sumText first more) = .ok f ∧
        f.root = more.foldl (fun e a => .binary (.arithmetic .add) e a.expr) first.expr ∧
        f.evaluate host scope = .ok (Value.sum first.value (more.map Addend.value))) ∧
    (∀ (first : Value) (front : List Value) (v : Value) (back : List Value), v.isText →
      Value.sum first (front ++ v :: back) = .text
        ((Value.sum first front).plain ++ String.join ((v :: back).map Value.plain))) ∧
    (∀ (first : Value) (more : List Value), first.isText →
      Value.sum first more = .text (String.join ((first :: more).map Value.plain))) ∧
    ∀ (first : Value) (more : List Value), (∀ v ∈ first :: more, ¬ v.isText) →
      ¬ (Value.sum first more).isText := by
  refine ⟨fun host scope first more => ?_, fun first front v back => Value.sum_append_text,
    fun first more => Value.sum_of_text, fun first more hnone => ?_⟩
  · obtain ⟨f, hread, hroot⟩ := read_sumText first more
    refine ⟨f, hread, hroot, ?_⟩
    show f.root.evaluate host scope = _
    rw [hroot]
    exact evaluate_chain first.evaluated more
  · obtain ⟨hfirst, hmore⟩ := List.forall_mem_cons.mp hnone
    exact Value.not_isText_sum hfirst hmore

theorem exists_addend_literal (host : Host) (scope v : Value) {text : String}
    (h : Tokenized text [.constant text v]) :
    ∃ a : Addend host scope, a.text = text ∧ a.value = v := by
  obtain ⟨d, htokens, hmeaning⟩ := exists_binary_of_unary (literal text v) [.multiplicative]
  refine ⟨⟨text, d, ?_, v, ?_⟩, rfl, rfl⟩
  · rwa [htokens, tokens_literal]
  · rw [hmeaning]
    rfl

/-- Numbers in front of the text are added, numbers behind it are not. -/
theorem text_between_numbers : ∃ f, Formula.read "1 + 2 + 'a' + 3" = .ok f ∧
    f.evaluate .empty .undefined = .ok (.text "3a3") := by
  have hone : Tokenized "1" [.constant "1" (.int 1)] :=
    ⟨⟨⟨1, []⟩, .cons rfl (.cons rfl .nil)⟩, by simp [Token.constant]⟩
  have htwo : Tokenized "2" [.constant "2" (.int 2)] :=
    ⟨⟨⟨1, []⟩, .cons rfl (.cons rfl .nil)⟩, by simp [Token.constant]⟩
  have htext : Tokenized "'a'" [.constant "'a'" (.text "a")] :=
    ⟨⟨⟨3, []⟩, .cons rfl (.cons rfl .nil)⟩, by simp [Token.constant]⟩
  have hthree : Tokenized "3" [.constant "3" (.int 3)] :=
    ⟨⟨⟨1, []⟩, .cons rfl (.cons rfl .nil)⟩, by simp [Token.constant]⟩
  obtain ⟨one, ht1, hv1⟩ := exists_addend_literal .empty .undefined _ hone
  obtain ⟨two, ht2, hv2⟩ := exists_addend_literal .empty .undefined _ htwo
  obtain ⟨a, hta, hva⟩ := exists_addend_literal .empty .undefined _ htext
  obtain ⟨three, ht3, hv3⟩ := exists_addend_literal .empty .undefined _ hthree
  obtain ⟨hsums, hjoins, -⟩ := sums_join_from_first_text
  obtain ⟨f, hread, -, hvalue⟩ := hsums .empty .undefined one [two, a, three]
  have hjoined := hjoins (.int 1) [.int 2] (.text "a") [.int 3] rfl
  refine ⟨f, ?_, ?_⟩
  · rw [← hread]
    simp [sumText, ht1, ht2, hta, ht3]
  · rw [hvalue, List.map_cons, List.map_cons, List.map_singleton, hv1, hv2, hva, hv3]
    exact congrArg Except.ok hjoined

end Formulas
