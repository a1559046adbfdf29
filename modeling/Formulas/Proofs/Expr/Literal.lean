import Formulas.Proofs.Double.Order
import Formulas.Proofs.Evaluation.Postorder
import Formulas.Proofs.Expr.Spacing
import Formulas.Proofs.Number.Integer

/-! What the tree of a text is made of: the values that can be written down and the words that are
read as one name. Main statement: `tree_of_literals_and_names`. -/
namespace Formulas

open Grammar Token

/-- Without a sign, which a zero can have too. -/
inductive Double.Unsigned : Double → Prop
  | infinity : Unsigned (.infinity false)
  | finite (units : Nat) (h : Representable units) : Unsigned (.finite false units h)

/-- The values that can be written down in one token. -/
inductive Literal : Value → Prop
  | bool (b : Bool) : Literal (.bool b)
  | text {s : String} (quotes : ¬ ('"' ∈ s.toList ∧ '\'' ∈ s.toList)) : Literal (.text s)
  | int {n : Int64} (sign : 0 ≤ n.toInt) : Literal (.number (.int n))
  | double {x : Double} (sign : x.Unsigned) : Literal (.number (.double x))

namespace Double

theorem unsigned_nearest (num den : Nat) : (nearest false num den).Unsigned := by
  unfold nearest
  dsimp only
  split
  · exact .finite _ _
  · exact .infinity

theorem unsigned_ofNumeral (n : Numeral) : (ofNumeral false n).Unsigned := by
  have hzero : (zero false).Unsigned := .finite 0 _
  unfold ofNumeral
  split
  · exact hzero
  split
  · exact .infinity
  split
  · exact hzero
  · exact unsigned_nearest _ _

theorem Unsigned.isNan_eq {x : Double} (h : x.Unsigned) : x.isNan = false := by
  cases h <;> rfl

end Double

/-- A run of digits and dots has no sign. -/
theorem literal_of_read? {cs : List Char} {n : Number} (hrun : ∀ c ∈ cs, isNumberChar c)
    (hn : Number.read? cs = some n) : Literal (.number n) := by
  unfold Number.read? at hn
  rw [Numeral.integer?_run hrun] at hn
  split at hn
  · next i hi =>
    obtain rfl := Option.some.inj hn
    obtain ⟨value, hvalue, hi⟩ := Option.bind_eq_some_iff.mp hi
    obtain ⟨digits, -, rfl⟩ := Option.map_eq_some_iff.mp hvalue
    have hint : i.toInt = digits := Number.int64?_eq_some_iff.mp hi
    exact .int (by omega)
  · unfold Numeral.signed? at hn
    rw [Numeral.splitSign_run hrun] at hn
    obtain ⟨⟨negative, numeral⟩, hsigned, rfl⟩ := Option.map_eq_some_iff.mp hn
    obtain ⟨_, -, hpair⟩ := Option.map_eq_some_iff.mp hsigned
    obtain ⟨rfl, rfl⟩ := Prod.mk.inj hpair
    exact .double (Double.unsigned_ofNumeral _)

theorem Literal.same_self {value : Value} (h : Literal value) : value.same value = true := by
  cases h with
  | bool b => exact decide_eq_true rfl
  | text => exact decide_eq_true rfl
  | int => exact decide_eq_true rfl
  | double sign => exact Double.eq_self_iff.mpr sign.isNan_eq

/-! ### Tokens -/

/-- What a token means is a literal or a name, or it is none of a value and a path. -/
def Token.Readable (token : Token) : Prop :=
  match token.payload with
  | .constant value => Literal value
  | .path path => IsName path
  | .none | .binary _ | .unary _ => True

theorem Keywords.readable_of_mem : ∀ w ∈ words, w.2.Readable := by
  simp [words, word, Token.Readable, Literal.bool]

theorem isName_of_run {l rest : List Char} (free : Keywords.Absent (l ++ rest)) (ne : l ≠ [])
    (start : ∀ c ∈ l.head?, isIdentifierStart c) (run : Run isIdentifierRest l rest) :
    IsName (String.ofList l) := by
  have hkeyword : ∀ w ∈ Keywords.words, ¬ w.1.toList <+: l :=
    fun w hw hp => free w hw (hp.trans (List.prefix_append l rest))
  have htrue : ¬ "true".toList <+: l :=
    hkeyword (Keywords.word .constant "true" (.constant (.bool true))) (.head _)
  have hfalse : ¬ "false".toList <+: l :=
    hkeyword (Keywords.word .constant "false" (.constant (.bool false))) (.tail _ (.head _))
  unfold IsName
  rw [String.toList_ofList]
  exact ⟨ne, start, run.1, htrue, hfalse⟩

theorem Lexeme.readable {l rest : List Char} {token : Token} (h : Lexeme l rest token) :
    token.Readable := by
  cases h with
  | keyword longest => exact Keywords.readable_of_mem _ longest.1
  | number _ _ run _ value => exact literal_of_read? run.1 value
  | word free ne start run => exact isName_of_run free ne start run
  | @text q body _ _ quote first =>
    have hquote : q = '"' ∨ q = '\'' := by simpa [isQuote, ← Char.toNat_inj] using quote
    refine .text fun hboth => ?_
    rw [String.toList_ofList] at hboth
    rcases hquote with rfl | rfl
    · exact first hboth.1
    · exact first hboth.2

/-! ### Trees -/

namespace Expr

/-- What a node holds is a literal or a name. -/
def Node.Readable : Node → Prop
  | .constant value => Literal value
  | .identifier path => IsName path
  | .apply (.function name) _ => IsName name
  | .apply (.unary _) _ | .apply (.binary _) _ => True

def Readable (e : Expr) : Prop := ∀ node ∈ e.nodes, node.Readable

def AllReadable (es : List Expr) : Prop := ∀ node ∈ nodesAll es, node.Readable

theorem readable_constant {value : Value} (h : Literal value) : (constant value).Readable :=
  List.forall_mem_singleton.mpr h

theorem readable_identifier {path : String} (h : IsName path) : (identifier path).Readable :=
  List.forall_mem_singleton.mpr h

theorem readable_apply {operand : Operand} {args : List Expr} (hargs : AllReadable args)
    (hoperand : (Node.apply operand args.length).Readable) : (apply operand args).Readable :=
  List.forall_mem_append.mpr ⟨hargs, List.forall_mem_singleton.mpr hoperand⟩

theorem allReadable_nil : AllReadable [] := List.forall_mem_nil _

theorem allReadable_cons {e : Expr} {es : List Expr} (he : e.Readable) (hes : AllReadable es) :
    AllReadable (e :: es) :=
  List.forall_mem_append.mpr ⟨he, hes⟩

end Expr

namespace Grammar

def Terminal.Readable : (c : Terminal) → c.Meaning → Prop
  | constant, value => Literal value
  | identifier, path => IsName path
  | operator _, _ | prefixed, _ | openParen, _ | closeParen, _ | delimiter, _ => True

def Nonterminal.Readable : (s : Nonterminal) → s.Meaning → Prop
  | binary _, e | unary, e | primary, e => Expr.Readable e
  | repetition .., fold => ∀ left : Expr, left.Readable → Expr.Readable (fold left)
  | arguments, es | moreArguments, es => Expr.AllReadable es

def Symbol.Readable : (x : Symbol) → x.Meaning → Prop
  | terminal c, m => c.Readable m
  | nonterminal s, m => s.Readable m

def rowReadable : (xs : List Symbol) → rowMeaning xs → Prop
  | [], _ => True
  | x :: xs, (m, ms) => x.Readable m ∧ rowReadable xs ms

def Form.Readable : (form : Form) → form.Meaning → Prop
  | one x, m => x.Readable m
  | row xs, ms => rowReadable xs ms

theorem Terminal.Spelled.readable {c : Terminal} {m : c.Meaning} {token : Token}
    (h : c.Spelled m token) (htoken : token.Readable) : c.Readable m := by
  cases c with
  | constant =>
    obtain ⟨lexeme, rfl⟩ := h
    exact htoken
  | identifier =>
    obtain rfl := h
    exact htoken
  | operator | prefixed | openParen | closeParen | delimiter => trivial

/-- No production puts anything else into a tree than its parts hold. -/
theorem Production.readable_build {s : Nonterminal} (p : Production s) {m : rowMeaning p.symbols}
    (h : rowReadable p.symbols m) : s.Readable (p.build m) := by
  cases p with
  | chain kind tighter =>
    obtain ⟨left, fold, ⟨⟩⟩ := m
    exact h.2.1 left h.1
  | tightest =>
    exact h.1
  | finish kind tighter => exact fun left hleft => hleft
  | step kind tighter =>
    obtain ⟨op, right, fold, ⟨⟩⟩ := m
    intro left hleft
    refine h.2.2.1 _ (Expr.readable_apply ?_ trivial)
    exact Expr.allReadable_cons hleft (Expr.allReadable_cons h.2.1 Expr.allReadable_nil)
  | prefixed =>
    exact Expr.readable_apply (Expr.allReadable_cons h.2.1 Expr.allReadable_nil) trivial
  | plain => exact h.1
  | constant => exact Expr.readable_constant h.1
  | identifier => exact Expr.readable_identifier h.1
  | call => exact Expr.readable_apply h.2.2.1 h.1
  | group => exact h.2.1
  | noArguments => exact Expr.allReadable_nil
  | someArguments => exact Expr.allReadable_cons h.1 h.2.1
  | lastArgument => exact Expr.allReadable_nil
  | nextArgument => exact Expr.allReadable_cons h.2.1 h.2.2.1

theorem Derivation.readable_meaning {form : Form} (d : Derivation form)
    (h : ∀ token ∈ d.tokens, token.Readable) : form.Readable d.meaning := by
  induction d with
  | leaf token m spelled => exact spelled.readable (h token (List.mem_singleton.mpr rfl))
  | node p parts ih => exact p.readable_build (ih h)
  | nil => trivial
  | cons first others ihFirst ihOthers =>
    obtain ⟨hfirst, hothers⟩ := List.forall_mem_append.mp h
    exact ⟨ihFirst hfirst, ihOthers hothers⟩

end Grammar

/-! ### Equality -/

namespace Expr

mutual

/-- Only a constant can keep a tree from equalling itself. -/
theorem same_self : (e : Expr) → (∀ value, .constant value ∈ e.nodes → value.same value) →
    e.same e
  | .constant value, h => h value (.head _)
  | .identifier _, _ => decide_eq_true rfl
  | .apply _ args, h => by
    have hargs : sameAll args args :=
      sameAll_self args fun value hv => h value (List.mem_append_left _ hv)
    simp [same, hargs]

theorem sameAll_self : (es : List Expr) →
    (∀ value, .constant value ∈ nodesAll es → value.same value) → sameAll es es
  | [], _ => rfl
  | e :: es, h => by
    have he : e.same e := e.same_self fun value hv => h value (List.mem_append_left _ hv)
    have hes : sameAll es es :=
      sameAll_self es fun value hv => h value (List.mem_append_right _ hv)
    simp [sameAll, he, hes]

end

end Expr

theorem Formula.readable_of_read {source : String} {formula : Formula}
    (h : Formula.read source = .ok formula) : formula.root.Readable := by
  obtain ⟨d, hcut, hroot⟩ := cut_of_read h
  have htokens : ∀ token ∈ d.tokens, token.Readable := by
    intro token htoken
    obtain ⟨rest, lexeme⟩ := hcut.exists_lexeme token htoken
    exact lexeme.readable
  rw [← hroot]
  exact d.readable_meaning htokens

namespace Expr

mutual

theorem identifier_mem_nodes {path : String} :
    (e : Expr) → path ∈ e.leaves → .identifier path ∈ e.nodes
  | .constant _ => fun h => absurd h List.not_mem_nil
  | .identifier other => fun h => by
    rw [leaves, List.mem_singleton] at h
    rw [h, nodes, List.mem_singleton]
  | .apply _ args => fun h => by
    rw [leaves] at h
    rw [nodes]
    exact List.mem_append_left _ (identifier_mem_nodesAll args h)

theorem identifier_mem_nodesAll {path : String} :
    (es : List Expr) → path ∈ leavesAll es → .identifier path ∈ nodesAll es
  | [] => fun h => absurd h List.not_mem_nil
  | e :: es => fun h => by
    rw [leavesAll, List.mem_append] at h
    rw [nodesAll, List.mem_append]
    exact h.imp (identifier_mem_nodes e) (identifier_mem_nodesAll es)

end

end Expr

theorem Formula.isName_of_mem_identifiers {text path : String} {formula : Formula}
    (h : Formula.read text = .ok formula) (hpath : path ∈ formula.identifiers) : IsName path := by
  rw [Formula.identifiers_eq_leaves h] at hpath
  exact Formula.readable_of_read h _ (formula.root.identifier_mem_nodes hpath)

/-- All constants of a text are literals, and all that it looks up or calls has a name. So no tree
of a text holds a number that differs from itself. -/
theorem tree_of_literals_and_names {source : String} {formula : Formula}
    (h : Formula.read source = .ok formula) :
    (∀ value, .constant value ∈ formula.root.nodes → Literal value) ∧
    (∀ path, .identifier path ∈ formula.root.nodes → IsName path) ∧
    (∀ name arity, .apply (.function name) arity ∈ formula.root.nodes → IsName name) ∧
    formula.same formula ∧ ∀ again, Formula.read source = .ok again → formula.same again := by
  have hnodes : formula.root.Readable := Formula.readable_of_read h
  have hliteral : ∀ value, .constant value ∈ formula.root.nodes → Literal value :=
    fun value hv => hnodes _ hv
  have hroot : formula.root.same formula.root :=
    formula.root.same_self fun value hv => (hliteral value hv).same_self
  have hself : formula.same formula := by simp [Formula.same, hroot]
  refine ⟨hliteral, fun path hp => hnodes _ hp, fun name arity hn => hnodes _ hn, hself, ?_⟩
  intro again hagain
  rw [h] at hagain
  obtain rfl := Except.ok.inj hagain
  exact hself

/-- A string that holds the other quote, an integer and a fraction. -/
theorem text_of_literals_equals_itself : ∃ formula,
    Formula.read "f(\"it's\",2)<x*1.5" = .ok formula ∧
      formula.root.nodes.map Expr.Node.arity = [0, 0, 2, 0, 0, 2, 2] ∧
      (∀ value, .constant value ∈ formula.root.nodes → Literal value) ∧ formula.same formula := by
  have hread : (Formula.read "f(\"it's\",2)<x*1.5").toOption.map
      (fun formula => formula.root.nodes.map Expr.Node.arity) = some [0, 0, 2, 0, 0, 2, 2] := by
    decide +kernel
  cases h : Formula.read "f(\"it's\",2)<x*1.5" with
  | error => simp [h, Except.toOption] at hread
  | ok formula =>
    have harities : formula.root.nodes.map Expr.Node.arity = [0, 0, 2, 0, 0, 2, 2] := by
      simpa [h, Except.toOption] using hread
    obtain ⟨hliteral, -, -, hself, -⟩ := tree_of_literals_and_names h
    exact ⟨formula, rfl, harities, hliteral, hself⟩

end Formulas
