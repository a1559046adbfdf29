import Formulas.Proofs.Evaluation.Equation

/-! The order of evaluation: the nodes of a tree are applied from left to right, children before
their parent, until one fails. Main statement: `trace_follows_postorder`. -/
namespace Formulas

namespace Expr

/-- A node without its children. -/
inductive Node where
  | constant (value : Value)
  | identifier (path : String)
  | apply (operand : Operand) (arity : Nat)

/-- The number of children. -/
def Node.arity : Node → Nat
  | .constant _ | .identifier _ => 0
  | .apply _ n => n

mutual

/-- All nodes of a tree, from left to right and children before their parent. -/
def nodes : Expr → List Node
  | .constant value => [.constant value]
  | .identifier path => [.identifier path]
  | .apply operand args => nodesAll args ++ [.apply operand args.length]

def nodesAll : List Expr → List Node
  | [] => []
  | e :: es => e.nodes ++ nodesAll es

end
end Expr

open Formulas.Expr

/-- A function of the host that is called, with its arguments. -/
structure Call where
  name : String
  args : List Value

/-- A call of a function that the host has to know. It is noted before the function runs. -/
def Host.callNoted (host : Host) (name : String) (args : List Value) :
    ExceptT EvalError (StateM (List Call)) Value :=
  match host.function? name with
  | none => throw (.undeclaredFunction name)
  | some f => do
    modify (· ++ [⟨name, args⟩])
    match f args with
    | .ok value => return value
    | .error message => throw (.functionFailed name message)

/-- The value of an expression in a scope, with the calls of host functions on the way. -/
def Expr.trace (host : Host) (scope : Value) (e : Expr) : Except EvalError Value × List Call :=
  (e.evaluateIn host.callNoted (fun path => (host.resolve? scope path).getD .undefined)).run.run []

section
variable (host : Host) (scope : Value)

/-- What a node makes of the values of its children, and the calls of host functions for it. -/
inductive Applies : Node → List Value → List Call → Except EvalError Value → Prop
  | constant (value : Value) : Applies (.constant value) [] [] (.ok value)
  | identifier (path : String) :
      Applies (.identifier path) [] [] (.ok ((host.resolve? scope path).getD .undefined))
  | unary (op : UnaryOp) (n : Nat) (a : Value) :
      Applies (.apply (.unary op) n) [a] [] (.ok (op.apply a))
  | binary (op : BinaryOp) (n : Nat) (a b : Value) :
      Applies (.apply (.binary op) n) [a, b] [] (.ok (op.apply a b))
  | function {name : String} {f : Function} {args : List Value} {value : Value} (n : Nat)
      (known : host.function? name = some f) (result : f args = .ok value) :
      Applies (.apply (.function name) n) args [⟨name, args⟩] (.ok value)
  | failed {name message : String} {f : Function} {args : List Value} (n : Nat)
      (known : host.function? name = some f) (result : f args = .error message) :
      Applies (.apply (.function name) n) args [⟨name, args⟩]
        (.error (.functionFailed name message))
  | undeclared {name : String} (n : Nat) (args : List Value)
      (unknown : host.function? name = none) :
      Applies (.apply (.function name) n) args [] (.error (.undeclaredFunction name))
  | unaryCount (op : UnaryOp) (n : Nat) {args : List Value} (count : args.length ≠ 1) :
      Applies (.apply (.unary op) n) args [] (.error (.operandCount op.symbol 1 args.length))
  | binaryCount (op : BinaryOp) (n : Nat) {args : List Value} (count : args.length ≠ 2) :
      Applies (.apply (.binary op) n) args [] (.error (.operandCount op.symbol 2 args.length))

/-- Nodes are applied one after the other up to the first one that fails, each to the values that
its children have left. -/
inductive Applied : List Node → List Value → List Call → Except EvalError (List Value) → Prop
  | finish {values : List Value} : Applied [] values [] (.ok values)
  | step {node : Node} {nodes : List Node} {below args : List Value} {value : Value}
      {calls others : List Call} {r : Except EvalError (List Value)}
      (arity : args.length = node.arity) (first : Applies host scope node args calls (.ok value))
      (more : Applied nodes (below ++ [value]) others r) :
      Applied (node :: nodes) (below ++ args) (calls ++ others) r
  | stop {node : Node} {nodes : List Node} {below args : List Value} {calls : List Call}
      {e : EvalError} (arity : args.length = node.arity)
      (first : Applies host scope node args calls (.error e)) :
      Applied (node :: nodes) (below ++ args) calls (.error e)

end

variable {host : Host} {scope : Value} {α β : Type}

/-- With whatever was noted before, the result is `r`, and these calls are noted. -/
def Notes (m : ExceptT EvalError (StateM (List Call)) α) (r : Except EvalError α)
    (calls : List Call) : Prop :=
  ∀ log, m.run.run log = (r, log ++ calls)

namespace Notes

variable {m : ExceptT EvalError (StateM (List Call)) α}
  {f : α → ExceptT EvalError (StateM (List Call)) β} {calls others : List Call}

theorem pure (a : α) : Notes (Pure.pure a) (.ok a) [] := by
  intro log
  rw [List.append_nil]
  rfl

theorem throw (e : EvalError) : Notes (α := α) (MonadExcept.throw e) (.error e) [] := by
  intro log
  rw [List.append_nil]
  rfl

private theorem run_bind_apply (log : List Call) : (m >>= f).run.run log =
    match m.run.run log with
      | (.ok a, log) => (f a).run.run log
      | (.error e, log) => (.error e, log) := by
  change (match m.run.run log with | (r, log) => (ExceptT.bindCont f r).run log) = _
  cases h : m.run.run log with
  | mk r log => cases r <;> rfl

theorem bind {a : α} {r : Except EvalError β} (hm : Notes m (.ok a) calls)
    (hf : Notes (f a) r others) : Notes (m >>= f) r (calls ++ others) := by
  intro log
  rw [run_bind_apply, hm log]
  dsimp only
  rw [hf, List.append_assoc]

theorem bind_error {e : EvalError} (hm : Notes m (.error e) calls) :
    Notes (m >>= f) (.error e) calls := by
  intro log
  rw [run_bind_apply, hm log]

end Notes

namespace Applied

variable {front back nodes : List Node} {values mid : List Value} {calls others : List Call}
  {r : Except EvalError (List Value)}

theorem single {node : Node} {args : List Value} {r : Except EvalError Value}
    (arity : args.length = node.arity) (h : Applies host scope node args calls r) :
    Applied host scope [node] args calls (r.map fun value => [value]) := by
  cases r with
  | ok value =>
    rw [← List.append_nil calls, ← List.nil_append args]
    exact .step arity h .finish
  | error e =>
    rw [← List.nil_append args]
    exact .stop arity h

theorem append (h : Applied host scope front values calls (.ok mid))
    (h' : Applied host scope back mid others r) :
    Applied host scope (front ++ back) values (calls ++ others) r := by
  generalize hr : Except.ok mid = r₀ at h
  induction h with
  | finish =>
    cases hr
    exact h'
  | step arity first more ih =>
    rw [List.append_assoc]
    exact .step arity first (ih hr)
  | stop => cases hr

theorem append_error {e : EvalError} (h : Applied host scope front values calls (.error e))
    (back : List Node) : Applied host scope (front ++ back) values calls (.error e) := by
  generalize hr : Except.error e = r₀ at h
  induction h with
  | finish => cases hr
  | step arity first more ih => exact .step arity first (ih hr)
  | stop arity first =>
    cases hr
    exact .stop arity first

/-- What lies below the values is not touched. -/
theorem frame (h : Applied host scope nodes values calls r) (bottom : List Value) :
    Applied host scope nodes (bottom ++ values) calls (r.map (bottom ++ ·)) := by
  induction h with
  | finish => exact .finish
  | step arity first more ih =>
    rw [← List.append_assoc] at ih ⊢
    exact .step arity first ih
  | stop arity first =>
    rw [← List.append_assoc]
    exact .stop arity first

end Applied

/-- A call applies the node of the function. -/
theorem Host.callNoted_notes (name : String) (n : Nat) (args : List Value) :
    ∃ calls, Notes (host.callNoted name args) (host.call name args) calls ∧
      Applies host scope (.apply (.function name) n) args calls (host.call name args) := by
  unfold Host.callNoted Host.call
  cases hf : host.function? name with
  | none => exact ⟨[], .throw _, .undeclared n args hf⟩
  | some f =>
    have hnote : Notes (modify (· ++ [⟨name, args⟩])) (.ok ⟨⟩) [⟨name, args⟩] := fun _ => rfl
    dsimp only
    cases hr : f args with
    | ok value => exact ⟨[⟨name, args⟩], hnote.bind (.pure value), .function n hf hr⟩
    | error message => exact ⟨[⟨name, args⟩], hnote.bind (.throw _), .failed n hf hr⟩

/-- An operand applies the node that it stands in. -/
theorem Host.apply_notes (operand : Operand) (n : Nat) (args : List Value) :
    ∃ calls, Notes (operand.applyIn host.callNoted args) (host.apply operand args) calls ∧
      Applies host scope (.apply operand n) args calls (host.apply operand args) := by
  cases operand with
  | function name => exact Host.callNoted_notes name n args
  | unary op =>
    rcases args with _ | ⟨a, _ | ⟨b, args⟩⟩
    · exact ⟨[], .throw _, .unaryCount op n (by simp)⟩
    · exact ⟨[], .pure _, .unary op n a⟩
    · exact ⟨[], .throw _, .unaryCount op n (by simp)⟩
  | binary op =>
    rcases args with _ | ⟨a, _ | ⟨b, _ | ⟨c, args⟩⟩⟩
    · exact ⟨[], .throw _, .binaryCount op n (by simp)⟩
    · exact ⟨[], .throw _, .binaryCount op n (by simp)⟩
    · exact ⟨[], .pure _, .binary op n a b⟩
    · exact ⟨[], .throw _, .binaryCount op n (by simp)⟩

mutual

/-- An evaluation comes to what the nodes of the tree come to. -/
theorem Expr.evaluateIn_notes (host : Host) (scope : Value) : (e : Expr) → ∃ calls,
    Notes (e.evaluateIn host.callNoted fun path => (host.resolve? scope path).getD .undefined)
      (e.evaluate host scope) calls ∧
    Applied host scope e.nodes [] calls ((e.evaluate host scope).map fun value => [value])
  | .constant value => ⟨[], .pure value, .single rfl (.constant value)⟩
  | .identifier path => ⟨[], .pure _, .single rfl (.identifier path)⟩
  | .apply operand args => by
    obtain ⟨calls, hnotes, happlied⟩ := evaluateAllIn_notes host scope args
    rw [evaluate_apply, evaluateIn, nodes]
    cases h : args.mapM (evaluate host scope) with
    | error e =>
      rw [h] at hnotes happlied
      exact ⟨calls, hnotes.bind_error, happlied.append_error _⟩
    | ok values =>
      rw [h] at hnotes happlied
      -- The values of the children are all there is, and the node takes them.
      obtain ⟨others, hnotes', happlies⟩ := Host.apply_notes operand args.length values
      have harity : values.length = args.length := (mapM_evaluate_eq_ok_iff.mp h).length_eq.symm
      exact ⟨calls ++ others, hnotes.bind hnotes', happlied.append (.single harity happlies)⟩

theorem Expr.evaluateAllIn_notes (host : Host) (scope : Value) : (es : List Expr) → ∃ calls,
    Notes (evaluateAllIn host.callNoted
      (fun path => (host.resolve? scope path).getD .undefined) es)
      (es.mapM (evaluate host scope)) calls ∧
    Applied host scope (nodesAll es) [] calls (es.mapM (evaluate host scope))
  | [] => ⟨[], .pure [], .finish⟩
  | e :: es => by
    obtain ⟨calls, hnotes, happlied⟩ := evaluateIn_notes host scope e
    obtain ⟨others, hnotes', happlied'⟩ := evaluateAllIn_notes host scope es
    rw [List.mapM_cons, evaluateAllIn, nodesAll]
    cases h : evaluate host scope e with
    | error e =>
      rw [h] at hnotes happlied
      exact ⟨calls, hnotes.bind_error, happlied.append_error _⟩
    | ok value =>
      rw [h] at hnotes happlied
      -- The later children leave their values on top of that of the first one.
      have happlied' := happlied'.frame [value]
      cases h' : es.mapM (evaluate host scope) with
      | error e =>
        rw [h'] at hnotes' happlied'
        exact ⟨calls ++ others, hnotes.bind hnotes'.bind_error, happlied.append happlied'⟩
      | ok values =>
        rw [h'] at hnotes' happlied'
        refine ⟨calls ++ others, hnotes.bind ?_, happlied.append happlied'⟩
        rw [← List.append_nil others]
        exact hnotes'.bind (.pure _)

end

theorem Applies.unique {node : Node} {args : List Value} {calls calls' : List Call}
    {r r' : Except EvalError Value} (h : Applies host scope node args calls r)
    (h' : Applies host scope node args calls' r') : calls = calls' ∧ r = r' := by
  cases h <;> cases h' <;> simp_all

namespace Applied

variable {front back nodes : List Node} {values : List Value} {calls calls' : List Call}
  {r r' : Except EvalError (List Value)}

/-- The arity of a node tells how many of the values it takes. -/
theorem head_unique {node : Node} {below below' args args' : List Value}
    {r r' : Except EvalError Value} (hvalues : below ++ args = below' ++ args')
    (arity : args.length = node.arity) (arity' : args'.length = node.arity)
    (h : Applies host scope node args calls r) (h' : Applies host scope node args' calls' r') :
    below = below' ∧ calls = calls' ∧ r = r' := by
  obtain ⟨hbelow, rfl⟩ := List.append_inj' hvalues (arity.trans arity'.symm)
  exact ⟨hbelow, h.unique h'⟩

theorem unique (h : Applied host scope nodes values calls r)
    (h' : Applied host scope nodes values calls' r') : calls = calls' ∧ r = r' := by
  induction h generalizing calls' r' with
  | finish =>
    cases h'
    exact ⟨rfl, rfl⟩
  | @step node nodes below args value calls others r arity first more ih =>
    generalize hvalues : below ++ args = values at h'
    cases h' with
    | step arity' first' more' =>
      obtain ⟨rfl, rfl, hr⟩ := head_unique hvalues arity arity' first first'
      cases hr
      obtain ⟨rfl, rfl⟩ := ih more'
      exact ⟨rfl, rfl⟩
    | stop arity' first' =>
      obtain ⟨-, -, hr⟩ := head_unique hvalues arity arity' first first'
      cases hr
  | @stop node nodes below args calls e arity first =>
    generalize hvalues : below ++ args = values at h'
    cases h' with
    | step arity' first' more' =>
      obtain ⟨-, -, hr⟩ := head_unique hvalues arity arity' first first'
      cases hr
    | stop arity' first' =>
      obtain ⟨-, rfl, hr⟩ := head_unique hvalues arity arity' first first'
      cases hr
      exact ⟨rfl, rfl⟩

/-- A failure is the one of the first node that fails. -/
theorem error_iff {e : EvalError} : Applied host scope nodes values calls (.error e) ↔
    ∃ front node back below args before last, nodes = front ++ node :: back ∧
      Applied host scope front values before (.ok (below ++ args)) ∧
      args.length = node.arity ∧ Applies host scope node args last (.error e) ∧
      calls = before ++ last := by
  constructor
  · intro h
    generalize hr : Except.error e = r at h
    induction h with
    | finish => cases hr
    | step arity first more ih =>
      obtain ⟨front, node, back, below, args, before, last, rfl, hfront, harity, hlast, rfl⟩ :=
        ih hr
      exact ⟨_ :: front, node, back, below, args, _ ++ before, last, rfl,
        .step arity first hfront, harity, hlast, (List.append_assoc ..).symm⟩
    | @stop node nodes below args calls e arity first =>
      cases hr
      exact ⟨[], node, nodes, below, args, [], calls, rfl, .finish, arity, first, rfl⟩
  · rintro ⟨front, node, back, below, args, before, last, rfl, hfront, harity, hlast, rfl⟩
    exact hfront.append (.stop harity hlast)

/-- Where no node fails, the host knows all functions that are called. -/
theorem function?_ne_none {values' : List Value} {name : String} {arity : Nat}
    (h : Applied host scope nodes values calls (.ok values'))
    (hmem : .apply (.function name) arity ∈ nodes) : host.function? name ≠ none := by
  generalize hr : Except.ok values' = r at h
  induction h with
  | finish => cases hmem
  | step _ first more ih =>
    rcases List.mem_cons.mp hmem with hnode | hmem
    · cases hnode
      cases first with
      | function _ known => simp [known]
    · exact ih hmem hr
  | stop => cases hr

end Applied

/-- Noting the calls does not change the value. -/
theorem Expr.trace_eq (host : Host) (scope : Value) (e : Expr) : ∃ calls,
    e.trace host scope = (e.evaluate host scope, calls) ∧
      Applied host scope e.nodes [] calls ((e.evaluate host scope).map fun value => [value]) := by
  obtain ⟨calls, hnotes, happlied⟩ := evaluateIn_notes host scope e
  exact ⟨calls, hnotes [], happlied⟩

theorem Expr.trace_eq_iff (host : Host) (scope : Value) (e : Expr) (r : Except EvalError Value)
    (calls : List Call) : e.trace host scope = (r, calls) ↔
      Applied host scope e.nodes [] calls (r.map fun value => [value]) := by
  obtain ⟨calls', htrace, happlied⟩ := e.trace_eq host scope
  rw [htrace]
  constructor
  · intro h
    obtain ⟨rfl, rfl⟩ := Prod.mk.inj h
    exact happlied
  · intro h
    obtain ⟨rfl, hr⟩ := happlied.unique h
    cases r <;> cases he : e.evaluate host scope <;> simp_all [Except.map]

/-- The nodes of a tree are applied from left to right, children before their parent, until one
fails. Then the failure is the result, and the host functions called are those of the nodes up to
that one. -/
theorem trace_follows_postorder (host : Host) (scope : Value) (e : Expr) :
    (e.trace host scope).1 = e.evaluate host scope ∧
    (∀ value calls, e.trace host scope = (.ok value, calls) ↔
      Applied host scope e.nodes [] calls (.ok [value])) ∧
    (∀ error calls, e.trace host scope = (.error error, calls) ↔
      ∃ front node back below args before last, e.nodes = front ++ node :: back ∧
        Applied host scope front [] before (.ok (below ++ args)) ∧ args.length = node.arity ∧
        Applies host scope node args last (.error error) ∧ calls = before ++ last) ∧
    ∀ name arity, .apply (.function name) arity ∈ e.nodes → host.function? name = none →
      ∀ scope, ∃ error, e.evaluate host scope = .error error := by
  refine ⟨?_, fun value calls => ?_, fun error calls => ?_, fun name arity hmem hnone scope => ?_⟩
  · obtain ⟨calls, htrace, -⟩ := e.trace_eq host scope
    rw [htrace]
  · exact e.trace_eq_iff host scope (.ok value) calls
  · rw [← Applied.error_iff]
    exact e.trace_eq_iff host scope (.error error) calls
  · obtain ⟨calls, -, happlied⟩ := e.trace_eq host scope
    cases h : e.evaluate host scope with
    | error error => exact ⟨error, rfl⟩
    | ok value =>
      rw [h] at happlied
      exact absurd hnone (happlied.function?_ne_none hmem)

/-- The right side of the or is evaluated although the left one decides it. -/
theorem or_evaluates_undeclared : ∃ error,
    (Expr.binary .or (.constant (.bool true)) (.call "missing" [])).evaluate .empty .null =
      .error error :=
  (trace_follows_postorder .empty .undefined _).2.2.2 "missing" 0
    (by simp [Expr.binary, Expr.call, Expr.nodes, Expr.nodesAll]) rfl .null

end Formulas
