import Formulas.Proofs.Evaluation.Congruence
import Formulas.Proofs.Host.Change

/-! What an expression asks its host for. Main statement: `evaluate_depends_on_names`. -/
namespace Formulas

open Host (Change segments)

/-- The names under which a tree looks for properties: its paths and the segments of these. -/
def Expr.lookups (e : Expr) : List String :=
  e.leaves.flatMap fun path => path :: segments path

variable {host host' : Host} {scope : Value}

theorem Host.foldlM_step?_congr {names : List String}
    (h : ∀ name ∈ names, host.property? name = host'.property? name) (v : Value) :
    names.foldlM (host.step? scope) v = names.foldlM (host'.step? scope) v := by
  induction names generalizing v with
  | nil => rfl
  | cons name names ih =>
    rw [List.forall_mem_cons] at h
    have hstep : host.step? scope v name = host'.step? scope v name := by
      rw [step?, step?, h.1]
    rw [List.foldlM_cons, List.foldlM_cons, hstep]
    cases host'.step? scope v name with
    | none => rfl
    | some next => exact ih h.2 next

/-- A path is first looked for as a whole and then segment by segment. -/
theorem Host.resolve?_congr {path : String}
    (h : ∀ name ∈ path :: segments path, host.property? name = host'.property? name) :
    host.resolve? scope path = host'.resolve? scope path := by
  rw [List.forall_mem_cons] at h
  rw [resolve?, resolve?, h.1, foldlM_step?_congr h.2]

theorem Expr.evaluate_eq_of_names {e : Expr}
    (hfunctions : ∀ name ∈ e.callees, host.function? name = host'.function? name)
    (hproperties : ∀ name ∈ e.lookups, host.property? name = host'.property? name) :
    e.evaluate host scope = e.evaluate host' scope := by
  refine evaluate_congr hfunctions fun path hpath => Host.resolve?_congr fun name hname => ?_
  exact hproperties name (List.mem_flatMap.mpr ⟨path, hpath, hname⟩)

/-- A change that keeps what a tree asks for is none to the tree, whether it comes about or not. -/
theorem Expr.evaluate_change {e : Expr} {c : Change}
    (hfunctions : ∀ name ∈ e.callees, c.onFunction name = .keep)
    (hproperties : ∀ name ∈ e.lookups, c.onProperty name = .keep) :
    e.evaluate ((host.change c).toOption.getD host) scope = e.evaluate host scope := by
  cases h : host.change c with
  | error => rfl
  | ok changed =>
    refine evaluate_eq_of_names (fun name hname => ?_) fun name hname => ?_
    · rw [Except.toOption, Option.getD_some, Host.function?_of_change h, hfunctions name hname]
      rfl
    · rw [Except.toOption, Option.getD_some, Host.property?_of_change h, hproperties name hname]
      rfl

/-- The functions that an expression calls, and the properties under its paths and under their
segments up to the first empty one, are all that it asks its host for. No change of other names
makes a difference to it. -/
theorem evaluate_depends_on_names (e : Expr) (host : Host) (scope : Value) :
    (∀ host' : Host, (∀ name ∈ e.callees, host.function? name = host'.function? name) →
      (∀ name ∈ e.lookups, host.property? name = host'.property? name) →
      e.evaluate host scope = e.evaluate host' scope) ∧
    ∀ changes : List Change,
      (∀ c ∈ changes, (∀ name ∈ e.callees, c.onFunction name = .keep) ∧
        ∀ name ∈ e.lookups, c.onProperty name = .keep) →
      e.evaluate (host.after changes) scope = e.evaluate host scope := by
  constructor
  · exact fun host' hfunctions hproperties => Expr.evaluate_eq_of_names hfunctions hproperties
  · intro changes hchanges
    induction changes generalizing host with
    | nil => rfl
    | cons c changes ih =>
      rw [List.forall_mem_cons] at hchanges
      have hfirst : e.evaluate ((host.change c).toOption.getD host) scope =
          e.evaluate host scope := Expr.evaluate_change hchanges.1.1 hchanges.1.2
      exact (ih _ hchanges.2).trans hfirst

/-- Neither another function nor a property behind an empty segment matters. -/
theorem names_behind_empty_segment :
    (Expr.call "max" [.identifier "a.b..c", .constant (.int 1)]).callees = ["max"] ∧
    (Expr.call "max" [.identifier "a.b..c", .constant (.int 1)]).lookups = ["a.b..c", "a", "b"] ∧
    (Expr.call "max" [.identifier "a.b..c", .constant (.int 1)]).evaluate
        (Host.standard.after [.removeFunction "min", .declareProperty "c" fun _ => .int 9]) .null =
      (Expr.call "max" [.identifier "a.b..c", .constant (.int 1)]).evaluate .standard .null := by
  have hcallees : (Expr.call "max" [.identifier "a.b..c", .constant (.int 1)]).callees =
      ["max"] := rfl
  have hlookups : (Expr.call "max" [.identifier "a.b..c", .constant (.int 1)]).lookups =
      ["a.b..c", "a", "b"] := by decide +kernel
  refine ⟨hcallees, hlookups, (evaluate_depends_on_names _ .standard .null).2 _ fun c hc => ?_⟩
  rw [hcallees, hlookups]
  rcases List.mem_cons.mp hc with rfl | hc
  · exact ⟨by simp [Change.onFunction], fun _ _ => rfl⟩
  · obtain rfl := List.mem_singleton.mp hc
    exact ⟨fun _ _ => rfl, by simp [Change.onProperty]⟩

end Formulas
