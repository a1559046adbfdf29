import Formulas.Host.Change
import Formulas.Proofs.Dictionary

/-! What a change does to a host, seen from one name. A change either comes about under all names
that it concerns, or fails at a name that is taken. Main statements: `function?_of_change`,
`property?_of_change`, `clash_of_change`, `not_clash_of_change`. -/
namespace Formulas

/-- What a change does under one name. -/
inductive Effect (α : Type u) where
  | keep
  | declare (a : α)
  | remove

/-- What is found under a name after a change that comes about. -/
def Effect.apply {α : Type u} : Effect α → Option α → Option α
  | .keep, found => found
  | .declare a, _ => some a
  | .remove, _ => none

namespace Host

/-- The host after changes one after the other. A change that fails leaves it as it is. -/
def after (host : Host) (changes : List Change) : Host :=
  changes.foldl (fun host c => (host.change c).toOption.getD host) host

namespace Change

/-- What a change does to the function of a name. -/
def onFunction (name : String) : Change → Effect Function
  | .declareFunction other f => if name = other then .declare f else .keep
  | .removeFunction other => if name = other then .remove else .keep
  | .declareStandard => ((Standard.functions.lookup name).map .declare).getD .keep
  | .declareProperty .. | .removeProperty _ => .keep

/-- What a change does to the property of a name. -/
def onProperty (name : String) : Change → Effect Property
  | .declareProperty other p => if name = other then .declare p else .keep
  | .removeProperty other => if name = other then .remove else .keep
  | .declareFunction .. | .removeFunction _ | .declareStandard => .keep

theorem onFunction_eq_declare_iff {name : String} {c : Change} {f : Function} :
    c.onFunction name = .declare f ↔ c = .declareFunction name f ∨
      c = .declareStandard ∧ Standard.functions.lookup name = some f := by
  cases c with
  | declareFunction other g =>
    by_cases h : name = other
    · simp [onFunction, h]
    · simp [onFunction, h, Ne.symm h]
  | removeFunction other => by_cases h : name = other <;> simp [onFunction, h]
  | declareStandard => cases h : Standard.functions.lookup name <;> simp [onFunction, h]
  | declareProperty | removeProperty => simp [onFunction]

theorem onProperty_eq_declare_iff {name : String} {c : Change} {p : Property} :
    c.onProperty name = .declare p ↔ c = .declareProperty name p := by
  cases c with
  | declareProperty other q =>
    by_cases h : name = other
    · simp [onProperty, h]
    · simp [onProperty, h, Ne.symm h]
  | removeProperty other => by_cases h : name = other <;> simp [onProperty, h]
  | declareFunction | removeFunction | declareStandard => simp [onProperty]

/-- The change is one of functions and not of properties. -/
def OfFunctions : Change → Prop
  | .declareFunction .. | .removeFunction _ | .declareStandard => True
  | .declareProperty .. | .removeProperty _ => False

end Change

/-- A name that a change would declare is taken. -/
inductive Clash (host : Host) (c : Change) : HostError → Prop
  | function {name : String} {f : Function} (declared : c.onFunction name = .declare f)
      (taken : (host.function? name).isSome) : Clash host c (.functionDeclared name)
  | property {name : String} {p : Property} (declared : c.onProperty name = .declare p)
      (taken : (host.property? name).isSome) : Clash host c (.propertyDeclared name)

variable {host changed : Host} {c : Change} {e : HostError} {name : String}

theorem declareFunction_eq_ok_iff {f : Function} : host.declareFunction name f = .ok changed ↔
    host.hasFunction name = false ∧
      { host with functions := host.functions.insert name f } = changed := by
  unfold declareFunction
  cases host.hasFunction name <;> simp

theorem declareFunction_eq_error_iff {f : Function} : host.declareFunction name f = .error e ↔
    host.hasFunction name = true ∧ .functionDeclared name = e := by
  unfold declareFunction
  cases host.hasFunction name <;> simp

theorem declareProperty_eq_ok_iff {p : Property} : host.declareProperty name p = .ok changed ↔
    host.hasProperty name = false ∧
      { host with properties := host.properties.insert name p } = changed := by
  unfold declareProperty
  cases host.hasProperty name <;> simp

theorem declareProperty_eq_error_iff {p : Property} : host.declareProperty name p = .error e ↔
    host.hasProperty name = true ∧ .propertyDeclared name = e := by
  unfold declareProperty
  cases host.hasProperty name <;> simp

theorem removeFunction_eq (host : Host) (name : String) : host.removeFunction name =
    (host.hasFunction name, { host with functions := host.functions.erase name }) := rfl

theorem removeProperty_eq (host : Host) (name : String) : host.removeProperty name =
    (host.hasProperty name, { host with properties := host.properties.erase name }) := rfl

theorem removeFunction_of_unknown (h : host.hasFunction name = false) :
    host.removeFunction name = (false, host) := by
  rw [removeFunction, Dictionary.remove_of_not_contains h]

theorem removeProperty_of_unknown (h : host.hasProperty name = false) :
    host.removeProperty name = (false, host) := by
  rw [removeProperty, Dictionary.remove_of_not_contains h]

/-- Declarations one after the other, up to the first one that fails. -/
def declareAll (fs : List (String × Function)) (host : Host) : Except HostError Host :=
  fs.foldlM (fun host (name, f) => host.declareFunction name f) host

variable {f : Function} {fs : List (String × Function)}

theorem declareAll_cons_of_ok (h : host.declareFunction name f = .ok changed) :
    declareAll ((name, f) :: fs) host = declareAll fs changed := by
  show host.declareFunction name f >>= declareAll fs = _
  rw [h]
  rfl

theorem declareAll_cons_of_error (h : host.declareFunction name f = .error e) :
    declareAll ((name, f) :: fs) host = .error e := by
  show host.declareFunction name f >>= declareAll fs = _
  rw [h]
  rfl

theorem declareAll_append (before after : List (String × Function)) (host : Host) :
    declareAll (before ++ after) host = declareAll before host >>= declareAll after :=
  List.foldlM_append

/-- Functions whose names are free and differ from each other can all be declared. -/
theorem exists_declared_all (hnodup : (fs.map Prod.fst).Nodup)
    (hfree : ∀ name ∈ fs.map Prod.fst, host.hasFunction name = false) :
    ∃ changed, declareAll fs host = .ok changed ∧ changed.properties = host.properties ∧
      ∀ name, changed.function? name = (fs.lookup name).or (host.function? name) := by
  induction fs generalizing host with
  | nil => exact ⟨host, rfl, rfl, fun name => rfl⟩
  | cons first fs ih =>
    obtain ⟨name, f⟩ := first
    rw [List.map_cons, List.nodup_cons] at hnodup
    rw [List.map_cons, List.forall_mem_cons] at hfree
    have hnext : host.declareFunction name f =
        .ok { host with functions := host.functions.insert name f } :=
      declareFunction_eq_ok_iff.mpr ⟨hfree.1, rfl⟩
    have hget (other : String) : (host.functions.insert name f).get? other =
        if other = name then some f else host.function? other :=
      Dictionary.get?_insert host.functions name f other
    -- The names that are left are free also after the first declaration.
    have hrest : ∀ other ∈ fs.map Prod.fst,
        ({ host with functions := host.functions.insert name f } : Host).hasFunction other =
          false := by
      intro other hother
      have hne : other ≠ name := fun h => hnodup.1 (h ▸ hother)
      rw [hasFunction, Dictionary.contains, hget, if_neg hne]
      exact hfree.2 other hother
    obtain ⟨changed, hchanged, hproperties, hfunctions⟩ := ih hnodup.2 hrest
    refine ⟨changed, ?_, hproperties, fun other => ?_⟩
    · rw [declareAll_cons_of_ok hnext]
      exact hchanged
    · rw [hfunctions, function?, hget, Dictionary.lookup_cons_eq_ite]
      by_cases hother : other = name
      · have habsent : fs.lookup name = none := by
          rw [← Option.not_isSome_iff_eq_none, Dictionary.isSome_lookup_iff]
          exact hnodup.1
        simp [hother, habsent]
      · rw [if_neg hother, if_neg hother]

theorem nodup_standard_names : Standard.names.Nodup := by
  decide +kernel

theorem isSome_lookup_standard_iff :
    (Standard.functions.lookup name).isSome ↔ name ∈ Standard.names :=
  Dictionary.isSome_lookup_iff Standard.functions

/-- Only a name that is taken at the beginning stands in the way of the standard functions. If there
is none they are all declared, so that no host is left with a part of them. -/
theorem declareStandard_cases (host : Host) :
    (∃ name, Standard.names.find? host.hasFunction = some name ∧
      host.declareStandard = .error (.functionDeclared name)) ∨
    (∀ name ∈ Standard.names, host.hasFunction name = false) ∧
      ∃ changed, host.declareStandard = .ok changed ∧ changed.properties = host.properties ∧
        ∀ name, changed.function? name =
          (Standard.functions.lookup name).or (host.function? name) := by
  rw [declareStandard]
  cases hfind : Standard.names.find? host.hasFunction with
  | some name => exact .inl ⟨name, rfl, rfl⟩
  | none =>
    have hfree : ∀ name ∈ Standard.names, host.hasFunction name = false := by
      simpa using List.find?_eq_none.mp hfind
    exact .inr ⟨hfree, exists_declared_all nodup_standard_names hfree⟩

theorem of_declareStandard (h : host.declareStandard = .ok changed) :
    (∀ name ∈ Standard.names, host.hasFunction name = false) ∧
      changed.properties = host.properties ∧
      ∀ name, changed.function? name =
        (Standard.functions.lookup name).or (host.function? name) := by
  rcases host.declareStandard_cases with ⟨_, -, herror⟩ | ⟨hfree, next, hnext, heffect⟩
  · cases herror.symm.trans h
  · obtain rfl : next = changed := Except.ok.inj (hnext.symm.trans h)
    exact ⟨hfree, heffect⟩

theorem properties_of_change (h : host.change c = .ok changed) (hc : c.OfFunctions) :
    changed.properties = host.properties := by
  cases c with
  | declareFunction name f =>
    obtain ⟨-, rfl⟩ := declareFunction_eq_ok_iff.mp h
    rfl
  | removeFunction name =>
    obtain rfl : (host.removeFunction name).2 = changed := Except.ok.inj h
    rfl
  | declareStandard =>
    obtain ⟨-, hproperties, -⟩ := of_declareStandard h
    exact hproperties
  | declareProperty | removeProperty => exact hc.elim

theorem functions_of_change (h : host.change c = .ok changed) (hc : ¬ c.OfFunctions) :
    changed.functions = host.functions := by
  cases c with
  | declareFunction | removeFunction | declareStandard => exact absurd trivial hc
  | declareProperty name p =>
    obtain ⟨-, rfl⟩ := declareProperty_eq_ok_iff.mp h
    rfl
  | removeProperty name =>
    obtain rfl : (host.removeProperty name).2 = changed := Except.ok.inj h
    rfl

theorem function?_of_change (h : host.change c = .ok changed) (name : String) :
    changed.function? name = (c.onFunction name).apply (host.function? name) := by
  cases c with
  | declareFunction other f =>
    obtain ⟨-, rfl⟩ := declareFunction_eq_ok_iff.mp h
    rw [function?, Dictionary.get?_insert, Change.onFunction]
    split <;> rfl
  | removeFunction other =>
    obtain rfl : (host.removeFunction other).2 = changed := Except.ok.inj h
    rw [function?, removeFunction_eq, Dictionary.get?_erase, Change.onFunction]
    split <;> rfl
  | declareStandard =>
    obtain ⟨-, -, hfunctions⟩ := of_declareStandard h
    rw [hfunctions, Change.onFunction]
    cases Standard.functions.lookup name <;> rfl
  | declareProperty | removeProperty =>
    rw [function?, functions_of_change h id]
    rfl

theorem property?_of_change (h : host.change c = .ok changed) (name : String) :
    changed.property? name = (c.onProperty name).apply (host.property? name) := by
  cases c with
  | declareProperty other p =>
    obtain ⟨-, rfl⟩ := declareProperty_eq_ok_iff.mp h
    rw [property?, Dictionary.get?_insert, Change.onProperty]
    split <;> rfl
  | removeProperty other =>
    obtain rfl : (host.removeProperty other).2 = changed := Except.ok.inj h
    rw [property?, removeProperty_eq, Dictionary.get?_erase, Change.onProperty]
    split <;> rfl
  | declareFunction | removeFunction | declareStandard =>
    rw [property?, properties_of_change h trivial]
    rfl

/-- A failure names what is taken. -/
theorem clash_of_change (h : host.change c = .error e) : Clash host c e := by
  cases c with
  | declareFunction name f =>
    obtain ⟨htaken, rfl⟩ := declareFunction_eq_error_iff.mp h
    exact .function (Change.onFunction_eq_declare_iff.mpr (.inl rfl)) htaken
  | declareProperty name p =>
    obtain ⟨htaken, rfl⟩ := declareProperty_eq_error_iff.mp h
    exact .property (Change.onProperty_eq_declare_iff.mpr rfl) htaken
  | declareStandard =>
    rcases host.declareStandard_cases with ⟨name, hfind, herror⟩ | ⟨-, _, hok, -⟩
    · obtain rfl : .functionDeclared name = e := Except.error.inj (herror.symm.trans h)
      have htaken : host.hasFunction name = true := List.find?_some hfind
      obtain ⟨f, hf⟩ := Option.isSome_iff_exists.mp
        (isSome_lookup_standard_iff.mpr (List.mem_of_find?_eq_some hfind))
      exact .function (Change.onFunction_eq_declare_iff.mpr (.inr ⟨rfl, hf⟩)) htaken
    · cases hok.symm.trans h
  | removeFunction | removeProperty => cases h

/-- What a change declares was free. -/
theorem not_clash_of_change (h : host.change c = .ok changed) (e : HostError) :
    ¬ Clash host c e := by
  intro hclash
  cases hclash with
  | @function name f declared taken =>
    have hfree : host.hasFunction name = false := by
      rcases Change.onFunction_eq_declare_iff.mp declared with rfl | ⟨rfl, hf⟩
      · exact (declareFunction_eq_ok_iff.mp h).1
      · obtain ⟨hfree, -⟩ := of_declareStandard h
        exact hfree name (isSome_lookup_standard_iff.mp (by rw [hf]; rfl))
    exact Bool.false_ne_true (hfree.symm.trans taken)
  | @property name p declared taken =>
    obtain rfl := Change.onProperty_eq_declare_iff.mp declared
    have hfree : host.hasProperty name = false := (declareProperty_eq_ok_iff.mp h).1
    exact Bool.false_ne_true (hfree.symm.trans taken)

theorem function?_eq_none_of_change (h : host.change c = .ok changed) {f : Function}
    (hdeclared : c.onFunction name = .declare f) : host.function? name = none :=
  Option.not_isSome_iff_eq_none.mp fun htaken =>
    not_clash_of_change h _ (.function hdeclared htaken)

theorem property?_eq_none_of_change (h : host.change c = .ok changed) {p : Property}
    (hdeclared : c.onProperty name = .declare p) : host.property? name = none :=
  Option.not_isSome_iff_eq_none.mp fun htaken =>
    not_clash_of_change h _ (.property hdeclared htaken)

end Host
end Formulas
