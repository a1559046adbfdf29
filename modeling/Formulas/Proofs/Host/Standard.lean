import Formulas.Proofs.Host.Change

/-! The standard functions declared on a host in place, where nothing takes a declaration back: a
loop that fails leaves what it has declared before. The check in front of the loop is what makes
the whole of it all or nothing. Main statement: `declareStandard_all_or_nothing`. -/
namespace Formulas.Host

/-- What is done to one host in place. A failure leaves the host as it is at that point. -/
abbrev HostM := EStateM HostError Host

def declareInPlace (name : String) (f : Function) : HostM Unit := do
  match (← get).declareFunction name f with
  | .ok changed => set changed
  | .error e => throw e

/-- Declarations one after the other, up to the first one that fails. -/
def declareAllInPlace : List (String × Function) → HostM Unit
  | [] => return
  | (name, f) :: fs => do
    declareInPlace name f
    declareAllInPlace fs

def declareStandardInPlace : HostM Unit := do
  match Standard.names.find? (← get).hasFunction with
  | some name => throw (.functionDeclared name)
  | none => declareAllInPlace Standard.functions

variable {host changed left : Host} {e : HostError} {name : String} {f : Function}

theorem declareInPlace_apply (name : String) (f : Function) (host : Host) :
    declareInPlace name f host =
      match host.declareFunction name f with
      | .ok changed => .ok () changed
      | .error e => .error e host := by
  show (match host.declareFunction name f with
    | .ok changed => set changed
    | .error e => throw e : HostM Unit) host = _
  cases host.declareFunction name f <;> rfl

theorem declareAllInPlace_cons (name : String) (f : Function) (fs : List (String × Function))
    (host : Host) :
    declareAllInPlace ((name, f) :: fs) host =
      match declareInPlace name f host with
      | .ok () changed => declareAllInPlace fs changed
      | .error e left => .error e left := by
  show EStateM.bind (declareInPlace name f) (fun _ => declareAllInPlace fs) host = _
  unfold EStateM.bind
  cases declareInPlace name f host <;> rfl

/-- The loop comes to its end, or stops at a name that is taken when it gets there. In that case
everything in front of this name has been declared and stays. -/
theorem declareAllInPlace_cases (fs : List (String × Function)) (host : Host) :
    (∃ changed, declareAllInPlace fs host = .ok () changed ∧
      declareAll fs host = .ok changed) ∨
    ∃ before name f after left, fs = before ++ (name, f) :: after ∧
      declareAll before host = .ok left ∧ left.hasFunction name ∧
      declareAllInPlace fs host = .error (.functionDeclared name) left := by
  induction fs generalizing host with
  | nil => exact .inl ⟨host, rfl, rfl⟩
  | cons first fs ih =>
    obtain ⟨name, f⟩ := first
    rw [declareAllInPlace_cons, declareInPlace_apply]
    cases hfirst : host.declareFunction name f with
    | error e =>
      obtain ⟨htaken, rfl⟩ := declareFunction_eq_error_iff.mp hfirst
      exact .inr ⟨[], name, f, fs, host, rfl, rfl, htaken, rfl⟩
    | ok next =>
      rcases ih next with ⟨changed, hrun, hdeclared⟩ | ⟨before, other, g, after, left, rfl, hrest⟩
      · exact .inl ⟨changed, hrun, (declareAll_cons_of_ok hfirst).trans hdeclared⟩
      · obtain ⟨hbefore, htaken, hrun⟩ := hrest
        exact .inr ⟨(name, f) :: before, other, g, after, left, rfl,
          (declareAll_cons_of_ok hfirst).trans hbefore, htaken, hrun⟩

theorem declareStandardInPlace_apply (host : Host) :
    declareStandardInPlace host =
      match Standard.names.find? host.hasFunction with
      | some name => .error (.functionDeclared name) host
      | none => declareAllInPlace Standard.functions host := by
  show (match Standard.names.find? host.hasFunction with
    | some name => throw (.functionDeclared name)
    | none => declareAllInPlace Standard.functions : HostM Unit) host = _
  cases Standard.names.find? host.hasFunction <;> rfl

/-- Once all names are free the loop meets none that is taken: it declares each name once. -/
theorem declareAllInPlace_standard
    (hfree : ∀ name ∈ Standard.names, host.hasFunction name = false) :
    ∃ changed, declareAllInPlace Standard.functions host = .ok () changed ∧
      changed.properties = host.properties ∧
      ∀ name, changed.function? name =
        (Standard.functions.lookup name).or (host.function? name) := by
  obtain ⟨changed, hdeclared, heffect⟩ := exists_declared_all nodup_standard_names hfree
  refine ⟨changed, ?_, heffect⟩
  rcases declareAllInPlace_cases Standard.functions host with
    ⟨changed', hrun, hdeclared'⟩ | ⟨before, name, f, after, left, hsplit, hbefore, htaken, -⟩
  · obtain rfl : changed = changed' := Except.ok.inj (hdeclared.symm.trans hdeclared')
    exact hrun
  · -- What is declared before the name does not take it, and it was free at the beginning.
    have herror : declareAll ((name, f) :: after) left = .error (.functionDeclared name) :=
      declareAll_cons_of_error (declareFunction_eq_error_iff.mpr ⟨htaken, rfl⟩)
    rw [hsplit, declareAll_append, hbefore] at hdeclared
    cases herror.symm.trans hdeclared

/-- In place or not, the outcome is the same, and a failure in place leaves the host as it was. -/
theorem declareStandardInPlace_eq (host : Host) :
    declareStandardInPlace host =
      match host.declareStandard with
      | .ok changed => .ok () changed
      | .error e => .error e host := by
  rw [declareStandardInPlace_apply, declareStandard]
  cases hfind : Standard.names.find? host.hasFunction with
  | some name => rfl
  | none =>
    have hfree : ∀ name ∈ Standard.names, host.hasFunction name = false := by
      simpa using List.find?_eq_none.mp hfind
    obtain ⟨changed, hrun, -⟩ := declareAllInPlace_standard hfree
    rcases declareAllInPlace_cases Standard.functions host with
      ⟨changed', hrun', hdeclared⟩ | ⟨_, _, _, _, _, -, -, -, herror⟩
    · show declareAllInPlace Standard.functions host =
        match declareAll Standard.functions host with
        | .ok changed => .ok () changed
        | .error e => .error e host
      rw [hdeclared, hrun']
    · cases hrun.symm.trans herror

theorem lookup_standard {p : String × Function} (hp : p ∈ Standard.functions) :
    Standard.functions.lookup p.1 = some p.2 :=
  (Dictionary.lookup_eq_some_iff_mem nodup_standard_names).mpr hp

theorem lookup_standard_eq_none (hname : name ∉ Standard.names) :
    Standard.functions.lookup name = none := by
  rw [← Option.not_isSome_iff_eq_none, isSome_lookup_standard_iff]
  exact hname

theorem function?_standard : ∀ p ∈ Standard.functions, Host.standard.function? p.1 = some p.2 := by
  intro p hp
  rcases Host.empty.declareStandard_cases with ⟨name, hfind, -⟩ | ⟨-, changed, hchanged, -, hget⟩
  · cases (List.find?_some hfind : Host.empty.hasFunction name = true)
  · have hstandard : Host.standard = changed := by
      unfold Host.standard
      rw [hchanged]
      rfl
    rw [hstandard, hget, lookup_standard hp]
    rfl

/-- Standard functions can be declared if and only if all their names are free. Then each of them
is found under its name and nothing else has changed. Otherwise the first name in the way is
reported and nothing has changed at all. A standard host, which starts with no names, has them
all. -/
theorem declareStandard_all_or_nothing (host : Host) :
    (declareStandardInPlace.run host =
      match host.declareStandard with
      | .ok changed => .ok () changed
      | .error e => .error e host) ∧
    ((∃ changed, declareStandardInPlace.run host = .ok () changed) ↔
      ∀ name ∈ Standard.names, host.hasFunction name = false) ∧
    (∀ changed, declareStandardInPlace.run host = .ok () changed →
      (∀ p ∈ Standard.functions, changed.function? p.1 = some p.2) ∧
      (∀ name, name ∉ Standard.names → changed.function? name = host.function? name) ∧
      changed.properties = host.properties) ∧
    (∀ e left, declareStandardInPlace.run host = .error e left →
      left = host ∧ ∃ before name after, Standard.names = before ++ name :: after ∧
        (∀ other ∈ before, host.hasFunction other = false) ∧ host.hasFunction name = true ∧
        e = .functionDeclared name) ∧
    ∀ p ∈ Standard.functions, Host.standard.function? p.1 = some p.2 := by
  have heq : declareStandardInPlace.run host = _ := declareStandardInPlace_eq host
  refine ⟨heq, ?_, ?_, ?_, function?_standard⟩
  · rw [heq]
    rcases host.declareStandard_cases with ⟨name, hfind, herror⟩ | ⟨hfree, changed, hchanged, -⟩
    · rw [herror]
      refine iff_of_false (fun ⟨_, h⟩ => by cases h) fun hfree => ?_
      have htaken : host.hasFunction name = true := List.find?_some hfind
      rw [hfree name (List.mem_of_find?_eq_some hfind)] at htaken
      cases htaken
    · rw [hchanged]
      exact iff_of_true ⟨changed, rfl⟩ hfree
  · intro changed hrun
    rw [heq] at hrun
    cases hdeclared : host.declareStandard with
    | error e => simp [hdeclared] at hrun
    | ok changed' =>
      obtain rfl : changed' = changed := by simpa [hdeclared] using hrun
      obtain ⟨-, hproperties, hget⟩ := of_declareStandard hdeclared
      refine ⟨fun p hp => ?_, fun name hname => ?_, hproperties⟩
      · rw [hget, lookup_standard hp]
        rfl
      · rw [hget, lookup_standard_eq_none hname]
        rfl
  · intro e left hrun
    rw [heq] at hrun
    rcases host.declareStandard_cases with ⟨name, hfind, herror⟩ | ⟨-, changed, hchanged, -⟩
    · obtain ⟨rfl, rfl⟩ : .functionDeclared name = e ∧ host = left := by simpa [herror] using hrun
      obtain ⟨htaken, before, after, hsplit, hfree⟩ := List.find?_eq_some_iff_append.mp hfind
      have hbefore : ∀ other ∈ before, host.hasFunction other = false := by simpa using hfree
      exact ⟨rfl, before, name, after, hsplit, hbefore, htaken, rfl⟩
    · simp [hchanged] at hrun

/-- Six standard names come before the one that is taken, and none of them is left declared. -/
theorem len_stands_in_the_way :
    declareStandardInPlace.run (Host.empty.after [.declareFunction "len" fun _ => .ok .null]) =
      .error (.functionDeclared "len")
        (Host.empty.after [.declareFunction "len" fun _ => .ok .null]) ∧
    ∃ before name after, Standard.names = before ++ name :: after ∧
      (∀ other ∈ before, (Host.empty.after
        [.declareFunction "len" fun _ => .ok .null]).hasFunction other = false) ∧
      HostError.functionDeclared "len" = .functionDeclared name := by
  have hrun : declareStandardInPlace.run
      (Host.empty.after [.declareFunction "len" fun _ => .ok .null]) =
        .error (.functionDeclared "len")
          (Host.empty.after [.declareFunction "len" fun _ => .ok .null]) := rfl
  obtain ⟨-, -, -, hfailed, -⟩ :=
    declareStandard_all_or_nothing (Host.empty.after [.declareFunction "len" fun _ => .ok .null])
  obtain ⟨-, before, name, after, hsplit, hfree, -, hname⟩ := hfailed _ _ hrun
  exact ⟨hrun, before, name, after, hsplit, hfree, hname⟩

end Formulas.Host
