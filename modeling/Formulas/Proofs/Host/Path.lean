import Formulas.Proofs.Evaluation.Names

/-! Where a path leads, segment by segment. Main statements: `resolve?_trailing_dot` and
`resolve?_segment_further`. -/
namespace Formulas

namespace Text

variable {separator : Char} {cs part : List Char}

theorem split_eq_splitOn (separator : Char) (cs : List Char) :
    split separator cs = cs.splitOn separator := by
  induction cs with
  | nil => exact (List.splitOn_nil separator).symm
  | cons c cs ih =>
    have hne : cs.splitOn separator ≠ [] := List.splitOn_ne_nil separator cs
    rw [List.splitOn_cons_eq_if_modifyHead]
    unfold split
    rw [ih]
    by_cases hc : c = separator
    · simp [hc]
    · obtain ⟨first, others, hparts⟩ := List.exists_cons_of_ne_nil hne
      simp [hc, hparts]

theorem not_mem_of_mem_split (h : part ∈ split separator cs) : separator ∉ part := by
  rw [split_eq_splitOn] at h
  induction cs generalizing part with
  | nil =>
    rw [List.splitOn_nil, List.mem_singleton] at h
    simp [h]
  | cons c cs ih =>
    obtain ⟨first, others, hparts⟩ :=
      List.exists_cons_of_ne_nil (List.splitOn_ne_nil separator cs)
    rw [List.splitOn_cons_eq_if_modifyHead, hparts] at h
    rw [hparts] at ih
    by_cases hc : c = separator
    · have hpart : part = [] ∨ part ∈ first :: others := by simpa [hc] using h
      rcases hpart with hpart | hpart
      · simp [hpart]
      · exact ih hpart
    · have hpart : part = c :: first ∨ part ∈ others := by simpa [hc] using h
      rcases hpart with hpart | hpart
      · have hfirst : separator ∉ first := ih List.mem_cons_self
        simp [hpart, hfirst, Ne.symm hc]
      · exact ih (List.mem_cons_of_mem first hpart)

end Text

namespace Host

/-- What can stand between two dots of a path. -/
def IsSegment (name : String) : Prop := name ≠ "" ∧ '.' ∉ name.toList

/-- The path along some segments. -/
def pathOf (names : List String) : String := String.intercalate "." names

variable {host changed : Host} {scope : Value} {name path : String} {names : List String}
  {property : Property}

/-! ### Segments -/

theorem split_append_dot (front back : String) : Text.split '.' (front ++ "." ++ back).toList =
    Text.split '.' front.toList ++ Text.split '.' back.toList := by
  have htext : (front ++ "." ++ back).toList = front.toList ++ '.' :: back.toList := by simp
  rw [htext, Text.split_eq_splitOn, Text.split_eq_splitOn, Text.split_eq_splitOn]
  exact List.splitOn_append_cons_self front.toList back.toList

theorem split_pathOf (hne : names ≠ []) (hnames : ∀ name ∈ names, IsSegment name) :
    Text.split '.' (pathOf names).toList = names.map String.toList := by
  have hparts : names.map String.toList ≠ [] := by simpa using hne
  have hdots : ∀ part ∈ names.map String.toList, '.' ∉ part := by
    intro part hpart
    obtain ⟨name, hname, rfl⟩ := List.mem_map.mp hpart
    exact (hnames name hname).2
  have hpath : (pathOf names).toList = ['.'].intercalate (names.map String.toList) :=
    String.toList_intercalate
  rw [Text.split_eq_splitOn, hpath, List.splitOn_intercalate '.' hdots hparts]

theorem split_of_isSegment (h : IsSegment name) : Text.split '.' name.toList = [name.toList] := by
  rw [Text.split_eq_splitOn]
  exact List.splitOn_eq_singleton h.2

theorem segments_of_split (hparts : Text.split '.' path.toList = names.map String.toList)
    (hnames : ∀ name ∈ names, IsSegment name) : segments path = names := by
  have hne : ∀ part ∈ names.map String.toList, part ≠ [] := by
    intro part hpart
    obtain ⟨name, hname, rfl⟩ := List.mem_map.mp hpart
    simpa using (hnames name hname).1
  unfold segments
  rw [hparts, List.takeWhile_eq_self_iff.mpr (by simpa using hne)]
  simp

/-- The walk along a path ends in front of the dot behind it. -/
theorem segments_append_dot (path : String) : segments (path ++ ".") = segments path := by
  have hparts : Text.split '.' (path ++ ".").toList = Text.split '.' path.toList ++ [[]] := by
    simpa [Text.split] using split_append_dot path ""
  have hend : [([] : List Char)].takeWhile (· ≠ []) = [] := by simp
  unfold segments
  rw [hparts, List.takeWhile_append, hend]
  split
  · next hall =>
    have hprefix := List.takeWhile_prefix (l := Text.split '.' path.toList) (· ≠ [])
    rw [List.append_nil, hprefix.eq_of_length hall]
  · rfl

theorem not_dot_mem_of_mem_segments (h : name ∈ segments path) : '.' ∉ name.toList := by
  obtain ⟨part, hpart, rfl⟩ := List.mem_map.mp h
  have hsplit : part ∈ Text.split '.' path.toList := List.takeWhile_subset _ hpart
  simpa using Text.not_mem_of_mem_split hsplit

/-! ### Walks -/

theorem resolve?_of_property (h : host.property? path = some property) :
    host.resolve? scope path = some (property scope) := by
  unfold resolve?
  rw [h]

/-- A property of a path without dots is also found on the way along its only segment. So the walk
is all that matters as long as no property stands under a dotted path as a whole. -/
theorem resolve?_eq_walk (hne : path ≠ "")
    (h : '.' ∉ path.toList ∨ host.property? path = none) :
    host.resolve? scope path = (segments path).foldlM (host.step? scope) scope := by
  unfold resolve?
  cases hproperty : host.property? path with
  | none => rfl
  | some property =>
    have hdot : '.' ∉ path.toList := by simpa [hproperty] using h
    have hsegment : IsSegment path := ⟨hne, hdot⟩
    have hsegments : segments path = [path] :=
      segments_of_split (split_of_isSegment hsegment) (List.forall_mem_singleton.mpr hsegment)
    simp [hsegments, step?, hproperty]

/-- One segment further is one step further. -/
theorem resolve?_pathOf_append (hflat : ∀ name, host.hasProperty name → '.' ∉ name.toList)
    (hne : names ≠ []) (hnames : ∀ name ∈ names, IsSegment name) (hname : IsSegment name) :
    host.resolve? scope (pathOf names ++ "." ++ name) =
      (host.resolve? scope (pathOf names)).bind fun v => host.step? scope v name := by
  have hwalk : ∀ path, path ≠ "" →
      host.resolve? scope path = (segments path).foldlM (host.step? scope) scope := by
    intro path hpath
    refine resolve?_eq_walk hpath (or_iff_not_imp_right.mpr fun hproperty => ?_)
    exact hflat path (Option.isSome_iff_ne_none.mpr hproperty)
  have hsegments : segments (pathOf names) = names :=
    segments_of_split (split_pathOf hne hnames) hnames
  have hpath : pathOf names ≠ "" := by
    intro hempty
    rw [hempty] at hsegments
    exact hne hsegments.symm
  have hall : ∀ other ∈ names ++ [name], IsSegment other :=
    List.forall_mem_append.mpr ⟨hnames, List.forall_mem_singleton.mpr hname⟩
  have hsplit : Text.split '.' (pathOf names ++ "." ++ name).toList =
      (names ++ [name]).map String.toList := by
    rw [split_append_dot, split_pathOf hne hnames, split_of_isSegment hname, List.map_append]
    rfl
  rw [hwalk _ hpath, hwalk _ (by simp), segments_of_split hsplit hall, hsegments,
    List.foldlM_append]
  simp

theorem property?_of_declareProperty (h : host.declareProperty name property = .ok changed)
    (other : String) :
    changed.property? other = if other = name then some property else host.property? other := by
  obtain ⟨-, rfl⟩ := declareProperty_eq_ok_iff.mp h
  exact Dictionary.get?_insert host.properties name property other

/-- A walk never asks for a name with a dot. -/
theorem resolve?_of_declareProperty (h : host.declareProperty name property = .ok changed)
    (hdot : '.' ∈ name.toList) (hpath : path ≠ name) :
    changed.resolve? scope path = host.resolve? scope path := by
  refine resolve?_congr fun other hother => ?_
  have hne : other ≠ name := by
    intro heq
    subst heq
    rcases List.mem_cons.mp hother with hwhole | hsegment
    · exact hpath hwhole.symm
    · exact not_dot_mem_of_mem_segments hsegment hdot
  rw [property?_of_declareProperty h, if_neg hne]

end Host

open Host

/-- A dot behind a path is of no account, unless a property stands under the path together with that
dot: it wins, as a property of a whole path does. A path with dots inside that has a property of its
own is left out. -/
theorem resolve?_trailing_dot (host : Host) (scope : Value) {path : String} (hne : path ≠ "") :
    (∀ property, host.property? (path ++ ".") = some property →
      host.resolve? scope (path ++ ".") = some (property scope)) ∧
    (host.property? (path ++ ".") = none → '.' ∉ path.toList ∨ host.property? path = none →
      host.resolve? scope (path ++ ".") = host.resolve? scope path) := by
  refine ⟨fun property hproperty => resolve?_of_property hproperty, fun hnone hpath => ?_⟩
  have hdot : path ++ "." ≠ "" := by simp
  rw [resolve?_eq_walk hdot (.inr hnone), resolve?_eq_walk hne hpath, segments_append_dot]

/-- Properties of a segment and of the beginning of the path are not in the way. -/
theorem resolve?_computed_segment_dot : "user.age" ≠ "" ∧
    (Host.empty.after [.declareProperty "age" fun _ => .int 36,
      .declareProperty "user" fun _ => .null]).resolve? .undefined "user.age." = some (.int 36) := by
  have hne : "user.age" ≠ "" := by decide
  have hdot := (resolve?_trailing_dot (Host.empty.after [.declareProperty "age" fun _ => .int 36,
    .declareProperty "user" fun _ => .null]) .undefined hne).2 rfl (.inr rfl)
  exact ⟨hne, hdot.trans rfl⟩

/-- The dot belongs to the name of a property, or it keeps a property of the whole path from being
found. -/
theorem trailing_dot_matters :
    (Host.empty.after [.declareProperty "x." fun _ => .int 2]).resolve?
        (.record (.insert .empty "x" (.int 1))) "x." = some (.int 2) ∧
    (Host.empty.after [.declareProperty "x." fun _ => .int 2]).resolve?
        (.record (.insert .empty "x" (.int 1))) "x" = some (.int 1) ∧
    (Host.empty.after [.declareProperty "x.y" fun _ => .int 2]).resolve?
        (.record (.insert .empty "x" (.record (.insert .empty "y" (.int 1))))) "x.y." =
      some (.int 1) ∧
    (Host.empty.after [.declareProperty "x.y" fun _ => .int 2]).resolve?
        (.record (.insert .empty "x" (.record (.insert .empty "y" (.int 1))))) "x.y" =
      some (.int 2) :=
  ⟨rfl, rfl, rfl, rfl⟩

/-- As long as no property has a name with a dot, each segment leads one step further: to the property
of its name, whatever comes before it, and else to what is found there. A property under a name with
a dot makes a difference to the path of that name alone. -/
theorem resolve?_segment_further (host : Host) (scope : Value) :
    ((∀ name, host.hasProperty name → '.' ∉ name.toList) →
      ∀ names, names ≠ [] → (∀ name ∈ names, IsSegment name) → ∀ name, IsSegment name →
        (host.resolve? scope (pathOf names) = none →
          host.resolve? scope (pathOf names ++ "." ++ name) = none) ∧
        ∀ v, host.resolve? scope (pathOf names) = some v →
          (∀ property, host.property? name = some property →
            host.resolve? scope (pathOf names ++ "." ++ name) = some (property scope)) ∧
          (host.property? name = none →
            host.resolve? scope (pathOf names ++ "." ++ name) = v.get? name)) ∧
    ∀ name property, '.' ∈ name.toList →
      (host.hasProperty name = false →
        (host.after [.declareProperty name property]).resolve? scope name =
          some (property scope)) ∧
      ∀ path, path ≠ name →
        (host.after [.declareProperty name property]).resolve? scope path =
          host.resolve? scope path := by
  constructor
  · intro hflat names hne hnames name hname
    rw [resolve?_pathOf_append hflat hne hnames hname]
    refine ⟨fun hnone => by rw [hnone]; rfl, fun v hv => ?_⟩
    rw [hv, Option.bind_some, step?]
    constructor
    · intro property hproperty
      rw [hproperty]
    · intro hnone
      rw [hnone]
  · intro name property hdot
    have hafter : host.after [.declareProperty name property] =
        (host.declareProperty name property).toOption.getD host := rfl
    rw [hafter]
    cases hdeclare : host.declareProperty name property with
    | error e =>
      have htaken : host.hasProperty name = true := (declareProperty_eq_error_iff.mp hdeclare).1
      exact ⟨fun hfree => absurd (hfree.symm.trans htaken) Bool.false_ne_true, fun path _ => rfl⟩
    | ok changed =>
      have hproperty : changed.property? name = some property := by
        rw [property?_of_declareProperty hdeclare, if_pos rfl]
      exact ⟨fun _ => resolve?_of_property hproperty,
        fun path hpath => resolve?_of_declareProperty hdeclare hdot hpath⟩

/-- The second segment is a property, which starts again from the scope, and the third one is a place
in a list. Another property of the first two segments together is not found on this way. -/
theorem resolve?_item_of_computed_list :
    (∀ name, (Host.empty.after [.declareProperty "all" fun scope => scope]).hasProperty name →
      '.' ∉ name.toList) ∧
    (∀ name ∈ ["0", "all"], IsSegment name) ∧ IsSegment "1" ∧
    (Host.empty.after [.declareProperty "all" fun scope => scope]).resolve?
      (.list [.null, .int 7]) "0.all.1" = some (.int 7) ∧
    ((Host.empty.after [.declareProperty "all" fun scope => scope]).after
      [.declareProperty "0.all" fun _ => .null]).resolve?
        (.list [.null, .int 7]) "0.all.1" = some (.int 7) := by
  have hflat : ∀ name, (Host.empty.after
      [.declareProperty "all" fun scope => scope]).hasProperty name → '.' ∉ name.toList := by
    intro name hname
    have hget := Dictionary.get?_insert Dictionary.empty "all" (fun scope : Value => scope) name
    have hsome : (Dictionary.get? (.insert .empty "all" fun scope : Value => scope) name).isSome :=
      hname
    rw [hget] at hsome
    obtain rfl : name = "all" := by_contra fun hne => by simp [hne] at hsome
    decide
  have hnames : ∀ name ∈ ["0", "all"], IsSegment name := by simp [IsSegment]
  have hname : IsSegment "1" := by simp [IsSegment]
  obtain ⟨hfurther, hdotted⟩ := resolve?_segment_further
    (Host.empty.after [.declareProperty "all" fun scope => scope]) (.list [.null, .int 7])
  have hitem := ((hfurther hflat ["0", "all"] (List.cons_ne_nil _ _) hnames "1" hname).2
    (.list [.null, .int 7]) rfl).2 rfl
  have hother := (hdotted "0.all" (fun _ => .null) (by decide)).2 "0.all.1" (by decide)
  exact ⟨hflat, hnames, hname, hitem.trans rfl, hother.trans rfl⟩

end Formulas
