import Formulas.PrefixTree

/-! Prefix trees as finite maps from spellings. The longest match is stated in terms of the map, so
that nothing else has to look into a tree. Main statements: `longest?_eq_some_iff` and
`add_empty_is_never_found`. -/
namespace Formulas.PrefixTree

variable {α : Type u}

/-- What is stored for exactly this spelling. -/
def get? : PrefixTree α → List Char → Option α
  | leaf stored, [] => stored
  | leaf _, _ :: _ => none
  | branch _ _ siblings, [] => siblings.get? []
  | branch d below siblings, c :: cs =>
    if c = d then below.get? cs else siblings.get? (c :: cs)

@[simp] theorem get?_empty (s : List Char) : (empty : PrefixTree α).get? s = none := by
  cases s <;> rfl

@[simp] theorem get?_nil (tree : PrefixTree α) : tree.get? [] = tree.stored? := by
  induction tree with
  | leaf => rfl
  | branch d below siblings _ ih => exact ih

theorem get?_branch (d : Char) (below siblings : PrefixTree α) (c : Char) (cs : List Char) :
    (branch d below siblings).get? (c :: cs) =
      if c = d then below.get? cs else siblings.get? (c :: cs) := rfl

theorem get?_single (a : α) (cs s : List Char) :
    (single a cs).get? s = if s = cs then some a else none := by
  induction cs generalizing s with
  | nil => cases s <;> rfl
  | cons c cs ih =>
    cases s with
    | nil => rfl
    | cons b s =>
      rw [single, get?_branch, ih, get?_empty]
      grind

theorem get?_insert (tree : PrefixTree α) (a : α) (cs s : List Char) :
    (tree.insert a cs).get? s = if s = cs then some a else tree.get? s := by
  induction tree generalizing cs s with
  | leaf stored =>
    cases cs with
    | nil => cases s <;> rfl
    | cons c cs =>
      cases s with
      | nil => rfl
      | cons b s =>
        rw [insert, get?_branch, get?_single]
        grind [get?]
  | branch d below siblings ihb ihs =>
    cases cs with
    | nil =>
      cases s with
      | nil => exact ihs [] []
      | cons b s =>
        rw [insert, get?_branch, get?_branch, ihs]
        grind
    | cons c cs =>
      cases s with
      | nil =>
        rw [insert]
        split
        · rfl
        · exact ihs (c :: cs) []
      | cons b s =>
        rw [insert]
        split
        · rw [get?_branch, get?_branch, ihb]
          grind
        · rw [get?_branch, get?_branch, ihs]
          grind

/-- A spelling that is added has the new value, and all others keep theirs. -/
theorem get?_add (tree : PrefixTree α) (spelling : String) (a : α) (s : List Char) :
    (tree.add spelling a).get? s = if s = spelling.toList then some a else tree.get? s :=
  get?_insert tree a spelling.toList s

/-- After a row of additions the last value of a spelling counts. -/
theorem get?_foldl_add (adds : List (String × α)) (tree : PrefixTree α) (s : List Char) :
    (adds.foldl (fun tree (spelling, a) => tree.add spelling a) tree).get? s =
      ((adds.reverse.find? fun w => w.1.toList = s).map Prod.snd).or (tree.get? s) := by
  induction adds generalizing tree with
  | nil => rfl
  | cons w adds ih =>
    rw [List.foldl_cons, ih, get?_add, List.reverse_cons, List.find?_append]
    by_cases hw : s = w.1.toList
    · simp [← hw]
    · simp [hw, Ne.symm hw]

/-- The longest match of a map: a match behind the first character comes before the empty one. -/
private def longestIn (f : List Char → Option α) : List Char → Option α
  | [] => f []
  | c :: cs => (longestIn (fun s => f (c :: s)) cs).or (f [])

private theorem longestIn_none (cs : List Char) :
    longestIn (fun _ => none) cs = (none : Option α) := by
  induction cs with
  | nil => rfl
  | cons c cs ih => simp [longestIn, ih]

private theorem longest?_nil (tree : PrefixTree α) : tree.longest? [] = none := by
  cases tree <;> rfl

/-- What is stored behind the first character counts, and what is stored in front of it does not. -/
private theorem longest?_cons (tree : PrefixTree α) (c : Char) (cs : List Char) :
    tree.longest? (c :: cs) = longestIn (fun s => tree.get? (c :: s)) cs := by
  induction tree generalizing c cs with
  | leaf stored => exact (longestIn_none cs).symm
  | branch d below siblings ihb ihs =>
    rw [longest?]
    by_cases hcd : c = d
    · cases cs with
      | nil => simp [hcd, longest?_nil, longestIn, get?_branch]
      | cons e cs => simp [hcd, ihb, longestIn, get?_branch]
    · simp only [hcd, if_false, get?_branch]
      exact ihs c cs

private theorem forall_prefix_cons {c : Char} {cs : List Char} {p : List Char → Prop} :
    (∀ s, s <+: c :: cs → p s) ↔ p [] ∧ ∀ s, s <+: cs → p (c :: s) := by
  simp only [List.prefix_cons_iff]
  constructor
  · exact fun h => ⟨h [] (.inl rfl), fun s hs => h (c :: s) (.inr ⟨s, rfl, hs⟩)⟩
  · rintro ⟨h0, h⟩ s (rfl | ⟨s, rfl, hs⟩)
    · exact h0
    · exact h s hs

private theorem longestIn_eq_none_iff {f : List Char → Option α} {cs : List Char} :
    longestIn f cs = none ↔ ∀ s, s <+: cs → f s = none := by
  induction cs generalizing f with
  | nil => simp [longestIn]
  | cons c cs ih => rw [forall_prefix_cons, longestIn, Option.or_eq_none_iff, ih, and_comm]

private theorem longestIn_eq_some {f : List Char → Option α} {cs : List Char} {a : α}
    (h : longestIn f cs = some a) :
    ∃ s, s <+: cs ∧ f s = some a ∧ ∀ s', s' <+: cs → s.length < s'.length → f s' = none := by
  induction cs generalizing f with
  | nil => exact ⟨[], by simp, h, by simp⟩
  | cons c cs ih =>
    rw [longestIn, Option.or_eq_some_iff] at h
    rcases h with h | ⟨hn, h⟩
    · obtain ⟨s, hs, hf, hl⟩ := ih h
      refine ⟨c :: s, by simpa using hs, hf, forall_prefix_cons.mpr ⟨by simp, fun s' hs' h' => ?_⟩⟩
      exact hl s' hs' (by simpa using h')
    · rw [longestIn_eq_none_iff] at hn
      exact ⟨[], by simp, h, forall_prefix_cons.mpr ⟨by simp, fun s' hs' _ => hn s' hs'⟩⟩

private theorem forall_ne_nil_prefix_cons {c : Char} {cs : List Char} {p : List Char → Prop} :
    (∀ s, s ≠ [] → s <+: c :: cs → p s) ↔ ∀ s, s <+: cs → p (c :: s) := by
  constructor
  · exact fun h s hs => h (c :: s) (List.cons_ne_nil c s) (List.cons_prefix_cons.mpr ⟨rfl, hs⟩)
  · intro h s hne hs
    obtain ⟨rest, rfl, hrest⟩ := (List.prefix_cons_iff.mp hs).resolve_left hne
    exact h rest hrest

/-- Nothing matches if nothing is stored for any nonempty spelling that the text begins with. -/
theorem longest?_eq_none_iff {tree : PrefixTree α} {cs : List Char} :
    tree.longest? cs = none ↔ ∀ s, s ≠ [] → s <+: cs → tree.get? s = none := by
  cases cs with
  | nil => simpa [longest?_nil] using fun s hne hs => absurd hs hne
  | cons c cs => rw [longest?_cons, longestIn_eq_none_iff, forall_ne_nil_prefix_cons]

private theorem exists_of_longest? {tree : PrefixTree α} {cs : List Char} {a : α}
    (h : tree.longest? cs = some a) : ∃ s, s ≠ [] ∧ s <+: cs ∧ tree.get? s = some a ∧
      ∀ s', s' <+: cs → s.length < s'.length → tree.get? s' = none := by
  cases cs with
  | nil => simp [longest?_nil] at h
  | cons c cs =>
    rw [longest?_cons] at h
    obtain ⟨s, hs, ha, hlonger⟩ := longestIn_eq_some h
    refine ⟨c :: s, List.cons_ne_nil c s, List.cons_prefix_cons.mpr ⟨rfl, hs⟩, ha, ?_⟩
    exact forall_prefix_cons.mpr ⟨by simp, fun s' hs' hlt => hlonger s' hs' (by simpa using hlt)⟩

/-- The longest match is what is stored for the longest nonempty spelling that the text begins
with. -/
theorem longest?_eq_some_iff {tree : PrefixTree α} {cs : List Char} {a : α} :
    tree.longest? cs = some a ↔ ∃ s, s ≠ [] ∧ s <+: cs ∧ tree.get? s = some a ∧
      ∀ s', s' <+: cs → s.length < s'.length → tree.get? s' = none := by
  refine ⟨exists_of_longest?, ?_⟩
  rintro ⟨s, hne, hs, ha, hl⟩
  cases hm : tree.longest? cs with
  | none =>
    rw [longest?_eq_none_iff.mp hm s hne hs] at ha
    cases ha
  | some b =>
    obtain ⟨t, -, ht, hb, hlt⟩ := exists_of_longest? hm
    -- Neither of the two spellings is longer, and both begin the same text.
    have hst : s = t := by
      rcases Nat.lt_trichotomy s.length t.length with h | h | h
      · simp [hl t ht h] at hb
      · exact (List.prefix_of_prefix_length_le hs ht (Nat.le_of_eq h)).eq_of_length h
      · simp [hlt s hs h] at ha
    rw [← hb, ← hst, ha]

/-- What a text finds depends on nothing but the nonempty spellings that it begins with. -/
theorem longest?_congr {tree tree' : PrefixTree α} {cs : List Char}
    (h : ∀ s, s ≠ [] → s <+: cs → tree.get? s = tree'.get? s) :
    tree.longest? cs = tree'.longest? cs := by
  cases hm : tree'.longest? cs with
  | none =>
    rw [longest?_eq_none_iff] at hm ⊢
    intro s hne hs
    rw [h s hne hs, hm s hne hs]
  | some a =>
    obtain ⟨s, hne, hs, ha, hlonger⟩ := longest?_eq_some_iff.mp hm
    refine longest?_eq_some_iff.mpr ⟨s, hne, hs, by rw [h s hne hs, ha], fun s' hs' hlt => ?_⟩
    rw [h s' (List.ne_nil_of_length_pos (Nat.zero_lt_of_lt hlt)) hs', hlonger s' hs' hlt]

/-- The empty spelling is stored like any other one, and it is never found. -/
theorem add_empty_is_never_found (tree : PrefixTree α) (a : α) :
    (tree.add "" a).get? [] = some a ∧
      ∀ cs, (tree.add "" a).longest? cs = tree.longest? cs := by
  constructor
  · rw [get?_add, String.toList_empty, if_pos rfl]
  · intro cs
    refine longest?_congr fun s hne _ => ?_
    rw [get?_add, String.toList_empty, if_neg hne]

/-- A spelling is of no account for a text that does not begin with it, however much of it the text
begins with. -/
theorem longest?_add_of_not_prefix (tree : PrefixTree α) (spelling : String) (a : α)
    {cs : List Char} (h : ¬ spelling.toList <+: cs) :
    (tree.add spelling a).longest? cs = tree.longest? cs := by
  refine longest?_congr fun s _ hs => ?_
  rw [get?_add, if_neg]
  rintro rfl
  exact h hs

end Formulas.PrefixTree
