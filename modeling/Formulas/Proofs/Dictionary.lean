import Formulas.Dictionary
import Mathlib.Data.List.Nodup
import Mathlib.Data.List.Perm.Subperm

/-! What is found in a dictionary. A change of one key shows under that key only, and what is found
under all keys determines a dictionary, whatever the order in which it was filled. -/
namespace Formulas

namespace Dictionary

variable {α : Type u} {name other : String}

theorem lookup_cons_eq_ite (a : α) (es : List (String × α)) :
    ((name, a) :: es).lookup other = if other = name then some a else es.lookup other := by
  by_cases h : other = name
  · rw [h, List.lookup_cons_self, if_pos rfl]
  · rw [List.lookup_cons, beq_false_of_ne h, if_neg h]

theorem isSome_lookup_iff (es : List (String × α)) :
    (es.lookup name).isSome ↔ name ∈ es.map Prod.fst := by
  rw [List.lookup_isSome_iff, List.mem_map]
  simp only [beq_iff_eq, @eq_comm _ name]

theorem place?_cons (name other : String) (names : List String) :
    Keys.place? name (other :: names) =
      if other = name then some 0 else (Keys.place? name names).map Fin.succ := rfl

theorem lookup_ofFn (name : String) (names : List String) (value : Fin names.length → α) :
    (List.ofFn fun i => (names.get i, value i)).lookup name =
      (Keys.place? name names).map value := by
  induction names with
  | nil => rfl
  | cons first names ih =>
    have hofFn : (List.ofFn fun i => ((first :: names).get i, value i)) =
        (first, value 0) :: List.ofFn fun i => (names.get i, value i.succ) := List.ofFn_succ
    rw [hofFn, lookup_cons_eq_ite, ih, place?_cons]
    by_cases h : name = first
    · simp [h]
    · simp [h, Ne.symm h, Function.comp_def]

theorem get?_eq_lookup (d : Dictionary α) (name : String) :
    d.get? name = d.entries.lookup name :=
  (lookup_ofFn name d.keys.names d.value).symm

theorem entries_ofEntries (es : List (String × α)) (h : Increasing es) :
    (ofEntries es h).entries = es := by
  have hlength : (ofEntries es h).entries.length = es.length :=
    List.length_ofFn.trans (List.length_map Prod.fst)
  refine List.ext_getElem hlength fun i hi hi' => ?_
  exact (List.getElem_ofFn _).trans (Prod.ext (List.getElem_map Prod.fst) rfl)

@[simp] theorem get?_empty (name : String) : (empty : Dictionary α).get? name = none := rfl

theorem lookup_insertEntry (a : α) (es : List (String × α)) :
    (insertEntry name a es).lookup other = if other = name then some a else es.lookup other := by
  induction es with
  | nil => exact lookup_cons_eq_ite a []
  | cons head rest ih =>
    obtain ⟨key, b⟩ := head
    rw [insertEntry]
    split
    · exact lookup_cons_eq_ite a _
    · next hge =>
      split
      · next hlt =>
        have hne : key ≠ name := String.ne_of_lt hlt
        rw [lookup_cons_eq_ite, lookup_cons_eq_ite, ih]
        by_cases h : other = key
        · rw [if_pos h, if_pos h, if_neg (h ▸ hne)]
        · rw [if_neg h, if_neg h]
      · next hle =>
        have hkey : name = key := String.le_antisymm (String.not_lt.mp hle) (String.not_lt.mp hge)
        subst hkey
        rw [lookup_cons_eq_ite, lookup_cons_eq_ite]
        by_cases h : other = name
        · rw [if_pos h, if_pos h]
        · rw [if_neg h, if_neg h, if_neg h]

@[simp] theorem get?_insert (d : Dictionary α) (name : String) (a : α) (other : String) :
    (d.insert name a).get? other = if other = name then some a else d.get? other := by
  rw [get?_eq_lookup, get?_eq_lookup, insert, entries_ofEntries, lookup_insertEntry]

theorem lookup_filter_ne (es : List (String × α)) :
    (es.filter (·.1 ≠ name)).lookup other = if other = name then none else es.lookup other := by
  induction es with
  | nil => simp
  | cons head rest ih =>
    obtain ⟨key, b⟩ := head
    by_cases hkey : key = name
    · rw [List.filter_cons_of_neg (by simpa using hkey), ih, lookup_cons_eq_ite, hkey]
      by_cases h : other = name
      · rw [if_pos h, if_pos h]
      · rw [if_neg h, if_neg h, if_neg h]
    · rw [List.filter_cons_of_pos (by simpa using hkey), lookup_cons_eq_ite, lookup_cons_eq_ite, ih]
      by_cases h : other = key
      · rw [if_pos h, if_pos h, if_neg (h ▸ hkey)]
      · rw [if_neg h, if_neg h]

@[simp] theorem get?_erase (d : Dictionary α) (name other : String) :
    (d.erase name).get? other = if other = name then none else d.get? other := by
  rw [get?_eq_lookup, get?_eq_lookup, erase, entries_ofEntries, lookup_filter_ne]

theorem mem_names_iff (d : Dictionary α) (name : String) :
    name ∈ d.names ↔ (d.get? name).isSome := by
  rw [get?_eq_lookup, isSome_lookup_iff, map_fst_entries]
  rfl

end Dictionary

namespace Keys

theorem nodup (keys : Keys) : keys.names.Nodup :=
  keys.increasing.imp String.ne_of_lt

/-- Names in increasing order are determined by what they are. -/
theorem eq_of_perm {keys keys' : Keys} (h : keys.names.Perm keys'.names) : keys = keys' := by
  obtain ⟨names, increasing⟩ := keys
  obtain ⟨names', increasing'⟩ := keys'
  have hnames : names = names' :=
    h.eq_of_pairwise (fun _ _ _ _ hab hba => absurd hab (String.lt_asymm hba))
      increasing increasing'
  subst hnames
  rfl

theorem get_of_place? {name : String} {names : List String} {i : Fin names.length}
    (h : place? name names = some i) : names.get i = name := by
  induction names with
  | nil => exact i.elim0
  | cons first names ih =>
    rw [Dictionary.place?_cons] at h
    split at h
    · next heq =>
      obtain rfl := Option.some.inj h
      exact heq
    · obtain ⟨j, hj, rfl⟩ := Option.map_eq_some_iff.mp h
      exact ih hj

theorem place?_get {names : List String} (hnames : names.Nodup) (i : Fin names.length) :
    place? (names.get i) names = some i := by
  induction names with
  | nil => exact i.elim0
  | cons first names ih =>
    obtain ⟨hfirst, hrest⟩ := List.nodup_cons.mp hnames
    rw [Dictionary.place?_cons]
    cases i using Fin.cases with
    | zero => exact if_pos rfl
    | succ j =>
      have hne : first ≠ names.get j := fun heq => hfirst (heq ▸ List.get_mem names j)
      exact (if_neg hne).trans (congrArg (Option.map Fin.succ) (ih hrest j))

end Keys

namespace Dictionary

variable {α : Type u}

theorem get?_get (d : Dictionary α) (i : Fin d.keys.names.length) :
    d.get? (d.keys.names.get i) = some (d.value i) := by
  rw [get?, Keys.place?_get d.keys.nodup, Option.map_some]

theorem exists_place {d : Dictionary α} {name : String} {a : α} (h : d.get? name = some a) :
    ∃ i, d.keys.names.get i = name ∧ d.value i = a := by
  obtain ⟨i, hi, ha⟩ := Option.map_eq_some_iff.mp h
  exact ⟨i, Keys.get_of_place? hi, ha⟩

/-- Two dictionaries of one size have the same keys as soon as one of them has all keys of the
other. -/
theorem keys_eq_of_size {β : Type v} {d : Dictionary α} {e : Dictionary β} (hsize : d.size = e.size)
    (h : ∀ name ∈ d.names, name ∈ e.names) : d.keys = e.keys := by
  have hsub : d.keys.names.Subperm e.keys.names := d.keys.nodup.subperm h
  exact Keys.eq_of_perm (hsub.perm_of_length_le (Nat.le_of_eq hsize.symm))

theorem keys_eq_of_isSome {β : Type v} {d : Dictionary α} {e : Dictionary β}
    (h : ∀ name, (d.get? name).isSome ↔ (e.get? name).isSome) : d.keys = e.keys := by
  have hnames (name : String) : name ∈ d.names ↔ name ∈ e.names := by
    rw [mem_names_iff, mem_names_iff, h]
  exact Keys.eq_of_perm ((List.perm_ext_iff_of_nodup d.keys.nodup e.keys.nodup).mpr hnames)

theorem isSome_get?_of_keys {β : Type v} {d : Dictionary α} {e : Dictionary β}
    (hkeys : d.keys = e.keys) (name : String) : (d.get? name).isSome ↔ (e.get? name).isSome := by
  rw [← mem_names_iff, ← mem_names_iff, names, names, hkeys]

/-- A dictionary is what is found in it. -/
theorem ext_get? {d e : Dictionary α} (h : ∀ name, d.get? name = e.get? name) : d = e := by
  have hkeys : d.keys = e.keys := keys_eq_of_isSome fun name => by rw [h]
  obtain ⟨keys, value⟩ := d
  obtain ⟨keys', value'⟩ := e
  obtain rfl : keys = keys' := hkeys
  have hvalue : value = value' := by
    funext i
    have hi := h (keys.names.get i)
    rw [get?_get ⟨keys, value⟩ i, get?_get ⟨keys, value'⟩ i] at hi
    exact Option.some.inj hi
  rw [hvalue]

theorem remove_of_not_contains {d : Dictionary α} {name : String} (h : d.contains name = false) :
    d.remove name = (false, d) := by
  have hnone : d.get? name = none := by simpa [contains] using h
  have herase : d.erase name = d := ext_get? fun other => by
    rw [get?_erase]
    split
    · next hother => rw [hother, hnone]
    · rfl
  rw [remove, h, herase]

theorem lookup_eq_some_iff_mem {es : List (String × α)} (hkeys : (es.map Prod.fst).Nodup)
    {name : String} {a : α} : es.lookup name = some a ↔ (name, a) ∈ es := by
  induction es with
  | nil => simp
  | cons e es ih =>
    obtain ⟨key, b⟩ := e
    rw [List.map_cons, List.nodup_cons] at hkeys
    rw [lookup_cons_eq_ite, List.mem_cons, Prod.mk.injEq]
    by_cases h : name = key
    · subst h
      have habsent : (name, a) ∉ es := fun hmem => hkeys.1 (List.mem_map.mpr ⟨_, hmem, rfl⟩)
      simp [habsent, eq_comm]
    · simp [h, ih hkeys.2]

theorem lookup_sortEntries (es : List (String × α)) (name : String) :
    (sortEntries es).1.lookup name = es.reverse.lookup name := by
  have hfold (es : List (String × α)) (sorted : { es : List (String × α) // Increasing es }) :
      (es.foldl (fun es e => ⟨insertEntry e.1 e.2 es.1, increasing_insertEntry e.1 e.2 es.2⟩)
        sorted).1.lookup name = (es.reverse.lookup name).or (sorted.1.lookup name) := by
    induction es generalizing sorted with
    | nil => rfl
    | cons e es ih =>
      obtain ⟨key, a⟩ := e
      rw [List.foldl_cons, ih, List.reverse_cons, List.lookup_append, Option.or_assoc]
      congr 1
      rw [lookup_insertEntry, lookup_cons_eq_ite]
      by_cases h : name = key <;> simp [h]
  rw [sortEntries, hfold]
  exact Option.or_none

theorem get?_ofList (es : List (String × α)) (name : String) :
    (ofList es).get? name = es.reverse.lookup name := by
  rw [get?_eq_lookup, ofList, entries_ofEntries, lookup_sortEntries]

/-- The order of the entries does not matter. -/
theorem ofList_eq_of_perm {es es' : List (String × α)} (h : es.Perm es')
    (hkeys : (es.map Prod.fst).Nodup) : ofList es = ofList es' := by
  have hreverse (es : List (String × α)) (hkeys : (es.map Prod.fst).Nodup) :
      (es.reverse.map Prod.fst).Nodup := by
    rwa [List.map_reverse, List.nodup_reverse]
  have hkeys' : (es'.map Prod.fst).Nodup := (h.map Prod.fst).nodup_iff.mp hkeys
  refine ext_get? fun name => Option.ext fun a => ?_
  rw [get?_ofList, get?_ofList, lookup_eq_some_iff_mem (hreverse es hkeys),
    lookup_eq_some_iff_mem (hreverse es' hkeys'), List.mem_reverse, List.mem_reverse, h.mem_iff]

end Dictionary
end Formulas
