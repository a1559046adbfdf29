/-! Finite maps from texts, with the keys in increasing order. -/
namespace Formulas

/-- Texts in strictly increasing order of their characters. -/
structure Keys where
  names : List String
  increasing : names.Pairwise (· < ·)
  deriving DecidableEq

/-- The keys are sorted, so two dictionaries with the same entries are equal. -/
structure Dictionary (α : Type u) where
  keys : Keys
  value : Fin keys.names.length → α

namespace Keys

/-- The place of a name in a list. -/
def place? (name : String) : (names : List String) → Option (Fin names.length)
  | [] => none
  | other :: names => if other = name then some 0 else (place? name names).map Fin.succ

end Keys

namespace Dictionary

variable {α : Type u}

/-- Pairs whose keys strictly increase. -/
abbrev Increasing (entries : List (String × α)) : Prop :=
  entries.Pairwise (·.1 < ·.1)

/-- The dictionary with the given entries. -/
def ofEntries (entries : List (String × α)) (increasing : Increasing entries) : Dictionary α where
  keys := ⟨entries.map Prod.fst, List.pairwise_map.mpr increasing⟩
  value i := (entries.get (i.cast (List.length_map Prod.fst))).2

/-- All entries, smallest key first. -/
def entries (d : Dictionary α) : List (String × α) :=
  List.ofFn fun i => (d.keys.names.get i, d.value i)

theorem map_fst_entries (d : Dictionary α) : d.entries.map Prod.fst = d.keys.names := by
  simp [entries, List.map_ofFn, Function.comp_def, List.ofFn_getElem]

theorem increasing_entries (d : Dictionary α) : Increasing d.entries := by
  have h := d.keys.increasing
  rw [← d.map_fst_entries] at h
  exact List.pairwise_map.mp h

def names (d : Dictionary α) : List String := d.keys.names

def size (d : Dictionary α) : Nat := d.keys.names.length

def get? (d : Dictionary α) (name : String) : Option α :=
  (Keys.place? name d.keys.names).map d.value

def contains (d : Dictionary α) (name : String) : Bool := (d.get? name).isSome

def empty : Dictionary α := ⟨⟨[], .nil⟩, fun i => i.elim0⟩

/-- Puts one entry into its place and replaces an entry of the same key. -/
def insertEntry (name : String) (a : α) : List (String × α) → List (String × α)
  | [] => [(name, a)]
  | (other, b) :: rest =>
    if name < other then (name, a) :: (other, b) :: rest
    else if other < name then (other, b) :: insertEntry name a rest
    else (name, a) :: rest

theorem fst_mem_insertEntry {name : String} {a : α} {es : List (String × α)} {e : String × α}
    (h : e ∈ insertEntry name a es) : e.1 = name ∨ e ∈ es := by
  induction es with
  | nil => simp_all [insertEntry]
  | cons head rest ih => grind [insertEntry]

theorem increasing_insertEntry {es : List (String × α)} (name : String) (a : α)
    (h : Increasing es) : Increasing (insertEntry name a es) := by
  induction es with
  | nil => simp [insertEntry, Increasing]
  | cons head rest ih =>
    obtain ⟨other, b⟩ := head
    rw [Increasing, List.pairwise_cons] at h
    simp only [insertEntry]
    split
    · rename_i hlt
      refine List.pairwise_cons.mpr ⟨fun e he => ?_, List.pairwise_cons.mpr h⟩
      rcases List.mem_cons.mp he with rfl | he
      · exact hlt
      · exact String.lt_trans hlt (h.1 e he)
    · rename_i hge
      split
      · rename_i hlt
        refine List.pairwise_cons.mpr ⟨fun e he => ?_, ih h.2⟩
        rcases fst_mem_insertEntry he with he | he
        · exact he ▸ hlt
        · exact h.1 e he
      · rename_i hle
        have : name = other :=
          String.le_antisymm (String.not_lt.mp hle) (String.not_lt.mp hge)
        subst this
        exact List.pairwise_cons.mpr h

/-- A later value for a key replaces an earlier one. -/
def insert (d : Dictionary α) (name : String) (a : α) : Dictionary α :=
  ofEntries (insertEntry name a d.entries) (increasing_insertEntry name a d.increasing_entries)

/-- Leaves the dictionary as it is if the name is no key. -/
def erase (d : Dictionary α) (name : String) : Dictionary α :=
  ofEntries (d.entries.filter (·.1 ≠ name)) (d.increasing_entries.filter _)

/-- Whether the name is a key, and the dictionary without it. -/
def remove (d : Dictionary α) (name : String) : Bool × Dictionary α :=
  (d.contains name, d.erase name)

/-- Sorts pairs by key; of two pairs with one key the later stays. -/
def sortEntries (pairs : List (String × α)) : { es : List (String × α) // Increasing es } :=
  pairs.foldl (fun es e => ⟨insertEntry e.1 e.2 es.1, increasing_insertEntry e.1 e.2 es.2⟩)
    ⟨[], .nil⟩

/-- Of several values for one key the last stays. -/
def ofList (pairs : List (String × α)) : Dictionary α :=
  ofEntries (sortEntries pairs).1 (sortEntries pairs).2

end Dictionary
end Formulas
