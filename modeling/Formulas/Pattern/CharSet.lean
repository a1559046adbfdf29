import Formulas.Text.Age
import Formulas.Text.CaseTable

/-! Sets of characters as ranges, and which characters differ by case only. -/
namespace Formulas

/-- The first and last characters of ranges in ascending order with gaps between them, so that a set
has one form. No range begins or ends with a surrogate, which is no character. -/
structure CharSet where
  ranges : List (Nat × Nat)
  deriving DecidableEq, Repr

namespace CharSet

/-- The next character. Surrogates are stepped over. -/
def next (n : Nat) : Nat := if n = 0xd7ff then 0xe000 else n + 1

def prev (n : Nat) : Nat := if n = 0xe000 then 0xd7ff else n - 1

def lastChar : Nat := 0x10ffff

def contains (s : CharSet) (n : Nat) : Bool := Text.within s.ranges n

/-- Joins a range and later ones where they overlap or touch. -/
def join (r : Nat × Nat) : List (Nat × Nat) → List (Nat × Nat)
  | [] => [r]
  | s :: rs => if s.1 ≤ next r.2 then join (r.1, max r.2 s.2) rs else r :: join s rs

/-- The union of ranges that are in order of their first characters. -/
def ofSorted : List (Nat × Nat) → CharSet
  | [] => ⟨[]⟩
  | r :: rs => ⟨join r rs⟩

def ofRanges (rs : List (Nat × Nat)) : CharSet := ofSorted (rs.mergeSort fun r s => r.1 ≤ s.1)

def none : CharSet := ⟨[]⟩

def any : CharSet := ⟨[(0, lastChar)]⟩

def range (first last : Nat) : CharSet := ⟨[(first, last)]⟩

def single (n : Nat) : CharSet := range n n

def ofChars (ns : List Nat) : CharSet := ofRanges (ns.map fun n => (n, n))

def union (s t : CharSet) : CharSet := ofSorted (s.ranges.merge t.ranges fun r s => r.1 ≤ s.1)

def unions (sets : List CharSet) : CharSet := ofRanges (sets.flatMap ranges)

/-- What lies between ranges, from a character on. -/
def gaps (first : Nat) : List (Nat × Nat) → List (Nat × Nat)
  | [] => if first ≤ lastChar then [(first, lastChar)] else []
  | (a, b) :: rs =>
    if first < a then (first, prev a) :: gaps (next b) rs else gaps (next b) rs

def compl (s : CharSet) : CharSet := ⟨gaps 0 s.ranges⟩

def inter (s t : CharSet) : CharSet := (s.compl.union t.compl).compl

def diff (s t : CharSet) : CharSet := (s.compl.union t).compl

def symm (s t : CharSet) : CharSet := (s.union t).diff (s.inter t)

def negateIf (negated : Bool) (s : CharSet) : CharSet := if negated then s.compl else s

/-- The only character of a set. -/
def single? (s : CharSet) : Option Nat :=
  match s.ranges with
  | [(first, last)] => if first = last then some first else Option.none
  | _ => Option.none

def isAscii (s : CharSet) : Bool := s.ranges.all fun (_, last) => last < 0x80

/-! ### Case -/

/-- Patterns do not know the characters of this edition of the tables. They go by the one before. -/
def unknownEdition : String := "17.0"

def unknown : CharSet := ofRanges (Text.Age.rangesOf [unknownEdition])

/-- The pairs of a table of case mappings whose characters are known to patterns. -/
def knownPairs (table : List (List Int)) : List (Nat × Nat) :=
  (Text.CaseTable.pairs table).filter fun (n, m) => !unknown.contains n && !unknown.contains m

/-- Each character with its folded form, in order of folded forms. -/
def foldings : List (Nat × Nat) :=
  (knownPairs Text.CaseTable.fold).mergeSort fun p q => p.2 ≤ q.2

/-- The characters that have the same folded form, with this form first. -/
def orbits : List (List Nat) :=
  (foldings.splitBy fun p q => p.2 = q.2).map fun group =>
    (group.take 1).map (·.2) ++ group.map (·.1)

/-- All pairs of different characters of one orbit, in order. -/
def variants : List (Nat × Nat) :=
  (orbits.flatMap fun orbit => orbit.flatMap fun n => (orbit.filter (· ≠ n)).map (n, ·)).mergeSort
    fun p q => p.1 ≤ q.1

/-- The same within ASCII. -/
def asciiVariants : List (Nat × Nat) :=
  (List.range 26).map (fun i => (0x41 + i, 0x61 + i)) ++
    (List.range 26).map fun i => (0x61 + i, 0x41 + i)

/-- The second parts of the pairs whose first part lies in a range. Ranges and pairs are in order.
-/
def images : List (Nat × Nat) → List (Nat × Nat) → List Nat
  | [], _ => []
  | _, [] => []
  | (a, b) :: rs, (n, m) :: ps =>
    if n < a then images ((a, b) :: rs) ps
    else if n ≤ b then m :: images ((a, b) :: rs) ps
    else images rs ((n, m) :: ps)
termination_by rs ps => rs.length + ps.length

/-- All characters that differ from one of the set by case only. -/
def folded (s : CharSet) : CharSet := s.union (ofChars (images s.ranges variants))

def foldedAscii (s : CharSet) : CharSet := s.union (ofChars (images s.ranges asciiVariants))

end CharSet
end Formulas
