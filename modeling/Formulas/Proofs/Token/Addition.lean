import Formulas.Proofs.PrefixTree
import Formulas.Token.Keywords

/-! Trees that grow by additions, one after the other. In any text and from any place the longest of
the added spellings is found, with what was added last under it. Main statement:
`additions_are_found`. -/
namespace Formulas

namespace PrefixTree

variable {α : Type u}

/-- Adds spellings from left to right. -/
def addAll (tree : PrefixTree α) (adds : List (String × α)) : PrefixTree α :=
  adds.foldl (fun tree (spelling, a) => tree.add spelling a) tree

theorem addAll_addAll (tree : PrefixTree α) (first second : List (String × α)) :
    (tree.addAll first).addAll second = tree.addAll (first ++ second) :=
  List.foldl_append.symm

/-- No later addition is of the same spelling. -/
def Latest (adds : List (String × α)) (spelling : String) (a : α) : Prop :=
  ∃ before after, adds = before ++ (spelling, a) :: after ∧ ∀ w ∈ after, w.1 ≠ spelling

/-- A nonempty spelling that a text begins with, and no longer one among the additions does. -/
structure LongestAdded (adds : List (String × α)) (text : List Char) (spelling : String) (a : α) :
    Prop where
  ne_empty : spelling ≠ ""
  begins : spelling.toList <+: text
  latest : Latest adds spelling a
  longest : ∀ w ∈ adds, w.1.toList <+: text → w.1.length ≤ spelling.length

/-- From every place of every text, also from behind its end, a search gives the latest value of the
longest nonempty spelling that follows, and nothing only where none follows. -/
structure Finds (tree : PrefixTree α) (adds : List (String × α)) : Prop where
  some_iff : ∀ (text : List Char) (start : Nat) (a : α),
    tree.longest? (text.drop start) = some a ↔
      ∃ spelling, LongestAdded adds (text.drop start) spelling a
  none_iff : ∀ (text : List Char) (start : Nat),
    tree.longest? (text.drop start) = none ↔
      ∀ w ∈ adds, w.1 ≠ "" → ¬ w.1.toList <+: text.drop start

theorem find?_reverse_eq_some_iff (adds : List (String × α)) (spelling : String) (a : α) :
    ((adds.reverse.find? fun w => w.1.toList = spelling.toList).map Prod.snd) = some a ↔
      Latest adds spelling a := by
  rw [Option.map_eq_some_iff]
  constructor
  · rintro ⟨⟨other, b⟩, hfind, rfl⟩
    obtain ⟨hother, after, before, hadds, hafter⟩ := List.find?_eq_some_iff_append.mp hfind
    have hspelling : other = spelling := String.toList_inj.mp (by simpa using hother)
    subst hspelling
    refine ⟨before.reverse, after.reverse, ?_, fun w hw => ?_⟩
    · rw [← List.reverse_reverse adds, hadds]
      simp
    · have hne := hafter w (List.mem_reverse.mp hw)
      simpa [String.toList_inj] using hne
  · rintro ⟨before, after, rfl, hafter⟩
    refine ⟨(spelling, a), List.find?_eq_some_iff_append.mpr ?_, rfl⟩
    refine ⟨by simp, after.reverse, before.reverse, by simp, fun w hw => ?_⟩
    have hne := hafter w (List.mem_reverse.mp hw)
    simpa [String.toList_inj] using hne

theorem get?_addAll_eq_some_iff (adds : List (String × α)) {spelling : String} {a : α} :
    (addAll empty adds).get? spelling.toList = some a ↔ Latest adds spelling a := by
  rw [addAll, get?_foldl_add, get?_empty, Option.or_none]
  exact find?_reverse_eq_some_iff adds spelling a

/-- Nothing is stored under a spelling that was never added. -/
theorem get?_addAll_eq_none_iff (adds : List (String × α)) {s : List Char} :
    (addAll empty adds).get? s = none ↔ ∀ w ∈ adds, w.1.toList ≠ s := by
  rw [addAll, get?_foldl_add, get?_empty, Option.or_none, Option.map_eq_none_iff]
  simp only [List.find?_eq_none, List.mem_reverse, decide_eq_true_eq, ne_eq]

/-- A tree that was empty finds what was added to it. -/
theorem finds_addAll (adds : List (String × α)) : Finds (addAll empty adds) adds where
  some_iff text start a := by
    rw [longest?_eq_some_iff]
    constructor
    · rintro ⟨s, hne, hs, ha, hlonger⟩
      obtain ⟨spelling, rfl⟩ : ∃ spelling : String, spelling.toList = s :=
        ⟨String.ofList s, String.toList_ofList⟩
      refine ⟨spelling, fun hempty => hne (by rw [hempty, String.toList_empty]), hs,
        (get?_addAll_eq_some_iff adds).mp ha, fun w hw hbegins => Nat.le_of_not_lt fun hlt => ?_⟩
      rw [← String.length_toList, ← String.length_toList] at hlt
      exact (get?_addAll_eq_none_iff adds).mp (hlonger _ hbegins hlt) w hw rfl
    · rintro ⟨spelling, hne, hbegins, hlatest, hlongest⟩
      refine ⟨spelling.toList, fun hnil => hne (String.toList_eq_nil_iff.mp hnil), hbegins,
        (get?_addAll_eq_some_iff adds).mpr hlatest, fun s hs hlt => ?_⟩
      refine (get?_addAll_eq_none_iff adds).mpr fun w hw heq => ?_
      have hle := hlongest w hw (heq ▸ hs)
      rw [← heq, String.length_toList, String.length_toList] at hlt
      omega
  none_iff text start := by
    rw [longest?_eq_none_iff]
    simp only [get?_addAll_eq_none_iff]
    constructor
    · intro h w hw hne hbegins
      exact h w.1.toList (fun hnil => hne (String.toList_eq_nil_iff.mp hnil)) hbegins w hw rfl
    · rintro h s hne hs w hw rfl
      exact h w hw (fun hempty => hne (String.toList_eq_nil_iff.mpr hempty)) hs

/-- Where the longer spelling breaks off, the shorter one counts, with its later value. -/
example : (addAll (empty : PrefixTree Nat)
    [("a", 0), ("abcd", 1), ("", 2), ("a", 3)]).longest? (['x', 'a', 'b', 'c', 'x'].drop 1) =
      some 3 := rfl

end PrefixTree

open PrefixTree

namespace Keywords

/-- What is added to no keywords or to those of the language is found beside what was there, the
later addition of a spelling in place of the earlier one. -/
theorem additions_are_found (adds : List (String × Token)) :
    Finds (addAll .empty adds) adds ∧ Finds (addAll standard adds) (words ++ adds) := by
  refine ⟨finds_addAll adds, ?_⟩
  have hstandard : standard.addAll adds = addAll .empty (words ++ adds) :=
    addAll_addAll .empty words adds
  rw [hstandard]
  exact finds_addAll (words ++ adds)

end Keywords
end Formulas
