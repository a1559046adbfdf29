import Mathlib.Data.List.Nodup
import Formulas.Proofs.PrefixTree
import Formulas.Token.Scan

/-! The keywords of the language as a list of spellings, and which characters cannot continue a
keyword. -/
namespace Formulas.Keywords

open PrefixTree

theorem spelling_ne_nil : ∀ w ∈ words, w.1.toList ≠ [] := by decide +kernel

theorem lexeme_eq_spelling : ∀ w ∈ words, w.2.lexeme = w.1 := by simp [words, word]

theorem not_isSpace_head : ∀ w ∈ words, ∀ c ∈ w.1.toList.head?, ¬ Token.isSpace c := by
  have h : ∀ w ∈ words, w.1.toList.head?.all fun c => !Token.isSpace c := by decide +kernel
  simpa [Option.all_eq_true] using h

theorem not_isNumberChar_head :
    ∀ w ∈ words, ∀ c ∈ w.1.toList.head?, ¬ Token.isNumberChar c := by
  have h : ∀ w ∈ words, w.1.toList.head?.all fun c => !Token.isNumberChar c := by decide +kernel
  simpa [Option.all_eq_true] using h

theorem nodup_spellings : (words.map fun w => w.1.toList).Nodup := by decide +kernel

/-- The keywords are found under their spellings, and nothing else is. -/
theorem get?_standard_eq_some_iff {s : List Char} {token : Token} :
    standard.get? s = some token ↔ ∃ w ∈ words, w.1.toList = s ∧ w.2 = token := by
  rw [standard, get?_foldl_add, get?_empty, Option.or_none, Option.map_eq_some_iff]
  constructor
  · rintro ⟨w, hw, rfl⟩
    exact ⟨w, by simpa using List.mem_of_find?_eq_some hw, by simpa using List.find?_some hw, rfl⟩
  · rintro ⟨w, hw, rfl, rfl⟩
    cases hf : words.reverse.find? fun v => v.1.toList = w.1.toList with
    | none => simpa [hw] using (List.find?_eq_none.mp hf) w (by simpa using hw)
    | some v =>
      have hv : v ∈ words := by simpa using List.mem_of_find?_eq_some hf
      have he : v.1.toList = w.1.toList := by simpa using List.find?_some hf
      exact ⟨v, rfl, congrArg Prod.snd (List.inj_on_of_nodup_map nodup_spellings hv hw he)⟩

theorem get?_standard_eq_none_iff {s : List Char} :
    standard.get? s = none ↔ ∀ w ∈ words, w.1.toList ≠ s := by
  rw [Option.eq_none_iff_forall_ne_some]
  constructor
  · exact fun h w hw hs => h w.2 (get?_standard_eq_some_iff.mpr ⟨w, hw, hs, rfl⟩)
  · intro h token ht
    obtain ⟨w, hw, hs, _⟩ := get?_standard_eq_some_iff.mp ht
    exact h w hw hs

/-- No keyword begins the text. -/
def Absent (cs : List Char) : Prop := ∀ w ∈ words, ¬ w.1.toList <+: cs

/-- A keyword begins the text, and no longer one does. -/
def Longest (w : String × Token) (cs : List Char) : Prop :=
  w ∈ words ∧ w.1.toList <+: cs ∧ ∀ v ∈ words, v.1.toList <+: cs → v.1.length ≤ w.1.length

theorem longest?_standard_eq_none_iff {cs : List Char} :
    standard.longest? cs = none ↔ Absent cs := by
  simp only [longest?_eq_none_iff, get?_standard_eq_none_iff, Absent]
  constructor
  · exact fun h w hw hs => h _ (spelling_ne_nil w hw) hs w hw rfl
  · exact fun h s _ hs w hw he => h w hw (he ▸ hs)

theorem longest?_standard_eq_some_iff {cs : List Char} {token : Token} :
    standard.longest? cs = some token ↔ ∃ w, Longest w cs ∧ w.2 = token := by
  simp only [longest?_eq_some_iff, get?_standard_eq_some_iff, get?_standard_eq_none_iff]
  constructor
  · rintro ⟨_, -, hs, ⟨w, hw, rfl, rfl⟩, hl⟩
    refine ⟨w, ⟨hw, hs, fun v hv hp => ?_⟩, rfl⟩
    by_contra hlt
    exact hl v.1.toList hp (by simpa [String.length_toList] using hlt) v hv rfl
  · rintro ⟨w, ⟨hw, hs, hl⟩, rfl⟩
    refine ⟨w.1.toList, spelling_ne_nil w hw, hs, ⟨w, hw, rfl, rfl⟩, ?_⟩
    rintro _ hp hlt v hv rfl
    have := hl v hv hp
    simp only [String.length_toList] at hlt
    omega

end Formulas.Keywords
