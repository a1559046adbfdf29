import Formulas.Json.Printer
import Formulas.Json.Reader

/-! Strings that are printed are read back, alone and in an array, in both layouts. Main statement:
`read?_strings`. -/
namespace Formulas.Json.Reader

variable {cs rest last : List Char} {c e : Char}

/-! ### One string -/

theorem body?_letter (hc : c ≠ 'u') (he : escaped? c = some e) (h : body? rest = some (cs, last)) :
    body? ('\\' :: c :: rest) = some (e :: cs, last) := by
  rw [body?.eq_3 c rest fun _ _ _ _ _ hu _ => hc hu, he, h]
  rfl

/-- Below the surrogates a number stands for itself. -/
theorem body?_number {c₁ c₂ c₃ c₄ : Char} {n : Nat} (hn : hex4? c₁ c₂ c₃ c₄ = some n)
    (hlt : n < 0xd800) (h : body? rest = some (cs, last)) :
    body? ('\\' :: 'u' :: c₁ :: c₂ :: c₃ :: c₄ :: rest) = some (Char.ofNat n :: cs, last) := by
  rw [body?, hn, h]
  change (if 0xd800 ≤ n ∧ n < 0xdc00 then _ else if 0xdc00 ≤ n ∧ n < 0xe000 then _ else _) = _
  rw [if_neg (by omega), if_neg (by omega)]
  rfl

theorem body?_plain (hescape : c ≠ '\\') (hquote : c ≠ '\x22') (hc : 0x20 ≤ c.toNat)
    (h : body? rest = some (cs, last)) : body? (c :: rest) = some (c :: cs, last) := by
  rw [body?.eq_4 c rest (fun _ _ _ _ _ he _ => hescape he) fun _ _ he _ => hescape he,
    if_neg hquote, if_neg (Nat.not_lt.mpr hc), h]
  rfl

theorem hex4?_control : ∀ n < 0x20,
    hex4? '0' '0' (Nat.digitChar (n / 16)) (Nat.digitChar (n % 16)) = some n := by
  decide

/-- An escaped character is read back in front of whatever is read. -/
theorem body?_escape (c : Char) (h : body? rest = some (cs, last)) :
    body? (escape c ++ rest) = some (c :: cs, last) := by
  unfold escape
  split
  case h_8 hquote hescape _ _ _ _ _ =>
    split
    · next hc =>
      have hread := body?_number (hex4?_control c.toNat hc) (Nat.lt_trans hc (by decide)) h
      rwa [Char.ofNat_toNat] at hread
    · next hc =>
      refine body?_plain ?_ ?_ (Nat.not_lt.mp hc) h
      · rintro rfl
        exact hescape rfl
      · rintro rfl
        exact hquote rfl
  -- The characters with a letter of their own.
  all_goals
    next hc =>
      have hchar : c = Char.ofNat c.toNat := (Char.ofNat_toNat c).symm
      rw [hc] at hchar
      subst hchar
      exact body?_letter (by decide) rfl h

theorem body?_flatMap_escape (cs rest : List Char) :
    body? (cs.flatMap escape ++ '\x22' :: rest) = some (cs, rest) := by
  induction cs with
  | nil =>
    rw [List.flatMap_nil, List.nil_append, body?.eq_4 _ _ (by simp) (by simp), if_pos rfl]
  | cons c cs ih =>
    rw [List.flatMap_cons, List.append_assoc]
    exact body?_escape c ih

theorem toList_quoted_append (s : String) (rest : List Char) :
    (quoted s).toList ++ rest = '\x22' :: (s.toList.flatMap escape ++ '\x22' :: rest) := by
  rw [quoted, String.toList_ofList, List.append_assoc, List.cons_append, List.singleton_append]

theorem string_quoted (s : String) (rest : List Char) :
    string ((quoted s).toList ++ rest) = some (s, rest) := by
  rw [toList_quoted_append]
  change Option.bind (body? (s.toList.flatMap escape ++ '\x22' :: rest)) _ = _
  rw [body?_flatMap_escape, Option.bind_some]
  change some (String.ofList s.toList, rest) = some (s, rest)
  rw [String.ofList_toList]

/-! ### Arrays -/

/-- Characters that stand between values. -/
def Blanks (gap : List Char) : Prop := ∀ c ∈ gap, isSpace c

variable {α β : Type} {gap closing : List Char} {item : ReadM α} {written : β → List Char}
  {meaning : β → α}

theorem bind_of_eq {m : ReadM α} {a : α} (h : m cs = some (a, rest)) (next : α → ReadM β) :
    (m >>= next) cs = next a rest := by
  change Option.bind (m cs) (fun p => next p.1 p.2) = _
  rw [h, Option.bind_some]

theorem peek?_apply (cs : List Char) : peek? cs = some (cs.head?, cs) := rfl

theorem skipSpace_append (hgap : Blanks gap) (h : ∀ c ∈ rest.head?, ¬ isSpace c) :
    skipSpace (gap ++ rest) = some ((), rest) := by
  change some ((), (gap ++ rest).dropWhile isSpace) = _
  rw [List.dropWhile_append_of_pos hgap]
  cases rest with
  | nil => rfl
  | cons c rest => rw [List.dropWhile_cons_of_neg (h c rfl)]

theorem skipSpace_append_cons (hgap : Blanks gap) (hc : ¬ isSpace c) (rest : List Char) :
    skipSpace (gap ++ c :: rest) = some ((), c :: rest) := by
  refine skipSpace_append hgap fun d hd => ?_
  rw [List.head?_cons, Option.mem_some_iff] at hd
  exact hd ▸ hc

theorem skipSpace_cons (hc : ¬ isSpace c) (rest : List Char) :
    skipSpace (c :: rest) = some ((), c :: rest) := by
  have hnone : Blanks [] := List.forall_mem_nil _
  exact skipSpace_append_cons hnone hc rest

theorem valueOf_quoted (array object : ReadM Json) (s : String) (hgap : Blanks gap)
    (rest : List Char) :
    valueOf array object (gap ++ ((quoted s).toList ++ rest)) = some (.string s, rest) := by
  have hstring := string_quoted s rest
  rw [toList_quoted_append] at hstring ⊢
  unfold valueOf
  rw [bind_of_eq (skipSpace_append_cons hgap (by decide) _), bind_of_eq (peek?_apply _)]
  change Option.bind (string _) _ = _
  rw [hstring]
  rfl

theorem value_quoted (depth : Nat) (s : String) (hgap : Blanks gap) (rest : List Char) :
    value depth (gap ++ ((quoted s).toList ++ rest)) = some (.string s, rest) := by
  cases depth with
  | zero => exact valueOf_quoted _ _ s hgap rest
  | succ depth => exact valueOf_quoted _ _ s hgap rest

theorem expect_cons (c : Char) (rest : List Char) : expect c (c :: rest) = some ((), rest) := by
  unfold expect
  dsimp only
  rw [if_pos rfl]

theorem modify_tail_cons (c : Char) (rest : List Char) :
    (modify List.tail : ReadM PUnit) (c :: rest) = some ((), rest) := rfl

/-- Values between commas and a closing bracket, as long as there are not more than the fuel. -/
theorem items_written
    (hitem : ∀ (b : β) (gap rest : List Char), Blanks gap →
      item (gap ++ (written b ++ rest)) = some (meaning b, rest))
    (close : Char) (hclose : ¬ isSpace close) (hcomma : close ≠ ',') (hgap : Blanks gap)
    (hclosing : Blanks closing) {first : List Char} (hfirst : Blanks first) (b : β) (bs : List β)
    {fuel : Nat} (hfuel : bs.length < fuel) (rest : List Char) :
    items item close fuel (first ++ (written b ++
      (bs.flatMap (fun b => ',' :: (gap ++ written b)) ++ (closing ++ close :: rest)))) =
        some ((b :: bs).map meaning, rest) := by
  -- The blanks in front of the first value may be gone already, those behind a comma are not.
  induction bs generalizing first b fuel with
  | nil =>
    obtain ⟨fuel, rfl⟩ := Nat.exists_eq_add_one.mpr hfuel
    rw [items, bind_of_eq (hitem b first _ hfirst), List.flatMap_nil, List.nil_append,
      bind_of_eq (skipSpace_append_cons hclosing hclose rest), bind_of_eq (peek?_apply _),
      List.head?_cons, if_neg (by simpa using hcomma), bind_of_eq (expect_cons close rest)]
    rfl
  | cons next others ih =>
    obtain ⟨fuel, rfl⟩ := Nat.exists_eq_add_one.mpr (Nat.zero_lt_of_lt hfuel)
    rw [items, bind_of_eq (hitem b first _ hfirst), List.flatMap_cons, List.append_assoc,
      List.cons_append, bind_of_eq (skipSpace_cons (by decide) _), bind_of_eq (peek?_apply _),
      List.head?_cons, if_pos rfl, bind_of_eq (modify_tail_cons _ _), List.append_assoc,
      bind_of_eq (ih hgap next (Nat.lt_of_succ_lt_succ hfuel))]
    rfl

theorem bracketed_nil (rest : List Char) :
    bracketed item '[' ']' ('[' :: ']' :: rest) = some ([], rest) := by
  rw [bracketed, bind_of_eq (expect_cons _ _), bind_of_eq (skipSpace_cons (by decide) _),
    bind_of_eq (peek?_apply _), List.head?_cons, if_pos rfl, bind_of_eq (modify_tail_cons _ _)]
  rfl

/-- The items of a printed array with the blanks that stand before each of them and behind the last
one. -/
def itemsText (gap closing : List Char) : List String → List Char
  | [] => []
  | s :: others => gap ++ (s.toList ++
      (others.flatMap (fun t => ',' :: (gap ++ t.toList)) ++ closing))

theorem length_le_length_flatMap {f : β → List Char} (hf : ∀ b, f b ≠ []) (bs : List β) :
    bs.length ≤ (bs.flatMap f).length := by
  induction bs with
  | nil => exact Nat.le_refl _
  | cons b bs ih =>
    have hpos := List.length_pos_iff.mpr (hf b)
    rw [List.flatMap_cons, List.length_cons, List.length_append]
    omega

theorem bracketed_quoted (depth : Nat) (hgap : Blanks gap) (hclosing : Blanks closing)
    (strings : List String) (rest : List Char) :
    bracketed (value depth) '[' ']' ('[' ::
      (itemsText gap closing (strings.map quoted) ++ ']' :: rest)) =
        some (strings.map Json.string, rest) := by
  cases strings with
  | nil => exact bracketed_nil rest
  | cons s others =>
    have hnone : Blanks [] := List.forall_mem_nil _
    have hfuel := length_le_length_flatMap
      (fun s => List.cons_ne_nil ',' (gap ++ (quoted s).toList)) others
    rw [List.map_cons, itemsText, List.flatMap_map, List.append_assoc, List.append_assoc,
      List.append_assoc]
    generalize htail : (others.flatMap fun s => ',' :: (gap ++ (quoted s).toList)) ++
      (closing ++ ']' :: rest) = tail
    have hlen : others.length < ((quoted s).toList ++ tail).length + 1 := by
      rw [← htail, List.length_append, List.length_append]
      omega
    have hread : items (value depth) ']' (((quoted s).toList ++ tail).length + 1)
        ((quoted s).toList ++ tail) = some ((s :: others).map Json.string, rest) := by
      rw [← htail] at hlen ⊢
      have hitems := items_written (fun s gap rest hgap => value_quoted depth s hgap rest) ']'
        (by decide) (by decide) hgap hclosing hnone s others hlen rest
      rwa [List.nil_append] at hitems
    rw [toList_quoted_append] at hread ⊢
    rw [bracketed, bind_of_eq (expect_cons _ _),
      bind_of_eq (skipSpace_append_cons hgap (by decide) _), bind_of_eq (peek?_apply _),
      List.head?_cons, if_neg (by decide)]
    exact hread

/-! ### Texts -/

theorem intercalate_cons_eq (separator : String) (s : String) (others : List String) :
    (separator.intercalate (s :: others)).toList =
      s.toList ++ others.flatMap fun t => separator.toList ++ t.toList := by
  induction others generalizing s with
  | nil => rw [String.intercalate_singleton, List.flatMap_nil, List.append_nil]
  | cons t others ih =>
    rw [String.intercalate_cons_cons, String.toList_append, String.toList_append, ih,
      List.flatMap_cons, List.append_assoc, List.append_assoc]

/-- The blanks before the items of an outermost array and before its closing bracket. -/
def margins : Layout → List Char × List Char
  | .compact => ([], [])
  | .pretty => ((newline 1).toList, (newline 0).toList)

theorem blanks_newline (depth : Nat) : Blanks (newline depth).toList := by
  intro c hc
  rw [newline, String.toList_ofList, List.mem_cons] at hc
  rcases hc with rfl | hc
  · rfl
  · rw [List.eq_of_mem_replicate hc]
    rfl

theorem blanks_margins (layout : Layout) :
    Blanks (margins layout).1 ∧ Blanks (margins layout).2 := by
  cases layout with
  | compact => exact ⟨List.forall_mem_nil _, List.forall_mem_nil _⟩
  | pretty => exact ⟨blanks_newline 1, blanks_newline 0⟩

theorem renderItems_strings (layout : Layout) (depth : Nat) (strings : List String) :
    renderItems layout depth (strings.map .string) = strings.map quoted := by
  induction strings with
  | nil => rfl
  | cons s others ih => rw [List.map_cons, renderItems, ih, render, List.map_cons]

theorem toList_enclose (layout : Layout) (texts : List String) :
    (enclose layout 0 "[" "]" texts).toList =
      '[' :: (itemsText (margins layout).1 (margins layout).2 texts ++ [']']) := by
  cases texts with
  | nil => cases layout <;> rfl
  | cons s others =>
    unfold enclose
    rw [if_neg (List.cons_ne_nil s others)]
    cases layout with
    | compact =>
      dsimp only
      rw [String.toList_append, String.toList_append, intercalate_cons_eq]
      simp [itemsText, margins]
    | pretty =>
      dsimp only
      rw [String.toList_append, String.toList_append, String.toList_append, String.toList_append,
        intercalate_cons_eq]
      simp [itemsText, margins]

/-- An array of strings that is printed is read back, with a line break behind it or without. -/
theorem read?_strings (layout : Layout) (strings : List String) (hgap : Blanks gap) :
    read? ((Json.array (strings.map .string)).render layout 0 ++ String.ofList gap) =
      some (.array (strings.map .string)) := by
  obtain ⟨hfirst, hlast⟩ := blanks_margins layout
  have hvalue : ∀ rest, value maxDepth
      ('[' :: (itemsText (margins layout).1 (margins layout).2 (strings.map quoted) ++
        ']' :: rest)) = some (.array (strings.map .string), rest) := by
    intro rest
    rw [maxDepth, value, valueOf, bind_of_eq (skipSpace_cons (by decide) _),
      bind_of_eq (peek?_apply _)]
    change Option.bind (bracketed (value 126) '[' ']' _) _ = _
    rw [bracketed_quoted 126 hfirst hlast]
    rfl
  have hend : skipSpace gap = some ((), []) := by
    have hskip : skipSpace (gap ++ []) = some ((), []) := skipSpace_append hgap (by simp)
    rwa [List.append_nil] at hskip
  have htext : ((Json.array (strings.map .string)).render layout 0 ++ String.ofList gap).toList =
      '[' :: (itemsText (margins layout).1 (margins layout).2 (strings.map quoted) ++
        ']' :: gap) := by
    rw [String.toList_append, render, renderItems_strings, toList_enclose, String.toList_ofList,
      List.cons_append, List.append_assoc, List.singleton_append]
  have hread : text ('[' :: (itemsText (margins layout).1 (margins layout).2
      (strings.map quoted) ++ ']' :: gap)) = some (.array (strings.map .string), []) := by
    rw [text, bind_of_eq (hvalue gap), bind_of_eq hend]
    rfl
  unfold read? StateT.run'
  rw [htext, hread]
  rfl

end Formulas.Json.Reader
