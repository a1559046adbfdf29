import Formulas.Proofs.Expr.Grammar
import Formulas.Proofs.Token.Tiling

/-! Where two texts meet. If the second one begins with a character that cannot continue a token,
its tokens follow those of the first one. -/
namespace Formulas

open Token

/-- A character that is neither part of a word or a number nor of a keyword behind its beginning. -/
def Breaks (b : Char) : Prop :=
  ¬ isIdentifierRest b ∧ ∀ w ∈ Keywords.words, b ∉ w.1.toList.tail

instance (b : Char) : Decidable (Breaks b) := inferInstanceAs (Decidable (_ ∧ _))

/-- The marks are keywords of one character. -/
def marks : List (Char × Token) :=
  [('(', .openParen), (')', .closeParen), (',', .comma), (';', .semicolon)]

theorem openParen_mem : ('(', Token.openParen) ∈ marks := List.mem_cons_self

theorem closeParen_mem : (')', Token.closeParen) ∈ marks := .tail _ List.mem_cons_self

theorem breaks_of_mark {c : Char} {token : Token} (h : (c, token) ∈ marks) : Breaks c :=
  (by decide +kernel : ∀ m ∈ marks, Breaks m.1) (c, token) h

theorem breaks_space {b : Char} (h : isSpace b) : Breaks b := by
  have hspaces : spaces.all fun b => Breaks b := by decide +kernel
  exact of_decide_eq_true (List.all_eq_true.mp hspaces b (mem_spaces_of_isSpace h))

variable {cs l rest more tail : List Char} {b : Char} {token : Token} {tiles : List Tile}
  {ts us : List Token}

namespace Breaks

/-- A keyword ends in front of a break, or begins with it. -/
theorem keyword_begins (hb : Breaks b) {w : String × Token} (hw : w ∈ Keywords.words)
    (hcs : cs ≠ []) (h : w.1.toList <+: cs ++ b :: more) : w.1.toList <+: cs := by
  rcases List.prefix_or_prefix_of_prefix h (List.prefix_append cs (b :: more)) with hp | ⟨s, hs⟩
  · exact hp
  rw [← hs, List.prefix_append_right_inj] at h
  cases s with
  | nil => exact ⟨[], by rw [List.append_nil, ← hs, List.append_nil]⟩
  | cons d s =>
    obtain rfl := (List.cons_prefix_cons.mp h).1
    obtain ⟨c, cs, rfl⟩ := List.exists_cons_of_ne_nil hcs
    refine absurd ?_ (hb.2 w hw)
    rw [← hs]
    simp

theorem absent (hb : Breaks b) (hcs : cs ≠ []) (h : Keywords.Absent cs) :
    Keywords.Absent (cs ++ b :: more) :=
  fun w hw hp => h w hw (hb.keyword_begins hw hcs hp)

theorem longest (hb : Breaks b) (hcs : cs ≠ []) {w : String × Token}
    (h : Keywords.Longest w cs) : Keywords.Longest w (cs ++ b :: more) := by
  obtain ⟨hw, hp, hl⟩ := h
  exact ⟨hw, hp.trans (List.prefix_append _ _),
    fun v hv hv' => hl v hv (hb.keyword_begins hv hcs hv')⟩

theorem run (hb : Breaks b) {p : Char → Bool} (hp : ∀ c, p c → isIdentifierRest c)
    (h : Run p l rest) : Run p l (rest ++ b :: more) := by
  refine ⟨h.1, fun c hc => ?_⟩
  cases rest with
  | nil =>
    obtain rfl := Option.some.inj hc
    exact fun hpb => hb.1 (hp _ hpb)
  | cons d rest => exact h.2 c hc

/-- What comes behind a break has no effect on the token in front of it. -/
theorem lexeme (hb : Breaks b) (h : Lexeme l rest token) :
    Lexeme l (rest ++ b :: more) token := by
  have hne : l ++ rest ≠ [] := List.append_ne_nil_of_left_ne_nil h.ne_nil rest
  cases h with
  | keyword longest => exact .keyword (by rw [← List.append_assoc]; exact hb.longest hne longest)
  | number free ne run plain value =>
    refine .number ?_ ne (hb.run (fun _ => isIdentifierRest_of_isNumberChar) run) plain value
    rw [← List.append_assoc]
    exact hb.absent hne free
  | word free ne start run =>
    refine .word ?_ ne start (hb.run (fun _ => id) run)
    rw [← List.append_assoc]
    exact hb.absent hne free
  | @text q body _ free quote first =>
    refine .text ?_ quote first
    rw [← List.cons_append, ← List.append_assoc]
    exact hb.absent (by simp) free

theorem tiling (hb : Breaks b) (h : Tiling cs tiles tail) :
    Tiling (cs ++ b :: more) tiles (tail ++ b :: more) := by
  induction h with
  | nil => exact .nil
  | cons hblanks lexeme _ ih =>
    rw [List.append_assoc, List.append_assoc]
    exact .cons hblanks (hb.lexeme lexeme) ih

end Breaks

/-- The text consists of these tokens and blanks. -/
def Cut (cs : List Char) (ts : List Token) : Prop :=
  ∃ tiles tail, Tiling cs tiles tail ∧ (∀ c ∈ tail, isSpace c) ∧ tiles.map Tile.token = ts

namespace Cut

theorem nil : Cut [] [] := ⟨[], [], .nil, by simp, rfl⟩

theorem cons (h : Lexeme l rest token) (hrest : Cut rest ts) : Cut (l ++ rest) (token :: ts) := by
  obtain ⟨tiles, tail, tiling, hb, rfl⟩ := hrest
  have htiling : Tiling ([] ++ (l ++ rest)) (⟨[], token⟩ :: tiles) tail := .cons (by simp) h tiling
  exact ⟨⟨[], token⟩ :: tiles, tail, htiling, hb, rfl⟩

theorem append_blanks (hb : ∀ c ∈ cs, isSpace c) (h : Cut more ts) : Cut (cs ++ more) ts := by
  obtain ⟨tiles, tail, tiling, hblanks, rfl⟩ := h
  cases tiling with
  | nil =>
    refine ⟨[], cs ++ more, .nil, fun c hc => ?_, rfl⟩
    rcases List.mem_append.mp hc with hc | hc
    · exact hb c hc
    · exact hblanks c hc
  | @cons blanks l rest _ token tiles hb' lexeme tiling =>
    refine ⟨⟨cs ++ blanks, token⟩ :: tiles, tail, ?_, hblanks, rfl⟩
    rw [← List.append_assoc]
    refine .cons (fun c hc => ?_) lexeme tiling
    rcases List.mem_append.mp hc with hc | hc
    · exact hb c hc
    · exact hb' c hc

theorem append (hb : Breaks b) (h : Cut cs ts) (h' : Cut (b :: more) us) :
    Cut (cs ++ b :: more) (ts ++ us) := by
  obtain ⟨tiles, tail, tiling, hblanks, rfl⟩ := h
  obtain ⟨tiles', tail', tiling', hblanks', rfl⟩ := append_blanks hblanks h'
  refine ⟨tiles ++ tiles', tail', ?_, hblanks', List.map_append⟩
  exact (hb.tiling tiling).append tiling'

end Cut

theorem head?_eq_of_begins {l cs more : List Char} (hl : l ≠ []) (hcs : cs ≠ [])
    (h : l <+: cs ++ more) : l.head? = cs.head? := by
  obtain ⟨c, l, rfl⟩ := List.exists_cons_of_ne_nil hl
  obtain ⟨d, cs, rfl⟩ := List.exists_cons_of_ne_nil hcs
  rw [(List.cons_prefix_cons.mp h).1]
  rfl

/-- No other keyword begins with a mark, so that it is found in front of any text. -/
theorem Lexeme.of_mark {c : Char} {token : Token} (h : (c, token) ∈ marks) (rest : List Char) :
    Lexeme [c] rest token := by
  have hword : ∃ w ∈ Keywords.words, w.1.toList = [c] ∧ w.2 = token := by
    simp only [marks, List.mem_cons, List.not_mem_nil, or_false, Prod.mk.injEq] at h
    rcases h with ⟨rfl, rfl⟩ | ⟨rfl, rfl⟩ | ⟨rfl, rfl⟩ | ⟨rfl, rfl⟩ <;>
      simp [Keywords.words, Keywords.word, Token.openParen, Token.closeParen, Token.comma,
        Token.semicolon]
  have halone : ∀ m ∈ marks, ∀ w ∈ Keywords.words,
      w.1.toList.head? = some m.1 → w.1.length ≤ 1 := by
    decide +kernel
  obtain ⟨w, hw, hspelling, htoken⟩ := hword
  rw [← hspelling, ← htoken]
  refine .keyword ⟨hw, List.prefix_append _ _, fun v hv hp => ?_⟩
  rw [hspelling] at hp
  have hhead := head?_eq_of_begins (Keywords.spelling_ne_nil v hv) (List.cons_ne_nil _ _) hp
  have hlen : w.1.length = 1 := by rw [← String.length_toList, hspelling, List.length_singleton]
  rw [hlen]
  exact halone (c, token) h v hv hhead

/-- A keyword in front of a break. -/
theorem Breaks.lexeme_of_mem (hb : Breaks b) {w : String × Token} (hw : w ∈ Keywords.words) :
    Lexeme w.1.toList (b :: rest) w.2 := by
  refine .keyword ⟨hw, List.prefix_append _ _, fun v hv hp => ?_⟩
  rw [← String.length_toList, ← String.length_toList]
  exact (hb.keyword_begins hv (Keywords.spelling_ne_nil w hw) hp).length_le

theorem BinaryOp.mem_words (op : BinaryOp) : (op.symbol, op.token) ∈ Keywords.words := by
  cases op with
  | arithmetic op =>
    cases op <;> simp [Keywords.words, Keywords.word, symbol, BinaryOp.token, BinaryOp.kind]
  | _ => simp [Keywords.words, Keywords.word, symbol, BinaryOp.token, BinaryOp.kind]

theorem UnaryOp.mem_words (op : UnaryOp) : (op.symbol, op.token) ∈ Keywords.words := by
  cases op <;> simp [Keywords.words, Keywords.word, UnaryOp.symbol, UnaryOp.token, BinaryOp.token,
    BinaryOp.kind, BinaryOp.symbol]

/-- A word that is read as one identifier. -/
def IsName (name : String) : Prop :=
  name.toList ≠ [] ∧ (∀ c ∈ name.toList.head?, isIdentifierStart c) ∧
    (∀ c ∈ name.toList, isIdentifierRest c) ∧ ¬ "true".toList <+: name.toList ∧
    ¬ "false".toList <+: name.toList

theorem IsName.absent {name : String} (h : IsName name) : Keywords.Absent name.toList := by
  obtain ⟨hne, hstart, -, htrue, hfalse⟩ := h
  intro w hw hp
  have hp' : w.1.toList <+: name.toList ++ [] := by rwa [List.append_nil]
  have hhead := head?_eq_of_begins (Keywords.spelling_ne_nil w hw) hne hp'
  have hwords : ∀ w ∈ Keywords.words, w.1.toList.head?.all isIdentifierStart →
      w.1 = "true" ∨ w.1 = "false" := by
    decide +kernel
  rcases hwords w hw (by simpa [hhead, Option.all_eq_true] using hstart) with hw | hw
  · exact htrue (hw ▸ hp)
  · exact hfalse (hw ▸ hp)

theorem Breaks.lexeme_of_isName (hb : Breaks b) {name : String} (h : IsName name) :
    Lexeme name.toList (b :: rest) (.identifier name) := by
  have hlexeme : Lexeme name.toList (b :: rest) (.identifier (String.ofList name.toList)) :=
    .word (hb.absent h.1 h.absent) h.1 h.2.1 ⟨h.2.2.1, by simpa using hb.1⟩
  rwa [String.ofList_toList] at hlexeme

end Formulas
