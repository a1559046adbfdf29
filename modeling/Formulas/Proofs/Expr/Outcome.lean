import Formulas.Expr.Reader
import Formulas.Proofs.Expr.Follow

/-! What reading a part of an expression comes to: a derivation and no other one can be meant, or a
fault of the text, or a token that cannot come next. Outcomes of parts are put together as the
grammar says. -/
namespace Formulas

open Grammar Derivation

/-- The class that a kind of tokens belongs to. -/
def Token.Kind.terminal : Token.Kind → Terminal
  | .constant => .constant
  | .identifier => .identifier
  | .openParen => .openParen
  | .closeParen => .closeParen
  | .delimiter => .delimiter
  | .negation | .step => .prefixed
  | kind => .operator kind

/-- A token of the language other than the end. -/
def Token.Standard (token : Token) : Prop :=
  ∃ m : token.kind.terminal.Meaning, token.kind.terminal.Spelled m token

/-- The tokens from the current one on, up to the end or to a fault. -/
inductive Ahead (keywords : Keywords) : Option SyntaxError → Token → Cursor → List Token → Prop
  | finish {current : Token} {cursor : Cursor} (eof : current.kind = .eof) :
      Ahead keywords none current cursor [current]
  | fault {e : SyntaxError} {current : Token} {cursor : Cursor} (standard : current.Standard)
      (stop : scan keywords cursor = .error e) : Ahead keywords (some e) current cursor [current]
  | token {fault : Option SyntaxError} {current next : Token} {cursor behind : Cursor}
      {ts : List Token} (standard : current.Standard)
      (step : scan keywords cursor = .ok (next, behind))
      (others : Ahead keywords fault next behind ts) :
      Ahead keywords fault current cursor (current :: ts)

variable (keywords : Keywords)

/-- The reader has left the tokens `us` behind and has `ts` before it. -/
structure Reader.At (fault : Option SyntaxError) (us ts : List Token) (reader : Reader) : Prop where
  taken : reader.taken.toList = us
  ahead : Ahead keywords fault reader.current reader.cursor ts

/-- What became of reading tokens of a form inside of the symbol `x`. After an offence the current
token is the first one that no derivation explains. -/
inductive Outcome {β : Type} (fault : Option SyntaxError) (x : Symbol) (form : Form)
    (value : form.Meaning → β → Prop) (us ts : List Token) :
    EStateM.Result SyntaxError Reader β → Prop
  | read {b : β} {reader : Reader} (d : Derivation form) (rest : List Token)
      (split : ts = d.tokens ++ rest) (meaning : value d.meaning b)
      (place : reader.At keywords fault (us ++ d.tokens) rest)
      (only : ∀ d' : Derivation form, d'.Fits x (d.tokens ++ [reader.current]) → d' = d) :
      Outcome fault x form value us ts (.ok b reader)
  | fault {e : SyntaxError} {reader : Reader} (hf : fault = some e)
      (taken : reader.taken.toList ++ [reader.current] = us ++ ts) (d : Derivation form)
      (viable : ts <+: d.tokens) : Outcome fault x form value us ts (.error e reader)
  | offence {reader : Reader} (vs rest : List Token) (split : ts = vs ++ rest)
      (place : reader.At keywords fault (us ++ vs) rest) (d : Derivation form)
      (viable : vs <+: d.tokens)
      (none : ∀ d' : Derivation form, ¬ d'.Fits x (vs ++ [reader.current])) :
      Outcome fault x form value us ts (.error .unexpectedEnd reader)

theorem Ahead.exists_cons {keywords : Keywords} {fault : Option SyntaxError} {current : Token}
    {cursor : Cursor} {ts : List Token} (h : Ahead keywords fault current cursor ts) :
    ∃ rest, ts = current :: rest := by
  cases h <;> exact ⟨_, rfl⟩

theorem Reader.At.exists_cons {keywords : Keywords} {fault : Option SyntaxError}
    {us ts : List Token} {reader : Reader} (h : reader.At keywords fault us ts) :
    ∃ rest, ts = reader.current :: rest :=
  h.ahead.exists_cons

namespace Outcome

variable {keywords} {fault : Option SyntaxError} {x y : Symbol} {xs : List Symbol} {β γ : Type}
  {us ts rest : List Token} {reader : Reader}

/-- What is read behind some tokens of a form completes it, if these tokens and the next one leave
no other choice. -/
theorem within {form form' : Form} {inner : form.Meaning → β → Prop}
    {value : form'.Meaning → β → Prop} {before : List Token}
    {result : EStateM.Result SyntaxError Reader β}
    (h : Outcome keywords fault y form inner (us ++ before) rest result)
    (make : Derivation form → Derivation form')
    (tokens_make : ∀ d, (make d).tokens = before ++ d.tokens)
    (only : ∀ (d' : Derivation form') z, z ≠ [] → z <+: rest → d'.Fits x (before ++ z) →
      ∃ d, d' = make d ∧ d.Fits y z)
    (meaning : ∀ d b, inner d.meaning b → value (make d).meaning b) :
    Outcome keywords fault x form' value us (before ++ rest) result := by
  cases h with
  | fault hf taken d viable =>
    refine .fault hf (by simpa using taken) (make d) ?_
    rwa [tokens_make, List.prefix_append_right_inj]
  | @offence reader vs rest' split place d viable none =>
    obtain ⟨others, rfl⟩ := place.exists_cons
    refine .offence (before ++ vs) _ (by rw [split, List.append_assoc]) ?_ (make d) ?_
      fun d' hd' => ?_
    · rwa [← List.append_assoc]
    · rwa [tokens_make, List.prefix_append_right_inj]
    · rw [List.append_assoc] at hd'
      have hp : vs ++ [reader.current] <+: rest := by
        rw [split, List.prefix_append_right_inj]
        exact List.prefix_append [reader.current] others
      obtain ⟨d, rfl, hd⟩ := only d' _ (by simp) hp hd'
      exact none d hd
  | @read _ reader d rest' split hm place sure =>
    obtain ⟨others, rfl⟩ := place.exists_cons
    refine .read (make d) (reader.current :: others) ?_ (meaning d _ hm) ?_ fun d' hd' => ?_
    · rw [split, tokens_make, List.append_assoc]
    · rwa [tokens_make, ← List.append_assoc]
    · rw [tokens_make, List.append_assoc] at hd'
      have hp : d.tokens ++ [reader.current] <+: rest := by
        rw [split, List.prefix_append_right_inj]
        exact List.prefix_append [reader.current] others
      obtain ⟨d₂, rfl, hd₂⟩ := only d' _ (by simp) hp hd'
      rw [sure d₂ hd₂]

theorem mono {form : Form} {value value' : form.Meaning → β → Prop}
    {result : EStateM.Result SyntaxError Reader β}
    (h : Outcome keywords fault x form value us ts result)
    (hv : ∀ m b, value m b → value' m b) : Outcome keywords fault x form value' us ts result := by
  cases h with
  | fault hf taken d viable => exact .fault hf taken d viable
  | offence vs rest split place d viable none => exact .offence vs rest split place d viable none
  | read d rest split hm place sure => exact .read d rest split (hv _ _ hm) place sure

/-- The parts of a row are read one after the other. -/
theorem bind {read : ReadM γ} {next : γ → ReadM β} {inner : y.Meaning → γ → Prop}
    {value : rowMeaning (y :: xs) → β → Prop}
    (hread : Outcome keywords fault y (.one y) inner us ts (read reader))
    (closes : Closes x y xs) (others : Nonempty (Derivation (.row xs)))
    (hnext : ∀ (d : Derivation (.one y)) v rest reader', ts = d.tokens ++ rest →
      inner d.meaning v → reader'.At keywords fault (us ++ d.tokens) rest →
      Outcome keywords fault x (.row xs) (fun m => value (d.meaning, m)) (us ++ d.tokens)
        rest (next v reader')) :
    Outcome keywords fault x (.row (y :: xs)) value us ts ((read >>= next) reader) := by
  obtain ⟨filler⟩ := others
  change Outcome keywords fault x (.row (y :: xs)) value us ts (EStateM.bind read next reader)
  unfold EStateM.bind
  generalize read reader = result at hread
  cases hread with
  | fault hf taken d viable =>
    exact .fault hf taken (.cons d filler) (viable.trans (List.prefix_append ..))
  | offence vs rest split place d viable none =>
    refine .offence vs rest split place (.cons d filler) (viable.trans (List.prefix_append ..)) ?_
    intro d' hd'
    cases d' with
    | cons first more => exact none first (hd'.first closes)
  | @read v reader₁ d rest split meaning place sure =>
    subst split
    refine (hnext d _ rest _ rfl meaning place).within (.cons d) (fun _ => rfl) ?_ fun _ _ h => h
    -- A row with these tokens begins with `d`, since the token behind `d` was seen.
    intro d' z hz hp hd'
    obtain ⟨others, rfl⟩ := place.exists_cons
    obtain ⟨t, z, rfl⟩ := List.exists_cons_of_ne_nil hz
    obtain rfl : t = reader₁.current := (List.cons_prefix_cons.mp hp).1
    cases d' with
    | cons first more =>
      have hseen : d.tokens ++ [reader₁.current] <+: d.tokens ++ reader₁.current :: z :=
        (List.prefix_append_right_inj _).mpr (List.prefix_append [_] z)
      obtain rfl := sure first ((hd'.first closes).mono hseen)
      exact ⟨more, rfl, hd'.others⟩

/-- A nonterminal is read by the production that the current token picks. -/
theorem node {s : Nonterminal} (p : Production s) {value : s.Meaning → β → Prop} {t : Token}
    {result : EStateM.Result SyntaxError Reader β} (starts : p.Starts t)
    (ht : s = .primary → t.kind ≠ .identifier)
    (h : Outcome keywords fault (.nonterminal s) (.row p.symbols) (fun m => value (p.build m)) us
      (t :: ts) result) :
    Outcome keywords fault (.nonterminal s) (.one (.nonterminal s)) value us (t :: ts) result := by
  rw [← List.append_nil us] at h
  refine h.within (.node p) (fun _ => rfl) ?_ fun _ _ h => h
  intro d' z hz hp hd'
  obtain ⟨u, z, rfl⟩ := List.exists_cons_of_ne_nil hz
  obtain rfl := (List.cons_prefix_cons.mp hp).1
  exact hd'.exists_parts starts ht

/-- The last part of a row. -/
theorem last {inner : y.Meaning → β → Prop} {value : rowMeaning [y] → β → Prop}
    {result : EStateM.Result SyntaxError Reader β}
    (h : Outcome keywords fault y (.one y) inner us ts result) (closes : Closes x y [])
    (meaning : ∀ m b, inner m b → value (m, ()) b) :
    Outcome keywords fault x (.row [y]) value us ts result := by
  rw [← List.append_nil us] at h
  refine h.within (fun d => .cons d .nil) (fun d => List.append_nil _) ?_ fun d => meaning d.meaning
  intro d' z _ _ hd'
  cases d' with
  | cons first others =>
    cases others with
    | nil => exact ⟨first, rfl, hd'.first closes⟩

theorem pure {value : Unit → β → Prop} {b : β} (h : value () b)
    (place : reader.At keywords fault us ts) :
    Outcome keywords fault x (.row []) value us ts ((Pure.pure b : ReadM β) reader) := by
  refine .read .nil ts rfl h (by rwa [tokens, List.append_nil]) fun d' _ => ?_
  cases d' with
  | nil => rfl

end Outcome
end Formulas
