import Formulas.Proofs.Expr.Step
import Formulas.Proofs.Token.Tiling

/-! With any keywords, even such that do not fit their kinds, the reader only moves on from token to
token and notes the identifiers that it puts into the tree. When it fails it stays where it found
the cause. Main statement: `identifiers_grow_by_leaves`. -/
namespace Formulas

mutual

/-- A tree that the reader can build, with the paths of its identifiers from left to right. -/
inductive Built : Expr → List String → Prop
  | constant (value : Value) : Built (.constant value) []
  | identifier (path : String) : Built (.identifier path) [path]
  | unary {e : Expr} {paths : List String} (op : UnaryOp) (h : Built e paths) :
      Built (.unary op e) paths
  | binary {left right : Expr} {lefts rights : List String} (op : BinaryOp) (hl : Built left lefts)
      (hr : Built right rights) : Built (.binary op left right) (lefts ++ rights)
  | call {args : List Expr} {paths : List String} (name : String) (h : BuiltAll args paths) :
      Built (.call name args) paths

inductive BuiltAll : List Expr → List String → Prop
  | nil : BuiltAll [] []
  | cons {e : Expr} {es : List Expr} {paths others : List String} (h : Built e paths)
      (hs : BuiltAll es others) : BuiltAll (e :: es) (paths ++ others)

end

namespace Expr

mutual

/-- The paths of the identifiers of a tree from left to right. -/
def leaves : Expr → List String
  | .constant _ => []
  | .identifier path => [path]
  | .apply _ args => leavesAll args

def leavesAll : List Expr → List String
  | [] => []
  | e :: es => e.leaves ++ leavesAll es

end

theorem leavesAll_eq_flatMap (es : List Expr) : leavesAll es = es.flatMap leaves := by
  induction es with
  | nil => rfl
  | cons e es ih => rw [leavesAll, ih, List.flatMap_cons]

end Expr

mutual

theorem Built.leaves_eq {e : Expr} {paths : List String} : Built e paths → e.leaves = paths
  | .constant _ => rfl
  | .identifier _ => rfl
  | .unary _ h => by simp [Expr.unary, Expr.leaves, Expr.leavesAll, h.leaves_eq]
  | .binary _ hl hr => by
    simp [Expr.binary, Expr.leaves, Expr.leavesAll, hl.leaves_eq, hr.leaves_eq]
  | .call _ h => by rw [Expr.call, Expr.leaves, h.leavesAll_eq]

theorem BuiltAll.leavesAll_eq {es : List Expr} {paths : List String} :
    BuiltAll es paths → Expr.leavesAll es = paths
  | .nil => rfl
  | .cons h hs => by rw [Expr.leavesAll, h.leaves_eq, hs.leavesAll_eq]

end

namespace Reader

open Token (Kind)

variable (keywords : Keywords)

/-- The reader moves on over tokens and notes these paths on its way. -/
inductive Walk : Reader → List String → Reader → Prop
  | stay {reader : Reader} : Walk reader [] reader
  | move {reader reader' : Reader} {paths : List String} {token : Token} {cursor : Cursor}
      (h : Walk reader paths reader')
      (next : scan keywords reader'.cursor = .ok (token, cursor)) :
      Walk reader paths (reader'.moved token cursor)
  | note {reader reader' : Reader} {paths : List String} (h : Walk reader paths reader')
      (path : String) : Walk reader (paths ++ [path])
        { reader' with identifiers := reader'.identifiers.push path }

/-- A reader that fails stands in front of a fault of the text, or has no use for its current
token. -/
def Stops (e : SyntaxError) (reader : Reader) : Prop :=
  scan keywords reader.cursor = .error e ∨ e = .unexpectedEnd ∨ e = .endless

/-- What is read goes with the paths that are noted on the way. -/
def Walked {α : Type} (noted : α → List String → Prop) (reader : Reader) :
    EStateM.Result SyntaxError Reader α → Prop
  | .ok a reader' => ∃ paths, noted a paths ∧ Walk keywords reader paths reader'
  | .error e reader' =>
    (∃ paths, Walk keywords reader paths reader') ∧ Stops keywords e reader'

def Walks {α : Type} (m : ReadM α) (noted : α → List String → Prop) : Prop :=
  ∀ reader, Walked keywords noted reader (m reader)

variable {keywords} {α β : Type} {operand : ReadM Expr} {fuel : Nat}

theorem Walk.trans {reader₁ reader₂ reader₃ : Reader} {paths others : List String}
    (h : Walk keywords reader₁ paths reader₂) (h' : Walk keywords reader₂ others reader₃) :
    Walk keywords reader₁ (paths ++ others) reader₃ := by
  induction h' with
  | stay => rwa [List.append_nil]
  | move _ next ih => exact .move ih next
  | note _ path ih =>
    rw [← List.append_assoc]
    exact .note ih path

theorem Walk.identifiers_eq {reader reader' : Reader} {paths : List String}
    (h : Walk keywords reader paths reader') :
    reader'.identifiers.toList = reader.identifiers.toList ++ paths := by
  induction h with
  | stay => rw [List.append_nil]
  | move _ _ ih => exact ih
  | note _ path ih => rw [Array.toList_push, ih, List.append_assoc]

/-- No token is left out and none is read twice. -/
theorem Walk.scans {reader reader' : Reader} {paths : List String} {start : Cursor}
    (h : Walk keywords reader paths reader')
    (hs : Scans keywords start (reader.taken.toList ++ [reader.current]) reader.cursor) :
    Scans keywords start (reader'.taken.toList ++ [reader'.current]) reader'.cursor := by
  induction h with
  | stay => exact hs
  | move _ next ih =>
    rw [moved, Array.toList_push]
    exact ih.append (.cons next .nil)
  | note _ _ ih => exact ih

theorem Walk.scans_of_start {text : String} {reader reader' : Reader} {paths : List String}
    (h : Walk keywords reader paths reader') (hstart : start keywords text = .ok reader) :
    Scans keywords (.start text) (reader'.taken.toList ++ [reader'.current]) reader'.cursor := by
  obtain ⟨hscan, hnone, -⟩ := of_start hstart
  refine h.scans ?_
  rw [hnone]
  exact .cons hscan .nil

namespace Walks

theorem pure {a : α} {noted : α → List String → Prop} (h : noted a []) :
    Walks keywords (Pure.pure a) noted :=
  fun _ => ⟨[], h, .stay⟩

theorem throw {e : SyntaxError} {noted : α → List String → Prop}
    (he : e = .unexpectedEnd ∨ e = .endless) : Walks keywords (MonadExcept.throw e) noted :=
  fun _ => ⟨⟨[], .stay⟩, .inr he⟩

theorem bind {m : ReadM α} {next : α → ReadM β} {noted : α → List String → Prop}
    {noted' : β → List String → Prop} (hm : Walks keywords m noted)
    (hnext : ∀ a paths, noted a paths →
      Walks keywords (next a) fun b others => noted' b (paths ++ others)) :
    Walks keywords (m >>= next) noted' := by
  intro reader
  have h := hm reader
  change Walked keywords noted' reader (EStateM.bind m next reader)
  unfold EStateM.bind
  cases hr : m reader with
  | error e reader₁ =>
    rw [hr] at h
    exact h
  | ok a reader₁ =>
    rw [hr] at h
    obtain ⟨paths, hnoted, hwalk⟩ := h
    have h' := hnext a paths hnoted reader₁
    dsimp only
    cases hr' : next a reader₁ with
    | error e reader₂ =>
      rw [hr'] at h'
      obtain ⟨⟨others, hwalk'⟩, hstops⟩ := h'
      exact ⟨⟨paths ++ others, hwalk.trans hwalk'⟩, hstops⟩
    | ok b reader₂ =>
      rw [hr'] at h'
      obtain ⟨others, hnoted', hwalk'⟩ := h'
      exact ⟨paths ++ others, hnoted', hwalk.trans hwalk'⟩

/-- Where nothing is noted, all is as before. -/
theorem bind_silent {m : ReadM α} {next : α → ReadM β} {noted : β → List String → Prop}
    (hm : Walks keywords m fun _ paths => paths = [])
    (hnext : ∀ a, Walks keywords (next a) noted) : Walks keywords (m >>= next) noted := by
  refine hm.bind fun a paths hp => ?_
  subst hp
  exact hnext a

end Walks

/-- Going past a token notes nothing. -/
theorem walks_step {step : ReadM α} {value : Reader → α}
    (hstep : ∀ reader, step reader = match scan keywords reader.cursor with
      | .ok (token, cursor) => .ok (value reader) (reader.moved token cursor)
      | .error e => .error e reader) : Walks keywords step fun _ paths => paths = [] := by
  intro reader
  rw [hstep]
  cases h : scan keywords reader.cursor with
  | error e => exact ⟨⟨[], .stay⟩, .inl h⟩
  | ok next => exact ⟨[], rfl, .move .stay h⟩

theorem walks_advance : Walks keywords (advance keywords) fun _ paths => paths = [] :=
  walks_step (advance_apply keywords)

theorem walks_take : Walks keywords (take keywords) fun _ paths => paths = [] :=
  walks_step (take_apply keywords)

theorem walks_expect (kind : Kind) :
    Walks keywords (expect keywords kind) fun _ paths => paths = [] := by
  intro reader
  rw [expect_apply]
  split
  · exact walks_advance reader
  · exact Walks.throw (.inl rfl) reader

theorem walks_chain (kind : Kind) (hoperand : Walks keywords operand Built) (fuel : Nat)
    {left : Expr} {lefts : List String} (hleft : Built left lefts) :
    Walks keywords (chain keywords kind operand fuel left)
      fun e paths => Built e (lefts ++ paths) := by
  induction fuel generalizing left lefts with
  | zero => exact .throw (.inr rfl)
  | succ fuel ih =>
    intro reader
    rw [chain_apply]
    split
    · refine Walks.bind_silent walks_take (fun token => ?_) reader
      split
      · next op _ =>
        refine hoperand.bind fun right rights hright => ?_
        simpa only [List.append_assoc] using ih (hleft.binary op hright)
      · exact .throw (.inl rfl)
    · exact ⟨[], by simpa using hleft, .stay⟩

theorem walks_level (hoperand : Walks keywords operand Built) (fuel : Nat) (kinds : List Kind) :
    Walks keywords (level keywords operand fuel kinds) Built := by
  induction kinds with
  | nil => exact hoperand
  | cons kind tighter ih => exact ih.bind fun left lefts hleft => walks_chain kind ih fuel hleft

theorem walks_unaryChain (hoperand : Walks keywords operand Built) (fuel : Nat) :
    Walks keywords (unaryChain keywords operand fuel) Built := by
  induction fuel with
  | zero => exact .throw (.inr rfl)
  | succ fuel ih =>
    intro reader
    rw [unaryChain_apply]
    split
    · next op _ =>
      refine Walks.bind_silent walks_advance (fun _ => ih.bind fun e paths he => .pure ?_) reader
      rw [List.append_nil]
      exact he.unary op
    · exact hoperand reader

theorem walks_moreArguments (hoperand : Walks keywords operand Built) (fuel : Nat) :
    Walks keywords (moreArguments keywords operand fuel) BuiltAll := by
  induction fuel with
  | zero => exact .throw (.inr rfl)
  | succ fuel ih =>
    intro reader
    rw [moreArguments_apply]
    split
    · refine Walks.bind_silent walks_advance (fun _ => hoperand.bind fun first paths hfirst =>
        ih.bind fun others paths' hothers => .pure ?_) reader
      rw [List.append_nil]
      exact .cons hfirst hothers
    · exact ⟨[], .nil, .stay⟩

theorem walks_arguments (hoperand : Walks keywords operand Built) (fuel : Nat) :
    Walks keywords (arguments keywords operand fuel) BuiltAll := by
  intro reader
  rw [arguments_apply]
  split
  · exact ⟨[], .nil, .stay⟩
  · refine Walks.bind hoperand (fun first paths hfirst =>
      (walks_moreArguments hoperand fuel).bind fun others paths' hothers => .pure ?_) reader
    rw [List.append_nil]
    exact .cons hfirst hothers

theorem walks_afterName (hoperand : Walks keywords operand Built) (fuel : Nat) (path : String) :
    Walks keywords (afterName keywords operand fuel path) Built := by
  intro reader
  rw [afterName_apply]
  split
  · refine Walks.bind_silent walks_advance (fun _ => (walks_arguments hoperand fuel).bind
      fun args paths hargs => (walks_expect .closeParen).bind_silent fun _ => .pure ?_) reader
    rw [List.append_nil]
    exact .call path hargs
  · exact ⟨[path], .identifier path, .note .stay path⟩

theorem walks_primary (hoperand : Walks keywords operand Built) (fuel : Nat) :
    Walks keywords (primary keywords operand fuel) Built := by
  intro reader
  rw [primary_apply]
  split
  · rw [identifierOrCall_eq]
    refine Walks.bind_silent walks_take (fun token => ?_) reader
    split
    · next path _ => exact walks_afterName hoperand fuel path
    · exact .throw (.inl rfl)
  · refine Walks.bind_silent walks_take (fun token => ?_) reader
    split
    · next value _ => exact .pure (.constant value)
    · exact .throw (.inl rfl)
  · refine Walks.bind_silent walks_advance (fun _ => hoperand.bind fun e paths he =>
      (walks_expect .closeParen).bind_silent fun _ => .pure ?_) reader
    rwa [List.append_nil]
  · exact Walks.throw (.inl rfl) reader

theorem walks_expressionWithin (fuel : Nat) :
    Walks keywords (expressionWithin keywords fuel) Built := by
  induction fuel with
  | zero => exact .throw (.inr rfl)
  | succ fuel ih => exact walks_level (walks_unaryChain (walks_primary ih fuel) fuel) fuel levels

theorem walks_expression (keywords : Keywords) : Walks keywords (expression keywords) Built :=
  fun reader => walks_expressionWithin _ reader

theorem walks_whole (keywords : Keywords) : Walks keywords (whole keywords) Built := by
  intro reader
  have h := walks_expression keywords reader
  rw [whole_apply]
  cases hr : expression keywords reader with
  | error e reader₁ =>
    rw [hr] at h
    exact h
  | ok e reader₁ =>
    rw [hr] at h
    dsimp only
    split
    · exact h
    · obtain ⟨paths, _, hwalk⟩ := h
      exact ⟨⟨paths, hwalk⟩, .inr (.inl rfl)⟩

theorem Walked.identifiers_eq {reader reader' : Reader} {e : Expr}
    (h : Walked keywords Built reader (.ok e reader')) :
    reader'.identifiers.toList = reader.identifiers.toList ++ e.leaves := by
  obtain ⟨paths, hbuilt, hwalk⟩ := h
  rw [hwalk.identifiers_eq, hbuilt.leaves_eq]

/-- When the reader of a text fails, it has taken the first tokens of the text up to its current
one. -/
theorem scans_of_whole_error {text : String} {reader stopped : Reader} {e : SyntaxError}
    (hstart : start keywords text = .ok reader)
    (h : whole keywords reader = .error e stopped) :
    Scans keywords (.start text) (stopped.taken.toList ++ [stopped.current]) stopped.cursor := by
  have hw := walks_whole keywords reader
  rw [h] at hw
  obtain ⟨⟨paths, hwalk⟩, -⟩ := hw
  exact hwalk.scans_of_start hstart

end Reader

/-- A formula lists the identifiers of its tree in the order of the text. -/
theorem Formula.identifiers_eq_leaves {keywords : Keywords} {source : String} {formula : Formula}
    (h : Formula.readWith keywords source = .ok formula) :
    formula.identifiers = formula.root.leaves := by
  obtain ⟨reader, stopped, hstart, hwhole, hidentifiers⟩ := Formula.exists_whole_of_readWith h
  obtain ⟨-, -, hnone⟩ := Reader.of_start hstart
  have hw := Reader.walks_whole keywords reader
  rw [hwhole] at hw
  rw [hidentifiers, hw.identifiers_eq, hnone]
  rfl

/-- From wherever it reads an expression, the reader notes each identifier of the tree in its place
and nothing else. -/
theorem identifiers_grow_by_leaves (keywords : Keywords) :
    (∀ reader e reader', Reader.expression keywords reader = .ok e reader' →
      reader'.identifiers.toList = reader.identifiers.toList ++ e.leaves) ∧
    ∀ source formula, Formula.readWith keywords source = .ok formula →
      formula.identifiers = formula.root.leaves := by
  constructor
  · intro reader e reader' h
    have hw := Reader.walks_expression keywords reader
    rw [h] at hw
    exact hw.identifiers_eq
  · intro source formula h
    exact Formula.identifiers_eq_leaves h

/-- Behind a note of `x` the call `f(a+a)` is read with few keywords. -/
theorem call_notes_its_arguments :
    let keywords : Keywords := .add (.add (.add .empty "(" ⟨.openParen, "(", .none⟩)
      ")" ⟨.closeParen, ")", .none⟩) "+" ⟨.additive, "+", .binary (.arithmetic .add)⟩
    ∃ e reader', Reader.expression keywords
        ⟨⟨1, "(a+a)".toList⟩, .identifier "f", #[], #["x"]⟩ = .ok e reader' ∧
      e.leaves = ["a", "a"] ∧ reader'.identifiers.toList = ["x", "a", "a"] := by
  intro keywords
  have hread : ((Reader.expression keywords).run'
      ⟨⟨1, "(a+a)".toList⟩, .identifier "f", #[], #["x"]⟩).map Expr.leaves = some ["a", "a"] := by
    decide +kernel
  unfold EStateM.run' EStateM.run at hread
  cases h : Reader.expression keywords ⟨⟨1, "(a+a)".toList⟩, .identifier "f", #[], #["x"]⟩ with
  | error =>
    rw [h] at hread
    cases hread
  | ok e reader' =>
    rw [h] at hread
    have hleaves : e.leaves = ["a", "a"] := Option.some.inj hread
    have hnotes := (identifiers_grow_by_leaves keywords).1 _ _ _ h
    rw [hleaves] at hnotes
    exact ⟨e, reader', rfl, hleaves, hnotes⟩

end Formulas
