import Formulas.Formula

/-! What each part of the reader does at the current token. -/
namespace Formulas

namespace Reader

open Token (Kind)

variable (keywords : Keywords) (kind : Kind) (operand : ReadM Expr) (fuel : Nat) (left : Expr)
  (reader : Reader)

/-- The reader at the next token. -/
def moved (token : Token) (cursor : Cursor) : Reader :=
  { reader with cursor, current := token, taken := reader.taken.push reader.current }

theorem advance_apply : advance keywords reader = match scan keywords reader.cursor with
    | .ok (token, cursor) => .ok () (reader.moved token cursor)
    | .error e => .error e reader := by
  change (match scan keywords reader.cursor with
    | .ok (token, cursor) => set (reader.moved token cursor)
    | .error e => throw e : ReadM Unit) reader = _
  cases scan keywords reader.cursor <;> rfl

theorem take_apply : take keywords reader = match scan keywords reader.cursor with
    | .ok (token, cursor) => .ok reader.current (reader.moved token cursor)
    | .error e => .error e reader := by
  change EStateM.bind (advance keywords) (fun _ => pure reader.current) reader = _
  rw [EStateM.bind, advance_apply]
  cases scan keywords reader.cursor <;> rfl

theorem expect_apply : expect keywords kind reader =
    if reader.current.kind = kind then advance keywords reader
    else .error .unexpectedEnd reader := by
  change (if reader.current.kind = kind then _ else _ : ReadM Unit) reader = _
  split <;> rfl

theorem chain_apply : chain keywords kind operand (fuel + 1) left reader =
    if reader.current.kind = kind then
      (take keywords >>= fun token => match token.payload with
        | .binary op =>
          operand >>= fun right => chain keywords kind operand fuel (.binary op left right)
        | _ => throw .unexpectedEnd) reader
    else .ok left reader := by
  rw [chain]
  change (if reader.current.kind = kind then _ else _ : ReadM Expr) reader = _
  split <;> rfl

theorem unaryChain_apply : unaryChain keywords operand (fuel + 1) reader =
    match unaryOf? reader.current with
    | some op => (advance keywords >>= fun _ =>
        unaryChain keywords operand fuel >>= fun e => pure (.unary op e)) reader
    | none => operand reader := by
  rw [unaryChain]
  change (match unaryOf? reader.current with | some _ => _ | none => _ : ReadM Expr) reader = _
  cases unaryOf? reader.current <;> rfl

theorem moreArguments_apply : moreArguments keywords operand (fuel + 1) reader =
    if reader.current.kind = .delimiter then
      (advance keywords >>= fun _ => operand >>= fun first =>
        moreArguments keywords operand fuel >>= fun others => pure (first :: others)) reader
    else .ok [] reader := by
  rw [moreArguments]
  change (if reader.current.kind = .delimiter then _ else _ : ReadM (List Expr)) reader = _
  split <;> rfl

theorem arguments_apply : arguments keywords operand fuel reader =
    if reader.current.kind = .closeParen then .ok [] reader
    else (operand >>= fun first =>
      moreArguments keywords operand fuel >>= fun others => pure (first :: others)) reader := by
  change (if reader.current.kind = .closeParen then _ else _ : ReadM (List Expr)) reader = _
  split <;> rfl

/-- What is left of an identifier or a call behind its name. -/
def afterName (path : String) : ReadM Expr := do
  if (← currentKind) = .openParen then
    advance keywords
    let args ← arguments keywords operand fuel
    expect keywords .closeParen
    return .call path args
  else
    pushIdentifier path
    return .identifier path

theorem identifierOrCall_eq : identifierOrCall keywords operand fuel =
    take keywords >>= fun token => match token.payload with
      | .path path => afterName keywords operand fuel path
      | _ => throw .unexpectedEnd := rfl

theorem afterName_apply (path : String) : afterName keywords operand fuel path reader =
    if reader.current.kind = .openParen then
      (advance keywords >>= fun _ => arguments keywords operand fuel >>= fun args =>
        expect keywords .closeParen >>= fun _ => pure (.call path args)) reader
    else .ok (.identifier path) { reader with identifiers := reader.identifiers.push path } := by
  change (if reader.current.kind = .openParen then _ else _ : ReadM Expr) reader = _
  split <;> rfl

theorem primary_apply : primary keywords operand fuel reader =
    match reader.current.kind with
    | .identifier => identifierOrCall keywords operand fuel reader
    | .constant => (take keywords >>= fun token => match token.payload with
        | .constant value => pure (.constant value)
        | _ => throw .unexpectedEnd) reader
    | .openParen => (advance keywords >>= fun _ => operand >>= fun e =>
        expect keywords .closeParen >>= fun _ => pure e) reader
    | _ => .error .unexpectedEnd reader := by
  obtain ⟨cursor, ⟨kind, lexeme, payload⟩, taken, identifiers⟩ := reader
  cases kind <;> rfl

theorem expression_apply : expression keywords reader =
    expressionWithin keywords (reader.cursor.rest.length + 4) reader := rfl

theorem whole_apply : whole keywords reader =
    match expression keywords reader with
    | .ok e reader => if reader.current.kind = .eof then .ok e reader
        else .error .unexpectedEnd reader
    | .error e reader => .error e reader := by
  change EStateM.bind (expression keywords) _ reader = _
  unfold EStateM.bind
  cases expression keywords reader with
  | error => rfl
  | ok e reader =>
    change (if reader.current.kind = .eof then _ else _ : ReadM Expr) reader = _
    dsimp only
    split <;> rfl

variable {reader} in
theorem primary_eq_throw (h : reader.current.kind ∉ [.constant, .identifier, .openParen]) :
    primary keywords operand fuel reader = .error .unexpectedEnd reader := by
  rw [primary_apply]
  split
  · next hk => simp [hk] at h
  · next hk => simp [hk] at h
  · next hk => simp [hk] at h
  · rfl

variable {keywords reader}

/-- The reader of a text starts with nothing behind it. -/
theorem of_start {text : String} (h : start keywords text = .ok reader) :
    scan keywords (.start text) = .ok (reader.current, reader.cursor) ∧
      reader.taken = #[] ∧ reader.identifiers = #[] := by
  unfold start at h
  cases hs : scan keywords (.start text) with
  | error e =>
    rw [hs] at h
    cases h
  | ok next =>
    rw [hs] at h
    cases h
    exact ⟨rfl, rfl, rfl⟩

end Reader

/-- What is made of a reading. -/
def Formula.ofResult (source : String) :
    EStateM.Result SyntaxError Reader Expr → Except SyntaxError Formula
  | .ok root reader => .ok ⟨source, root, reader.identifiers.toList⟩
  | .error e _ => .error e

theorem Formula.readWith_eq (keywords : Keywords) (source : String) :
    Formula.readWith keywords source = (Reader.start keywords source).bind fun reader =>
      Formula.ofResult source (Reader.whole keywords reader) := by
  unfold Formula.readWith
  cases Reader.start keywords source with
  | error e => rfl
  | ok reader =>
    change (match (Reader.whole keywords).run reader with | .ok _ _ => _ | .error _ _ => _) =
      Formula.ofResult source (Reader.whole keywords reader)
    rw [EStateM.run]
    cases Reader.whole keywords reader <;> rfl

/-- The formula of a text is what the reader of the text makes of it. -/
theorem Formula.exists_whole_of_readWith {keywords : Keywords} {source : String}
    {formula : Formula} (h : Formula.readWith keywords source = .ok formula) :
    ∃ reader stopped, Reader.start keywords source = .ok reader ∧
      Reader.whole keywords reader = .ok formula.root stopped ∧
      formula.identifiers = stopped.identifiers.toList := by
  rw [Formula.readWith_eq] at h
  cases hs : Reader.start keywords source with
  | error e =>
    rw [hs] at h
    cases h
  | ok reader =>
    rw [hs, Except.bind] at h
    cases hr : Reader.whole keywords reader with
    | error e stopped =>
      rw [hr] at h
      cases h
    | ok root stopped =>
      rw [hr] at h
      cases h
      exact ⟨reader, stopped, rfl, hr, rfl⟩

end Formulas
