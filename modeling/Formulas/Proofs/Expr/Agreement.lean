import Formulas.Proofs.Expr.Step

/-! Two readings of one text, with other keywords or with a larger bound on nesting. Where the first
one comes to an end the second one comes to the same end, as long as no keyword makes a difference
on the way. Main statement: `follows_expressionWithin`. -/
namespace Formulas

/-- At all these places two tables of keywords give the same token, and the next place is one of
them. -/
structure Keywords.Agree (keywords keywords' : Keywords) (place : Cursor → Prop) : Prop where
  scan_eq : ∀ cursor, place cursor → scan keywords' cursor = scan keywords cursor
  closed : ∀ cursor token next, place cursor → scan keywords cursor = .ok (token, next) →
    place next

theorem Keywords.Agree.refl (keywords : Keywords) : keywords.Agree keywords fun _ => True :=
  ⟨fun _ _ => rfl, fun _ _ _ _ _ => trivial⟩

theorem Keywords.Agree.symm {keywords keywords' : Keywords} {place : Cursor → Prop}
    (h : keywords.Agree keywords' place) : keywords'.Agree keywords place where
  scan_eq cursor hplace := (h.scan_eq cursor hplace).symm
  closed cursor token next hplace hscan :=
    h.closed cursor token next hplace (h.scan_eq cursor hplace ▸ hscan)

namespace Reader

open Token (Kind)

/-- The second result is the first one, at a place in question, unless the first reading was cut
off. -/
inductive Same {α : Type} (place : Cursor → Prop) :
    EStateM.Result SyntaxError Reader α → EStateM.Result SyntaxError Reader α → Prop
  | ok {a : α} {reader : Reader} (h : place reader.cursor) : Same place (.ok a reader) (.ok a reader)
  | error {e : SyntaxError} {reader : Reader} : Same place (.error e reader) (.error e reader)
  | endless {reader : Reader} {result : EStateM.Result SyntaxError Reader α} :
      Same place (.error .endless reader) result

/-- From all these places the second reading comes to where the first one does. -/
def Follows {α : Type} (place : Cursor → Prop) (m m' : ReadM α) : Prop :=
  ∀ reader, place reader.cursor → Same place (m reader) (m' reader)

variable {α β : Type} {place : Cursor → Prop} {keywords keywords' : Keywords}
  {operand operand' : ReadM Expr} {fuel fuel' : Nat}

namespace Follows

theorem pure (a : α) : Follows place (Pure.pure a) (Pure.pure a) := fun _ h => .ok h

theorem throw (e : SyntaxError) :
    Follows place (MonadExcept.throw e : ReadM α) (MonadExcept.throw e) := fun _ _ => .error

/-- What is cut off at once is followed by anything. -/
theorem endless (m' : ReadM α) : Follows place (MonadExcept.throw .endless) m' :=
  fun _ _ => .endless

theorem bind {m m' : ReadM α} {next next' : α → ReadM β} (hm : Follows place m m')
    (hnext : ∀ a, Follows place (next a) (next' a)) :
    Follows place (m >>= next) (m' >>= next') := by
  intro reader hplace
  have h := hm reader hplace
  change Same place (EStateM.bind m next reader) (EStateM.bind m' next' reader)
  unfold EStateM.bind
  generalize m reader = result, m' reader = result' at h
  cases h with
  | ok h => exact hnext _ _ h
  | error => exact .error
  | endless => exact .endless

end Follows

/-- Going past a token, with either keywords. -/
theorem follows_step (h : keywords.Agree keywords' place) {step step' : ReadM α}
    {value : Reader → α}
    (hstep : ∀ reader, step reader = match scan keywords reader.cursor with
      | .ok (token, cursor) => .ok (value reader) (reader.moved token cursor)
      | .error e => .error e reader)
    (hstep' : ∀ reader, step' reader = match scan keywords' reader.cursor with
      | .ok (token, cursor) => .ok (value reader) (reader.moved token cursor)
      | .error e => .error e reader) : Follows place step step' := by
  intro reader hplace
  rw [hstep, hstep', h.scan_eq _ hplace]
  cases hscan : scan keywords reader.cursor with
  | error e => exact .error
  | ok next => exact .ok (h.closed _ _ _ hplace hscan)

theorem follows_advance (h : keywords.Agree keywords' place) :
    Follows place (advance keywords) (advance keywords') :=
  follows_step h (advance_apply keywords) (advance_apply keywords')

theorem follows_take (h : keywords.Agree keywords' place) :
    Follows place (take keywords) (take keywords') :=
  follows_step h (take_apply keywords) (take_apply keywords')

theorem follows_expect (h : keywords.Agree keywords' place) (kind : Kind) :
    Follows place (expect keywords kind) (expect keywords' kind) := by
  intro reader hplace
  rw [expect_apply, expect_apply]
  split
  · exact follows_advance h reader hplace
  · exact .error

theorem follows_chain (h : keywords.Agree keywords' place) (hoperand : Follows place operand operand')
    (kind : Kind) (hfuel : fuel ≤ fuel') (left : Expr) :
    Follows place (chain keywords kind operand fuel left)
      (chain keywords' kind operand' fuel' left) := by
  induction fuel generalizing fuel' left with
  | zero => exact .endless _
  | succ fuel ih =>
    obtain ⟨bound, rfl⟩ := Nat.exists_eq_add_one.mpr (Nat.zero_lt_of_lt hfuel)
    intro reader hplace
    rw [chain_apply, chain_apply]
    split
    · refine (follows_take h).bind (fun token => ?_) reader hplace
      split
      · exact hoperand.bind fun right => ih (Nat.le_of_succ_le_succ hfuel) _
      · exact .throw _
    · exact .ok hplace

theorem follows_level (h : keywords.Agree keywords' place) (hoperand : Follows place operand operand')
    (hfuel : fuel ≤ fuel') (kinds : List Kind) :
    Follows place (level keywords operand fuel kinds) (level keywords' operand' fuel' kinds) := by
  induction kinds with
  | nil => exact hoperand
  | cons kind tighter ih => exact ih.bind fun left => follows_chain h ih kind hfuel left

theorem follows_unaryChain (h : keywords.Agree keywords' place)
    (hoperand : Follows place operand operand') (hfuel : fuel ≤ fuel') :
    Follows place (unaryChain keywords operand fuel) (unaryChain keywords' operand' fuel') := by
  induction fuel generalizing fuel' with
  | zero => exact .endless _
  | succ fuel ih =>
    obtain ⟨bound, rfl⟩ := Nat.exists_eq_add_one.mpr (Nat.zero_lt_of_lt hfuel)
    intro reader hplace
    rw [unaryChain_apply, unaryChain_apply]
    split
    · exact (follows_advance h).bind
        (fun _ => (ih (Nat.le_of_succ_le_succ hfuel)).bind fun e => .pure _) reader hplace
    · exact hoperand reader hplace

theorem follows_moreArguments (h : keywords.Agree keywords' place)
    (hoperand : Follows place operand operand') (hfuel : fuel ≤ fuel') :
    Follows place (moreArguments keywords operand fuel)
      (moreArguments keywords' operand' fuel') := by
  induction fuel generalizing fuel' with
  | zero => exact .endless _
  | succ fuel ih =>
    obtain ⟨bound, rfl⟩ := Nat.exists_eq_add_one.mpr (Nat.zero_lt_of_lt hfuel)
    intro reader hplace
    rw [moreArguments_apply, moreArguments_apply]
    split
    · exact (follows_advance h).bind (fun _ => hoperand.bind fun first =>
        (ih (Nat.le_of_succ_le_succ hfuel)).bind fun others => .pure _) reader hplace
    · exact .ok hplace

theorem follows_arguments (h : keywords.Agree keywords' place)
    (hoperand : Follows place operand operand') (hfuel : fuel ≤ fuel') :
    Follows place (arguments keywords operand fuel) (arguments keywords' operand' fuel') := by
  intro reader hplace
  rw [arguments_apply, arguments_apply]
  split
  · exact .ok hplace
  · exact hoperand.bind (fun first =>
      (follows_moreArguments h hoperand hfuel).bind fun others => .pure _) reader hplace

theorem follows_afterName (h : keywords.Agree keywords' place)
    (hoperand : Follows place operand operand') (hfuel : fuel ≤ fuel') (path : String) :
    Follows place (afterName keywords operand fuel path)
      (afterName keywords' operand' fuel' path) := by
  intro reader hplace
  rw [afterName_apply, afterName_apply]
  split
  · exact (follows_advance h).bind (fun _ => (follows_arguments h hoperand hfuel).bind fun args =>
      (follows_expect h .closeParen).bind fun _ => .pure _) reader hplace
  · exact .ok hplace

theorem follows_primary (h : keywords.Agree keywords' place)
    (hoperand : Follows place operand operand') (hfuel : fuel ≤ fuel') :
    Follows place (primary keywords operand fuel) (primary keywords' operand' fuel') := by
  intro reader hplace
  rw [primary_apply, primary_apply]
  split
  · rw [identifierOrCall_eq, identifierOrCall_eq]
    refine (follows_take h).bind (fun token => ?_) reader hplace
    split
    · next path _ => exact follows_afterName h hoperand hfuel path
    · exact .throw _
  · refine (follows_take h).bind (fun token => ?_) reader hplace
    split
    · exact .pure _
    · exact .throw _
  · exact (follows_advance h).bind (fun _ => hoperand.bind fun e =>
      (follows_expect h .closeParen).bind fun _ => .pure e) reader hplace
  · exact .error

/-- A larger bound changes nothing but where the reading is cut off. -/
theorem follows_expressionWithin (h : keywords.Agree keywords' place) (hfuel : fuel ≤ fuel') :
    Follows place (expressionWithin keywords fuel) (expressionWithin keywords' fuel') := by
  induction fuel generalizing fuel' with
  | zero => exact .endless _
  | succ fuel ih =>
    obtain ⟨bound, rfl⟩ := Nat.exists_eq_add_one.mpr (Nat.zero_lt_of_lt hfuel)
    have hbound : fuel ≤ bound := Nat.le_of_succ_le_succ hfuel
    exact follows_level h (follows_unaryChain h (follows_primary h (ih hbound) hbound) hbound)
      hbound levels

theorem follows_whole (h : keywords.Agree keywords' place) :
    Follows place (whole keywords) (whole keywords') := by
  intro reader hplace
  have hexpression : Same place (expression keywords reader) (expression keywords' reader) :=
    follows_expressionWithin h (Nat.le_refl _) reader hplace
  rw [whole_apply, whole_apply]
  generalize expression keywords reader = result, expression keywords' reader = result' at hexpression
  cases hexpression with
  | @ok e reader hlast =>
    dsimp only
    split
    · exact .ok hlast
    · exact .error
  | error => exact .error
  | endless => exact .endless

end Reader
end Formulas
