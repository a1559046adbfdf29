import Formulas.Proofs.Expr.Walk

/-! One reader that is asked again and again, whether or not it fails. It never loses its place in
the text, and a fault of the text stops it for good. Main statement: `session_keeps_place`. -/
namespace Formulas

/-- The text itself is at fault, and not the order of its tokens. -/
def SyntaxError.IsLexical : SyntaxError → Prop
  | .unknownCharacter _ | .unterminatedQuote _ | .invalidNumber _ => True
  | .unexpectedEnd | .endless => False

namespace Reader

/-- What a reader can be asked for: an expression, or one with nothing behind it. -/
inductive Request where
  | expression
  | whole

variable (keywords : Keywords)

def Request.read : Request → ReadM Expr
  | .expression => Reader.expression keywords
  | .whole => Reader.whole keywords

/-- The answer to a request, and the reader after it. -/
def ask (request : Request) (reader : Reader) : Except SyntaxError Expr × Reader :=
  match request.read keywords reader with
  | .ok e reader => (.ok e, reader)
  | .error e reader => (.error e, reader)

/-- The answers to requests one after the other, and the reader after the last one. -/
def session : List Request → Reader → List (Except SyntaxError Expr) × Reader
  | [], reader => ([], reader)
  | request :: requests, reader =>
    let (answer, next) := ask keywords request reader
    let (answers, last) := session requests next
    (answer :: answers, last)

variable {keywords} {α β : Type} {reader : Reader} {operand : ReadM Expr}
  {fault : SyntaxError}

/-- A request moves the reader on, and a failure has its cause where the reader stands then. -/
theorem ask_walks (keywords : Keywords) (request : Request) (reader : Reader) :
    (∃ paths, Walk keywords reader paths (ask keywords request reader).2) ∧
      ∀ e, (ask keywords request reader).1 = .error e →
        Stops keywords e (ask keywords request reader).2 := by
  have hwalked : Walked keywords Built reader (request.read keywords reader) := by
    cases request with
    | expression => exact walks_expression keywords reader
    | whole => exact walks_whole keywords reader
  unfold ask
  cases hr : request.read keywords reader with
  | ok tree last =>
    rw [hr] at hwalked
    obtain ⟨paths, -, hwalk⟩ := hwalked
    exact ⟨⟨paths, hwalk⟩, fun e he => nomatch he⟩
  | error e last =>
    rw [hr] at hwalked
    refine ⟨hwalked.1, fun e' he => ?_⟩
    cases he
    exact hwalked.2

theorem session_walks (keywords : Keywords) (requests : List Request) (reader : Reader) :
    ∃ paths, Walk keywords reader paths (session keywords requests reader).2 := by
  induction requests generalizing reader with
  | nil => exact ⟨[], .stay⟩
  | cons request requests ih =>
    obtain ⟨paths, hfirst⟩ := (ask_walks keywords request reader).1
    obtain ⟨others, hmore⟩ := ih (ask keywords request reader).2
    exact ⟨paths ++ others, hfirst.trans hmore⟩

/-- The computation fails, at the fault of the text or at a token out of place, and leaves the reader
where it is. -/
def Stuck (fault : SyntaxError) (m : ReadM α) (reader : Reader) : Prop :=
  ∃ e, (e = fault ∨ e = .unexpectedEnd) ∧ m reader = .error e reader

theorem Stuck.bind {m : ReadM α} (h : Stuck fault m reader) (next : α → ReadM β) :
    Stuck fault (m >>= next) reader := by
  obtain ⟨e, hcause, he⟩ := h
  refine ⟨e, hcause, ?_⟩
  change EStateM.bind m next reader = _
  rw [EStateM.bind, he]

section
variable (hfault : scan keywords reader.cursor = .error fault)
include hfault

theorem stuck_advance : Stuck fault (advance keywords) reader := by
  refine ⟨fault, .inl rfl, ?_⟩
  rw [advance_apply, hfault]

theorem stuck_take : Stuck fault (take keywords) reader := by
  refine ⟨fault, .inl rfl, ?_⟩
  rw [take_apply, hfault]

/-- Whatever begins an operand takes a token, and anything else is out of place. -/
theorem stuck_primary (fuel : Nat) : Stuck fault (primary keywords operand fuel) reader := by
  unfold Stuck
  rw [primary_apply]
  split
  · rw [identifierOrCall_eq]
    exact (stuck_take hfault).bind _
  · exact (stuck_take hfault).bind _
  · exact (stuck_advance hfault).bind _
  · exact ⟨.unexpectedEnd, .inr rfl, rfl⟩

theorem stuck_unaryChain (hoperand : Stuck fault operand reader) (fuel : Nat) :
    Stuck fault (unaryChain keywords operand (fuel + 1)) reader := by
  unfold Stuck
  rw [unaryChain_apply]
  split
  · exact (stuck_advance hfault).bind _
  · exact hoperand

end

theorem stuck_level (hoperand : Stuck fault operand reader) (fuel : Nat)
    (kinds : List Token.Kind) : Stuck fault (level keywords operand fuel kinds) reader := by
  induction kinds with
  | nil => exact hoperand
  | cons kind tighter ih => exact ih.bind _

theorem stuck_expressionWithin (hfault : scan keywords reader.cursor = .error fault) (fuel : Nat) :
    Stuck fault (expressionWithin keywords (fuel + 2)) reader := by
  have hprimary : Stuck fault
      (primary keywords (expressionWithin keywords (fuel + 1)) (fuel + 1)) reader :=
    stuck_primary hfault (fuel + 1)
  exact stuck_level (stuck_unaryChain hfault hprimary fuel) (fuel + 1) levels

/-- In front of a fault nothing can be read any more. -/
theorem ask_of_fault (hfault : scan keywords reader.cursor = .error fault) (request : Request) :
    ∃ e, (e = fault ∨ e = .unexpectedEnd) ∧ ask keywords request reader = (.error e, reader) := by
  obtain ⟨e, hcause, he⟩ := stuck_expressionWithin hfault (reader.cursor.rest.length + 2)
  rw [← expression_apply] at he
  refine ⟨e, hcause, ?_⟩
  unfold ask
  cases request with
  | expression => rw [Request.read, he]
  | whole => rw [Request.read, whole_apply, he]

theorem session_of_fault (hfault : scan keywords reader.cursor = .error fault)
    (requests : List Request) : ∃ errors : List SyntaxError, errors.length = requests.length ∧
      (∀ e ∈ errors, e = fault ∨ e = .unexpectedEnd) ∧
      session keywords requests reader = (errors.map .error, reader) := by
  induction requests with
  | nil => exact ⟨[], rfl, by simp, rfl⟩
  | cons request requests ih =>
    obtain ⟨e, hcause, he⟩ := ask_of_fault hfault request
    obtain ⟨errors, hlength, hcauses, hsession⟩ := ih
    refine ⟨e :: errors, ?_, List.forall_mem_cons.mpr ⟨hcause, hcauses⟩, ?_⟩
    · rw [List.length_cons, hlength, List.length_cons]
    · simp only [session, he, hsession, List.map_cons]

/-- After any requests the reader has taken the first tokens of the text, none left out and none
twice, and its cursor stands behind the current one. Once it has come to a fault of the text, all
later requests fail, there or at the current token, and leave it as it is. -/
theorem session_keeps_place {text : String} (hstart : start keywords text = .ok reader)
    (requests : List Request) :
    Scans keywords (.start text)
      ((session keywords requests reader).2.taken.toList ++
        [(session keywords requests reader).2.current])
      (session keywords requests reader).2.cursor ∧
    ∀ request fault stopped,
      ask keywords request (session keywords requests reader).2 = (.error fault, stopped) →
        fault.IsLexical → ∀ later : List Request, ∃ errors : List SyntaxError,
          errors.length = later.length ∧ (∀ e ∈ errors, e = fault ∨ e = .unexpectedEnd) ∧
            session keywords later stopped = (errors.map .error, stopped) := by
  constructor
  · obtain ⟨paths, hwalk⟩ := session_walks keywords requests reader
    exact hwalk.scans_of_start hstart
  · intro request fault stopped hask hlexical later
    have hstops := (ask_walks keywords request (session keywords requests reader).2).2
    rw [hask] at hstops
    rcases hstops fault rfl with hfault | rfl | rfl
    · exact session_of_fault hfault later
    · exact hlexical.elim
    · exact hlexical.elim

/-- The operator in front of the fault is out of place for later requests, so that they fail in
another way. -/
theorem session_behind_fault :
    ask (.add .empty "and" ⟨.logicalAnd, "and", .binary .and⟩) .whole
      ⟨⟨1, " and #".toList⟩, .identifier "a", #[], #[]⟩ =
        (.error (.unknownCharacter '#'),
          ⟨⟨5, [' ', '#']⟩, ⟨.logicalAnd, "and", .binary .and⟩, #[.identifier "a"], #["a"]⟩) ∧
    ∃ errors : List SyntaxError, errors.length = 2 ∧
      (∀ e ∈ errors, e = .unknownCharacter '#' ∨ e = .unexpectedEnd) ∧
      session (.add .empty "and" ⟨.logicalAnd, "and", .binary .and⟩) [.expression, .whole]
        ⟨⟨5, [' ', '#']⟩, ⟨.logicalAnd, "and", .binary .and⟩, #[.identifier "a"], #["a"]⟩ =
      (errors.map .error,
        ⟨⟨5, [' ', '#']⟩, ⟨.logicalAnd, "and", .binary .and⟩, #[.identifier "a"], #["a"]⟩) := by
  have hstart : start (.add .empty "and" ⟨.logicalAnd, "and", .binary .and⟩) "a and #" =
      .ok ⟨⟨1, " and #".toList⟩, .identifier "a", #[], #[]⟩ := rfl
  have hask : ask (.add .empty "and" ⟨.logicalAnd, "and", .binary .and⟩) .whole
      ⟨⟨1, " and #".toList⟩, .identifier "a", #[], #[]⟩ =
        (.error (.unknownCharacter '#'),
          ⟨⟨5, [' ', '#']⟩, ⟨.logicalAnd, "and", .binary .and⟩, #[.identifier "a"], #["a"]⟩) := rfl
  exact ⟨hask, (session_keeps_place hstart []).2 .whole _ _ hask trivial [.expression, .whole]⟩

end Reader
end Formulas
