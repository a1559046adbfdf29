import Formulas.Pattern.Bytes

/-! Patterns in a simple form: sequences and alternatives are flat, neighbouring literals are one,
and alternatives share no beginning. -/
namespace Formulas

/-- Conditions on a place in a text. -/
inductive Look where
  | textStart
  | textEnd
  | lineStart
  | lineEnd
  | crlfLineStart
  | crlfLineEnd
  | wordBoundary
  | notWordBoundary
  | wordStart
  | wordEnd
  | wordStartHalf
  | wordEndHalf
  deriving DecidableEq, Repr

def Look.isOnWords : Look → Bool
  | .wordBoundary | .notWordBoundary | .wordStart | .wordEnd | .wordStartHalf | .wordEndHalf => true
  | _ => false

/-- Whether a repetition is greedy, and which group captures what, plays no part in what is matched,
but in which patterns are equal. A condition says whether words reach beyond ASCII. -/
inductive Pattern where
  | empty
  | literal (text : List Char)
  | chars (set : CharSet)
  | look (l : Look) (unicode : Bool)
  | seq (p q : Pattern)
  | alt (p q : Pattern)
  | repeated (p : Pattern) (least : Nat) (most : Option Nat) (greedy : Bool)
  | capture (index : Nat) (p : Pattern)
  deriving DecidableEq, Repr

namespace Pattern

def never : Pattern := chars CharSet.none

def size : Pattern → Nat
  | seq p q | alt p q => p.size + q.size + 1
  | repeated p _ _ _ | capture _ p => p.size + 1
  | _ => 1

/-! ### Lengths in bytes -/

/-- The bytes of a text. -/
def textBytes (text : List Char) : List Nat := text.flatMap fun c => CharSet.bytes c.toNat

/-- The length of the shortest match, if the pattern can match at all. -/
def minSize : Pattern → Option Nat
  | empty | look .. => some 0
  | literal text => some (textBytes text).length
  | chars s => s.ranges.head?.map fun (first, _) => (CharSet.bytes first).length
  | seq p q => do return (← p.minSize) + (← q.minSize)
  | alt p q => do return min (← p.minSize) (← q.minSize)
  | repeated p least _ _ => p.minSize.map (· * least)
  | capture _ p => p.minSize

/-- The length of the longest match, if there is such a bound. -/
def maxSize : Pattern → Option Nat
  | empty | look .. => some 0
  | literal text => some (textBytes text).length
  | chars s => s.ranges.getLast?.map fun (_, last) => (CharSet.bytes last).length
  | seq p q => do return (← p.maxSize) + (← q.maxSize)
  | alt p q => do return max (← p.maxSize) (← q.maxSize)
  | repeated p _ most _ => do return (← p.maxSize) * (← most)
  | capture _ p => p.maxSize

/-- Whether it shows that each match begins at the start of the text. -/
def startsText : Pattern → Bool
  | look l _ => l = .textStart
  | seq p q => p.startsText || (p.maxSize = some 0 && q.startsText)
  | alt p q => p.startsText && q.startsText
  | repeated p least _ _ => least ≠ 0 && p.startsText
  | capture _ p => p.startsText
  | _ => false

/-- Whether it shows that each match ends at the end of the text. -/
def endsText : Pattern → Bool
  | look l _ => l = .textEnd
  | seq p q => q.endsText || (q.maxSize = some 0 && p.endsText)
  | alt p q => p.endsText && q.endsText
  | repeated p least _ _ => least ≠ 0 && p.endsText
  | capture _ p => p.endsText
  | _ => false

/-! ### Simple forms -/

/-- A set of one character is a literal. -/
def ofSet (s : CharSet) : Pattern :=
  match s.single? with
  | some n => literal [Char.ofNat n]
  | none => chars s

/-- What matches only the empty text need not be repeated. -/
def times (p : Pattern) (least : Nat) (most : Option Nat) (greedy : Bool) : Pattern :=
  let isEmpty := p.maxSize = some 0
  let least := if isEmpty then min least 1 else least
  let most := if isEmpty then some (min (most.getD 1) 1) else most
  if least = 0 ∧ most = some 0 then empty
  else if least = 1 ∧ most = some 1 then p
  else repeated p least most greedy

/-- The parts of a sequence. -/
def parts : Pattern → List Pattern
  | empty => []
  | seq p q => p.parts ++ q.parts
  | p => [p]

def ofParts : List Pattern → Pattern
  | [] => empty
  | [p] => p
  | p :: ps => seq p (ofParts ps)

def joinLiterals : List Pattern → List Pattern
  | [] => []
  | p :: ps =>
    match p, joinLiterals ps with
    | literal s, literal t :: rest => literal (s ++ t) :: rest
    | p, rest => p :: rest

def sequence (ps : List Pattern) : Pattern := ofParts (joinLiterals (ps.flatMap parts))

/-- The branches of alternatives. -/
def branches : Pattern → List Pattern
  | alt p q => p.branches ++ q.branches
  | p => [p]

def ofBranches : List Pattern → Pattern
  | [] => never
  | [p] => p
  | p :: ps => alt p (ofBranches ps)

def char? : Pattern → Option Nat
  | literal [c] => some c.toNat
  | _ => none

def set? : Pattern → Option CharSet
  | chars s => some s
  | _ => none

/-- The parts that two sequences begin with. -/
def sharedParts : List Pattern → List Pattern → List Pattern
  | p :: ps, q :: qs => if p = q then p :: sharedParts ps qs else []
  | _, _ => []

/-- Alternatives of single characters and those of sets are one set. What all sequences begin with
stands before the alternatives. -/
def choiceWithin : (fuel : Nat) → List Pattern → Pattern
  | 0, ps => ofBranches ps
  | fuel + 1, ps =>
    let ps := ps.flatMap branches
    match ps with
    | [p] => p
    | _ =>
      match ps.mapM char?, ps.mapM set? with
      | some ns, _ => ofSet (CharSet.ofChars ns)
      | _, some sets => ofSet (CharSet.unions sets)
      | none, none =>
        let sequences := ps.map fun p => if p matches seq .. then p.parts else []
        let shared := (sequences.tail.foldl sharedParts (sequences.headD []))
        if shared = [] then ofBranches ps
        else
          let rests := sequences.map fun parts => ofParts (parts.drop shared.length)
          sequence (shared ++ [choiceWithin fuel rests])

def choice (ps : List Pattern) : Pattern :=
  choiceWithin (ps.foldl (fun n p => n + p.size) 1) ps

end Pattern
end Formulas
