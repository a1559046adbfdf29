import Formulas.Pattern.Basic
import Std.Data.HashMap

/-! How much memory the automaton of a pattern takes. A pattern is too large if its automaton is, or
the automaton that reads a text backward. -/
namespace Formulas.Pattern

/-- How many states an automaton has so far, and how many bytes they take. -/
structure Footprint where
  states : Nat
  bytes : Nat

namespace Footprint

/-- The most bytes that an automaton may take. -/
def limit : Nat := 10485760

/-- Each state takes 32 bytes. An edge of a state with several edges takes 8 more, and a branch of a
fork takes 4 more. -/
def add (f : Footprint) (states extra : Nat) : Footprint :=
  ⟨f.states + states, f.bytes + 32 * states + extra⟩

/-- What linking a part to the next takes. A part that ends in a fork gets one more branch. -/
def link (fork : Bool) : Nat := if fork then 4 else 0

/-- A part that is built, and whether it ends in a fork, if it is not too large. -/
def built (f : Footprint) (fork : Bool) : Option (Footprint × Bool) :=
  if f.bytes ≤ limit then some (f, fork) else none

end Footprint

open Footprint

/-! ### Sets -/

/-- States that may be shared. Each stands in the slot of its key until another key takes the slot.
-/
structure Sharing where
  footprint : Footprint
  slots : Std.HashMap Nat (List Nat × Nat)

/-- A hash of 64 bits. -/
def hashFrom (hash : UInt64) : List Nat → UInt64
  | [] => hash
  | n :: ns => hashFrom ((hash ^^^ n.toUInt64) * 1099511628211) ns

def slot (count : Nat) (key : List Nat) : Nat := (hashFrom 14695981039346656037 key).toNat % count

/-- The number of the state that stands in the slot of its key. -/
def Sharing.find? (s : Sharing) (i : Nat) (key : List Nat) : Option Nat :=
  match s.slots[i]? with
  | some (other, number) => if other = key then some number else none
  | none => none

/-- The number of the state with a key. A new one takes some bytes besides. -/
def Sharing.state (s : Sharing) (count extra : Nat) (key : List Nat) : Nat × Sharing :=
  let i := slot count key
  match s.find? i key with
  | some number => (number, s)
  | none =>
    let number := s.footprint.states
    (number, ⟨s.footprint.add 1 extra, s.slots.insert i (key, number)⟩)

/-- The state that begins sequences of bytes of at most some length and leads to the target after
them. Its key are its edges. -/
def forwardState (target : Nat) :
    (length : Nat) → List (List (Nat × Nat)) → Sharing → Nat × Sharing
  | 0, _, s => (target, s)
  | length + 1, sequences, s =>
    let groups := sequences.splitBy fun p q => p.head? = q.head?
    let (key, s) := groups.foldl (fun (key, s) group =>
      match group.head? with
      | some ((first, last) :: rest) =>
        let (next, s) := if rest = [] then (target, s)
          else forwardState target length (group.map List.tail) s
        (next :: last :: first :: key, s)
      | _ => (key, s)) ([], s)
    s.state 10000 (8 * groups.length) key.reverse

/-- The states of sequences of bytes that are read from the end of the text. States with the same
successor and the same bytes are shared. -/
def backwardStates (target : Nat) (s : Sharing) : List (List (Nat × Nat)) → Sharing
  | [] => s
  | sequence :: rest =>
    let (_, s) := sequence.foldl (fun (next, s) (first, last) =>
      s.state 1000 0 [next, first, last]) (target, s)
    backwardStates target { s with footprint := s.footprint.add 0 4 } rest

/-- A set within ASCII is one state before its end. Others share states. -/
def setFootprint (backward : Bool) (set : CharSet) (f : Footprint) : Footprint :=
  if set.isAscii then f.add 2 (8 * set.ranges.length)
  else if backward then
    (backwardStates (f.states + 1) ⟨f.add 2 0, ∅⟩ set.byteSequences).footprint
  else (forwardState f.states 4 set.byteSequences ⟨f.add 1 0, ∅⟩).2.footprint

/-! ### Literals as alternatives -/

/-- The words between those that are empty. Empty words at the start count once. -/
def wordChunks (words : List (List Nat)) (chunk : List (List Nat)) (fresh seen : Bool) :
    List (List (List Nat)) :=
  match words with
  | [] => [chunk.reverse]
  | [] :: words =>
    if fresh && seen then wordChunks words chunk fresh seen
    else chunk.reverse :: wordChunks words [] fresh true
  | word :: words => wordChunks words (word :: chunk) false seen

/-- The states of words of at most some length. Words share a state as long as they begin alike and
no other word ends between them. -/
def wordsFootprint : (length : Nat) → List (List Nat) → Footprint → Footprint
  | 0, _, f => f
  | length + 1, words, f =>
    let chunks := wordChunks words [] true false
    let f := chunks.foldl (fun f chunk =>
      let heads := (chunk.filterMap List.head?).eraseDups
      let f := match heads with
        | [] => f
        | [_] => f.add 1 0
        | _ => f.add 1 (8 * heads.length)
      heads.foldl (fun f head =>
        let tails := (chunk.filter (·.head? = some head)).map List.tail
        if tails.all (·.isEmpty) then f else wordsFootprint length tails f) f) f
    let filled := chunks.countP fun chunk => !chunk.isEmpty
    f.add 1 (4 * (filled + chunks.length - 1))

/-- The words of a pattern of which all branches are literals. -/
def words? (p : Pattern) : Option (List (List Nat)) :=
  p.branches.mapM fun
    | literal text => some (textBytes text)
    | _ => none

/-! ### Repetitions -/

/-- More copies of a part. -/
def copies (part : Footprint → Option (Footprint × Bool)) :
    Nat → Footprint → (fork : Bool) → Option (Footprint × Bool)
  | 0, f, fork => some (f, fork)
  | n + 1, f, fork =>
    match part f with
    | some (f, next) => copies part n (f.add 0 (link fork)) next
    | none => none

/-- A number of copies of a part. -/
def exactly (part : Footprint → Option (Footprint × Bool)) (n : Nat) (f : Footprint) :
    Option (Footprint × Bool) :=
  match n with
  | 0 => built (f.add 1 0) false
  | n + 1 => do
    let (f, fork) ← part f
    copies part n f fork

/-- More copies of a part, each after a fork that leads past the others. -/
def optionals (part : Footprint → Option (Footprint × Bool)) :
    Nat → Footprint → (fork : Bool) → Option (Footprint × Bool)
  | 0, f, fork => built (f.add 0 (link fork)) false
  | n + 1, f, fork =>
    match part (f.add 1 0) with
    | some (f, next) => optionals part n (f.add 0 (8 + link fork)) next
    | none => none

/-- A repetition of a part, which may match nothing if `nullable` is set. -/
def repetition (part : Footprint → Option (Footprint × Bool)) (nullable : Bool) (least : Nat)
    (most : Option Nat) (f : Footprint) : Option (Footprint × Bool) :=
  match least, most with
  | 0, some 1 => do
    let (f, fork) ← part (f.add 1 0)
    built (f.add 1 (8 + link fork)) false
  | 0, none =>
    if nullable then do
      let (f, fork) ← part f
      built (f.add 3 (16 + link fork)) false
    else do
      let (f, fork) ← part (f.add 1 0)
      built (f.add 0 (4 + link fork)) true
  | 1, none => do
    let (f, fork) ← part f
    built (f.add 1 (4 + link fork)) true
  | n + 2, none => do
    let (f, fork) ← exactly part (n + 1) f
    let (f, last) ← part f
    built (f.add 1 (4 + link fork + link last)) true
  | least, some most => do
    let (f, fork) ← exactly part least f
    if least = most then some (f, fork) else optionals part (most - least) (f.add 1 0) fork

/-! ### Patterns -/

/-- Where a part stands: for itself, as the second branch of alternatives, or as a later one. -/
inductive Branch where
  | whole
  | second
  | later

/-- Adds a branch to its alternatives. Their fork and their end come after the second branch. -/
def Branch.close (b : Branch) (f : Footprint) (fork : Bool) : Option (Footprint × Bool) :=
  match b with
  | whole => built f fork
  | second => built (f.add 2 (4 + link fork)) false
  | later => built (f.add 0 (4 + link fork)) false

/-- Adds the automaton of a pattern to what is there. Groups take states only if the text is read
forward. -/
def grow (backward : Bool) : Pattern → Branch → Footprint → Option (Footprint × Bool)
  | empty, b, f => b.close (f.add 1 0) false
  | literal text, b, f => b.close (f.add (textBytes text).length 0) false
  | chars set, b, f => b.close (setFootprint backward set f) false
  | look .., b, f => b.close (f.add 1 0) false
  | capture _ p, b, f =>
    if backward then do
      let (f, fork) ← p.grow backward .whole f
      b.close f fork
    else do
      let (f, fork) ← p.grow backward .whole (f.add 1 0)
      b.close (f.add 1 (link fork)) false
  | seq p q, b, f =>
    if backward then do
      let (f, fork) ← q.grow backward .whole f
      let (f, last) ← p.grow backward .whole f
      b.close (f.add 0 (link fork)) last
    else do
      let (f, fork) ← p.grow backward .whole f
      let (f, last) ← q.grow backward .whole f
      b.close (f.add 0 (link fork)) last
  | repeated p least most _, b, f => do
    let nullable := !(p.minSize.any (0 < ·))
    let (f, fork) ← repetition (p.grow backward .whole) nullable least most f
    b.close f fork
  | alt p q, .whole, f =>
    match words? (alt p q) with
    | some words =>
      let words := if backward then words.map List.reverse else words
      let length := words.foldl (fun n word => max n word.length) 0
      built (wordsFootprint (length + 1) words (f.add 1 0)) false
    | none => do
      let (f, fork) ← p.grow backward .whole f
      q.grow backward .second (f.add 0 (4 + link fork))
  | alt p q, b, f => do
    let (f, _) ← p.grow backward b f
    q.grow backward .later f

/-- What stands before a pattern: the loop over the text before a match, or one state if a match
cannot begin there. -/
def entry (anchored : Bool) : Footprint :=
  let none : Footprint := ⟨0, 0⟩
  if anchored then none.add 1 0 else none.add 3 16

/-- Whether a pattern is not too large. The whole pattern is a group of its own. -/
def isSmall (p : Pattern) : Bool :=
  let forward := do
    let (f, fork) ← p.grow false .whole ((entry p.startsText).add 1 0)
    built (f.add 2 (link fork)) false
  let backward := do
    let (f, fork) ← p.grow true .whole (entry p.endsText)
    built (f.add 1 (link fork)) false
  forward.isSome && backward.isSome

end Formulas.Pattern
