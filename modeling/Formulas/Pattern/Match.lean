import Formulas.Pattern.Name
import Formulas.Pattern.Basic

/-! Whether a pattern occurs in a text. A marked pattern carries marks on its sets of characters,
one for each way to have matched up to the current place, and a character moves the marks on. -/
namespace Formulas.Pattern

/-- A condition on words carries what counts as a word character. -/
inductive Marked where
  | empty
  | chars (set : CharSet) (marked : Bool)
  | look (l : Look) (word : CharSet)
  | seq (p q : Marked)
  | alt (p q : Marked)
  | star (p : Marked)

/-- The characters on both sides of a place. -/
structure Place where
  before : Option Char
  after : Option Char

def Place.holds (place : Place) (word : CharSet) (l : Look) : Bool :=
  let isNewline (c : Option Char) := c = some '\n'
  let wordBefore := place.before.any fun c => word.contains c.toNat
  let wordAfter := place.after.any fun c => word.contains c.toNat
  match l with
  | .textStart => place.before.isNone
  | .textEnd => place.after.isNone
  | .lineStart => place.before.isNone || isNewline place.before
  | .lineEnd => place.after.isNone || isNewline place.after
  | .crlfLineStart =>
    place.before.isNone || isNewline place.before ||
      (place.before = some '\r' && !isNewline place.after)
  | .crlfLineEnd =>
    place.after.isNone || place.after = some '\r' ||
      (isNewline place.after && place.before ≠ some '\r')
  | .wordBoundary => wordBefore != wordAfter
  | .notWordBoundary => wordBefore == wordAfter
  | .wordStart => !wordBefore && wordAfter
  | .wordEnd => wordBefore && !wordAfter
  | .wordStartHalf => !wordBefore
  | .wordEndHalf => !wordAfter

namespace Marked

/-- Whether the empty text at a place is a match. -/
def nullable (place : Place) : Marked → Bool
  | empty => true
  | chars .. => false
  | look l word => place.holds word l
  | seq p q => p.nullable place && q.nullable place
  | alt p q => p.nullable place || q.nullable place
  | star _ => true

/-- Whether some mark can stand at the end of the pattern at a place. -/
def final (place : Place) : Marked → Bool
  | empty => false
  | chars _ marked => marked
  | look .. => false
  | seq p q => (p.final place && q.nullable place) || q.final place
  | alt p q => p.final place || q.final place
  | star p => p.final place

/-- What a pattern is after a character, and whether it was nullable and had a final mark at the
place before. -/
structure Shifted where
  pattern : Marked
  nullable : Bool
  final : Bool

/-- Moves the marks over a character. A new mark comes in at the start if `enter` is set. -/
def shift (place : Place) (c : Char) : (enter : Bool) → Marked → Shifted
  | _, empty => ⟨empty, true, false⟩
  | enter, chars set marked => ⟨chars set (enter && set.contains c.toNat), false, marked⟩
  | _, look l word => ⟨look l word, place.holds word l, false⟩
  | enter, seq p q =>
    let p := p.shift place c enter
    let q := q.shift place c ((enter && p.nullable) || p.final)
    ⟨seq p.pattern q.pattern, p.nullable && q.nullable, (p.final && q.nullable) || q.final⟩
  | enter, alt p q =>
    let p := p.shift place c enter
    let q := q.shift place c enter
    ⟨alt p.pattern q.pattern, p.nullable || q.nullable, p.final || q.final⟩
  | enter, star p =>
    let p := p.shift place c (enter || p.final place)
    ⟨star p.pattern, true, p.final⟩

/-- Whether a match ends here or further on. A match may begin at each place. -/
def occursFrom (before : Option Char) : Marked → List Char → Bool
  | p, [] => p.nullable ⟨before, none⟩ || p.final ⟨before, none⟩
  | p, c :: cs =>
    let p := p.shift ⟨before, some c⟩ c true
    p.nullable || p.final || occursFrom (some c) p.pattern cs

/-- A number of copies one after another. Both halves are about as long. -/
def power (p : Marked) (n : Nat) : Marked :=
  if n = 0 then empty
  else if n = 1 then p
  else seq (power p (n / 2)) (power p (n - n / 2))

end Marked

/-- The pattern without marks. -/
def unmarked : Pattern → Marked
  | empty => .empty
  | literal text => text.foldr (fun c p => .seq (.chars (.single c.toNat) false) p) .empty
  | chars s => .chars s false
  | look l unicode => .look l (if unicode then CharSet.words else CharSet.asciiWords)
  | seq p q => .seq p.unmarked q.unmarked
  | alt p q => .alt p.unmarked q.unmarked
  | repeated p least most _ =>
    let p := p.unmarked
    let more := match most with
      | none => p.star
      | some most => Marked.power (.alt .empty p) (most - least)
    .seq (p.power least) more
  | capture _ p => p.unmarked

/-- Whether a pattern occurs in a text. -/
def occursIn (p : Pattern) (cs : List Char) : Bool := p.unmarked.occursFrom none cs

end Formulas.Pattern
