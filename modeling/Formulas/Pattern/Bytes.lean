import Formulas.Pattern.CharSet

/-! Characters as bytes, and ranges of characters as sequences of ranges of bytes. -/
namespace Formulas.CharSet

def bytes (n : Nat) : List Nat :=
  if n < 0x80 then [n]
  else if n < 0x800 then [0xc0 + n / 0x40, 0x80 + n % 0x40]
  else if n < 0x10000 then [0xe0 + n / 0x1000, 0x80 + n / 0x40 % 0x40, 0x80 + n % 0x40]
  else [0xf0 + n / 0x40000, 0x80 + n / 0x1000 % 0x40, 0x80 + n / 0x40 % 0x40, 0x80 + n % 0x40]

/-- The last character before a cut that a range needs. A part between cuts has characters of one
length, and each of its bytes runs through a range of its own. -/
def cut? (first last : Nat) : Option Nat :=
  if first < 0xe000 ∧ 0xd7ff < last then some 0xd7ff
  else
    match [0x7f, 0x7ff, 0xffff].find? fun m => first ≤ m && m < last with
    | some m => some m
    | Option.none =>
      if last ≤ 0x7f then Option.none
      else
        [0x40, 0x1000, 0x40000].findSome? fun block =>
          if first / block = last / block then Option.none
          else if first % block ≠ 0 then some (first / block * block + (block - 1))
          else if last % block ≠ block - 1 then some (last / block * block - 1)
          else Option.none

theorem lt_next (n : Nat) : n < next n := by
  unfold next
  split <;> omega

/-- The sequences of ranges of bytes that make up a range of characters, in order. -/
def sequences (first last : Nat) : List (List (Nat × Nat)) :=
  match cut? first last with
  | some m =>
    if _h : first ≤ m ∧ m < last then sequences first m ++ sequences (next m) last
    else [(bytes first).zip (bytes last)]
  | Option.none => [(bytes first).zip (bytes last)]
termination_by last - first
decreasing_by
  · omega
  · have := lt_next m
    omega

/-- The sequences of ranges of bytes that make up a set, in order. -/
def byteSequences (s : CharSet) : List (List (Nat × Nat)) :=
  s.ranges.flatMap fun (first, last) => sequences first last

end Formulas.CharSet
