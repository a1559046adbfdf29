import Formulas.Decimal.Basic

/-! Arithmetic of decimals. A result that does not fit is rounded half to even, and there is none
if its whole part does not fit. -/
namespace Formulas.Decimal

/-- A magnitude over `10 ^ scale` with the fewest places dropped that make it fit. -/
def fit? (negative : Bool) (m scale : Nat) : Option Decimal :=
  let least := scale - maxScale
  ((List.range (scale + 1 - least)).map (least + ·)).findSome? fun dropped =>
    let q := Double.roundEven m (Nat.pow 10 dropped)
    if q < limit then some ⟨negative && q ≠ 0, q, scale - dropped⟩ else none

/-- The coefficient of a decimal at a larger scale, with the sign. -/
def atScale (d : Decimal) (scale : Nat) : Int :=
  sign d.negative (d.coefficient * Nat.pow 10 (scale - d.scale))

def neg (d : Decimal) : Decimal := if d.isZero then d else { d with negative := !d.negative }

def add? (a b : Decimal) : Option Decimal :=
  if a.isZero then some b
  else if b.isZero then some a
  else
    let scale := max a.scale b.scale
    let sum := a.atScale scale + b.atScale scale
    fit? (sum < 0) sum.natAbs scale

def sub? (a b : Decimal) : Option Decimal := a.add? b.neg

def mul? (a b : Decimal) : Option Decimal :=
  if a.isZero || b.isZero then some ⟨false, 0, 0⟩
  else fit? (a.negative != b.negative) (a.coefficient * b.coefficient) (a.scale + b.scale)

/-- The remainder has the sign of the dividend, and a smaller dividend stays as it is. -/
def rem? (a b : Decimal) : Option Decimal :=
  if b.isZero then none
  else if a.isZero then some ⟨false, 0, 0⟩
  else
    let scale := max a.scale b.scale
    let x := a.coefficient * Nat.pow 10 (scale - a.scale)
    let y := b.coefficient * Nat.pow 10 (scale - b.scale)
    if x = y then some ⟨false, 0, 0⟩
    else if x < y then some a
    else some ⟨a.negative && x % y ≠ 0, x % y, scale⟩

/-! ### Division

Long division in blocks of up to nine digits. -/

/-- A quotient over `10 ^ scale`, and whether it was extended beyond an exact end. -/
structure Quotient where
  digits : Nat
  scale : Int
  extended : Bool

/-- The most digits, at most nine, by which a quotient can grow below the limit and the largest
scale. -/
def room (q : Nat) (scale : Int) : Nat :=
  let most := min 9 (maxScale - scale).toNat
  ((List.range (most + 1)).reverse.find? fun p => q * Nat.pow 10 p < limit).getD 0

/-- Continues a division by `den` from a quotient and a remainder. -/
def divide? (den : Nat) : (fuel q r : Nat) → (scale : Int) → (extended : Bool) → Option Quotient
  | 0, _, _, _, _ => none
  | fuel + 1, q, r, scale, extended =>
    if r = 0 ∧ 0 ≤ scale then some ⟨q, scale, extended⟩
    else
      let extended := extended || r ≠ 0
      let p := if r = 0 then min 9 (-scale).toNat else room q scale
      if r ≠ 0 ∧ p < 9 ∧ p + scale < 0 then none
      else if p = 0 then
        let up := den < 2 * r ∨ (2 * r = den ∧ q % 2 = 1)
        some ⟨if up then q + 1 else q, scale, extended⟩
      else if limit ≤ q * Nat.pow 10 p then none
      else
        let total := q * Nat.pow 10 p + r * Nat.pow 10 p / den
        let rest := r * Nat.pow 10 p % den
        if total < limit then divide? den fuel total rest (scale + p) extended
        else if scale + p < 1 then none
        else
          let last := total % 10
          let up := 5 < last ∨ (last = 5 ∧ (rest ≠ 0 ∨ total / 10 % 2 = 1))
          some ⟨if up then total / 10 + 1 else total / 10, scale + p - 1, extended⟩

/-- Removes blocks of eight zeros as long as the quotient is a multiple of `2 ^ 32`. -/
def dropEights : (fuel q scale : Nat) → Nat × Nat
  | 0, q, scale => (q, scale)
  | fuel + 1, q, scale =>
    if q % UInt32.size = 0 ∧ 8 ≤ scale ∧ q % Nat.pow 10 8 = 0 then
      dropEights fuel (q / Nat.pow 10 8) (scale - 8)
    else (q, scale)

/-- Removes a block of `k` zeros once. -/
def dropBlock (k mask : Nat) (d : Nat × Nat) : Nat × Nat :=
  if d.1 % mask = 0 ∧ k ≤ d.2 ∧ d.1 % Nat.pow 10 k = 0 then (d.1 / Nat.pow 10 k, d.2 - k) else d

/-- Trailing zeros of an extended quotient go. -/
def Quotient.trim (q : Quotient) : Nat × Nat :=
  let scale := q.scale.toNat
  if q.extended then
    dropBlock 1 2 (dropBlock 2 4 (dropBlock 4 16 (dropEights scale q.digits scale)))
  else (q.digits, scale)

/-- More than the number of blocks that any division takes. -/
def blocks : Nat := 64

def div? (a b : Decimal) : Option Decimal :=
  if b.isZero then none
  else if a.isZero then some ⟨false, 0, 0⟩
  else do
    let q ← divide? b.coefficient blocks (a.coefficient / b.coefficient)
      (a.coefficient % b.coefficient) (a.scale - b.scale) false
    let (digits, scale) := q.trim
    return ⟨(a.negative != b.negative) && digits ≠ 0, digits, scale⟩

end Formulas.Decimal
