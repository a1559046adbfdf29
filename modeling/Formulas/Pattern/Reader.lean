import Formulas.Numeral
import Formulas.Pattern.Footprint
import Formulas.Pattern.Name
import Formulas.Text.Blank

/-! Reading patterns. There is no look-around and no reference to an earlier match, so a pattern
stays a regular expression. -/
namespace Formulas.Pattern.Reader

/-- Flags hold to the end of the group in which they are set. Without `unicode` all sets are sets of
bytes, and none may hold a byte beyond ASCII. With `lazy` repetitions are greedy only if they are
marked. -/
structure Flags where
  caseless : Bool
  multiline : Bool
  dotAll : Bool
  spaced : Bool
  unicode : Bool
  crlf : Bool
  lazy : Bool

def Flags.initial : Flags := ⟨false, false, false, false, true, false, false⟩

/-- What is left of a pattern, the flags in force, and the groups so far with the names of some. -/
structure Source where
  rest : List Char
  flags : Flags
  groups : Nat
  names : List (List Char)

/-- There is only one kind of failure. -/
abbrev ReadM := StateT Source Option

def flags : ReadM Flags := return (← get).flags

def peek? : ReadM (Option Char) := return (← get).rest.head?

def bump : ReadM Unit := modify fun s => { s with rest := s.rest.tail }

/-- Steps over blanks, and over comments to the end of their line. -/
def skipSpaced : (inComment : Bool) → List Char → List Char
  | _, [] => []
  | true, c :: cs => skipSpaced (c ≠ '\n') cs
  | false, c :: cs =>
    if c = '#' then skipSpaced true cs
    else if Text.isBlank c then skipSpaced false cs
    else c :: cs

/-- Blanks and comments count in a spaced pattern only if they are escaped. -/
def skip : ReadM Unit :=
  modify fun s => if s.flags.spaced then { s with rest := skipSpaced false s.rest } else s

def bumpSkip : ReadM Unit := do bump; skip

/-- The next character, which is not to be the end. -/
def current : ReadM Char := do
  match (← peek?) with
  | some c => return c
  | none => failure

/-- Steps over the given text, or fails. -/
def expect (word : List Char) : ReadM Unit := do
  if word.isPrefixOf (← get).rest then modify fun s => { s with rest := s.rest.drop word.length }
  else failure

/-- Steps over the given text if it comes next. -/
def accept (word : String) : ReadM Bool := do
  if word.toList.isPrefixOf (← get).rest then
    modify fun s => { s with rest := s.rest.drop word.length }
    return true
  else return false

/-- Collects characters as long as they are of a class, skipping as the flags say. -/
def collect (p : Char → Bool) : (fuel : Nat) → ReadM (List Char)
  | 0 => return []
  | fuel + 1 => do
    match (← peek?) with
    | some c =>
      if p c then
        bumpSkip
        return c :: (← collect p fuel)
      else return []
    | none => return []

def collectAll (p : Char → Bool) : ReadM (List Char) := do collect p ((← get).rest.length)

/-- A number of 32 bits, with blanks around it. -/
def decimal : ReadM Nat := do
  modify fun s => { s with rest := s.rest.dropWhile Text.isBlank }
  let ds ← collectAll Char.isDigit
  let _ ← collectAll Text.isBlank
  match Numeral.natural? ds with
  | some n => if n < UInt32.size then return n else failure
  | none => failure

/-! ### Escapes -/

/-- What an escape or a single character stands for. A byte is a character written by two
hexadecimal digits. -/
inductive Atom where
  | literal (n : Nat) (byte : Bool)
  | set (s : CharSet)
  | look (l : Look)

/-- The number of hexadecimal digits, if it is the number of a character. -/
def scalar (ds : List Char) : ReadM Nat := do
  match ds.mapM Numeral.hexDigit? with
  | some values =>
    let n := values.foldl (fun n v => 16 * n + v) 0
    if values ≠ [] ∧ n.isValidChar then return n else failure
  | none => failure

/-- A fixed number of digits, of which the flags may spread the later ones. -/
def hexDigits : (count : Nat) → ReadM (List Char)
  | 0 => return []
  | count + 1 => do
    let c ← current
    bumpSkip
    return c :: (← hexDigits count)

/-- A character by its number: two, four or eight digits, or any number of them in braces. -/
def hex (letter : Char) : ReadM Atom := do
  bumpSkip
  if (← current) = '\x7b' then
    bumpSkip
    let ds ← collectAll (· ≠ '\x7d')
    expect ['\x7d']
    skip
    return .literal (← scalar ds) false
  else
    let count := if letter = 'x' then 2 else if letter = 'u' then 4 else 8
    return .literal (← scalar (← hexDigits count)) (letter = 'x')

/-- Splits a name at a separator. -/
def cut? (separator : List Char) : List Char → Option (List Char × List Char)
  | [] => none
  | c :: cs =>
    if separator.isPrefixOf (c :: cs) then some ([], (c :: cs).drop separator.length)
    else (cut? separator cs).map fun (name, value) => (c :: name, value)

/-- The set that a name in braces stands for: a name alone, or a property and its value. The second
part says whether the set is to be left out. -/
def braced? (name : List Char) : Option (CharSet × Bool) :=
  let valued (parts : List Char × List Char) :=
    CharSet.valued? (CharSet.normal parts.1) (CharSet.normal parts.2)
  match cut? ['!', '='] name with
  | some parts => (valued parts).map (·, true)
  | none =>
    match cut? [':'] name <|> cut? ['='] name with
    | some parts => (valued parts).map (·, false)
    | none => (CharSet.named? (CharSet.normal name)).map (·, false)

/-- Folds a set if case does not count. -/
def foldIf (s : CharSet) : ReadM CharSet := do
  let f ← flags
  return if !f.caseless then s else if f.unicode then s.folded else s.foldedAscii

/-- A set of characters by one letter or by a name in braces. -/
def property (negated : Bool) : ReadM Atom := do
  bumpSkip
  let c ← current
  let name ←
    if c = '\x7b' then do
      bumpSkip
      let name ← collectAll (· ≠ '\x7d')
      expect ['\x7d']
      pure name
    else if c = '\\' then failure
    else do bumpSkip; pure [c]
  let f ← flags
  if !f.unicode then failure
  let set? := if c = '\x7b' then braced? name
    else (CharSet.named? (CharSet.normal name)).map (·, false)
  match set? with
  | some (s, excluded) => return .set ((← foldIf s).negateIf (negated != excluded))
  | none => failure

/-- A set of bytes has to stay within ASCII. -/
def withinAscii (s : CharSet) : ReadM CharSet := do if s.isAscii then return s else failure

/-- The set of digits, spaces or word characters. -/
def shorthand (full ascii : CharSet) (negated : Bool) : ReadM Atom := do
  bump
  if (← flags).unicode then return .set (full.negateIf negated)
  else return .set (← withinAscii (ascii.negateIf negated))

/-- A character that may be escaped although it means nothing else: all of ASCII but letters,
digits and angle brackets. -/
def isEscapable (c : Char) : Bool :=
  c.toNat < 0x80 && !c.isAlphanum && c ≠ '<' && c ≠ '>'

/-- The kind of a word boundary in braces, if they hold one and not a count. -/
def boundaryKind : ReadM Atom := do
  let isNameChar (c : Char) : Bool := c.isAlpha || c = '-'
  if (← peek?) ≠ some '\x7b' then return .look .wordBoundary
  let s ← get
  bumpSkip
  if !isNameChar (← current) then
    set s
    return .look .wordBoundary
  let name ← collectAll isNameChar
  expect ['\x7d']
  match String.ofList name with
  | "start" => return .look .wordStart
  | "end" => return .look .wordEnd
  | "start-half" => return .look .wordStartHalf
  | "end-half" => return .look .wordEndHalf
  | _ => failure

/-- What stands after a backslash. -/
def escape : ReadM Atom := do
  bump
  let c ← current
  match c with
  | 'x' | 'u' | 'U' => hex c
  | 'p' => property false
  | 'P' => property true
  | 'd' => shorthand CharSet.digits CharSet.asciiDigits false
  | 'D' => shorthand CharSet.digits CharSet.asciiDigits true
  | 's' => shorthand CharSet.spaces CharSet.asciiSpaces false
  | 'S' => shorthand CharSet.spaces CharSet.asciiSpaces true
  | 'w' => shorthand CharSet.words CharSet.asciiWords false
  | 'W' => shorthand CharSet.words CharSet.asciiWords true
  | _ => do
    bump
    match c with
    | 'a' => return .literal 0x07 false
    | 'f' => return .literal 0x0c false
    | 't' => return .literal 0x09 false
    | 'n' => return .literal 0x0a false
    | 'r' => return .literal 0x0d false
    | 'v' => return .literal 0x0b false
    | 'A' => return .look .textStart
    | 'z' => return .look .textEnd
    | 'b' => boundaryKind
    | 'B' => return .look .notWordBoundary
    | '<' => return .look .wordStart
    | '>' => return .look .wordEnd
    | _ => if isEscapable c then return .literal c.toNat false else failure

/-! ### Sets in brackets -/

inductive SetOp where
  | inter
  | diff
  | symm

def SetOp.apply : SetOp → CharSet → CharSet → CharSet
  | .inter => CharSet.inter
  | .diff => CharSet.diff
  | .symm => CharSet.symm

/-- A set and how deep its parts are nested. -/
structure Bracketed where
  set : CharSet
  depth : Nat

/-- The union of the items between two operators. Several items are nested one deeper than one. -/
def Bracketed.unite (items : List Bracketed) : Bracketed where
  set := CharSet.unions (items.map Bracketed.set)
  depth := items.foldl (fun d item => max d item.depth) 0 + if items.length < 2 then 0 else 1

/-- An escape or a character within brackets. -/
def setAtom : ReadM Atom := do
  let c ← current
  if c = '\\' then escape else do bump; return .literal c.toNat false

/-- A character within brackets. Without `unicode` it is a byte of ASCII. -/
def setLiteral : Atom → ReadM Nat
  | .literal n _ => do if !(← flags).unicode ∧ 0x80 ≤ n then failure else return n
  | _ => failure

/-- The character after the current one. In a spaced pattern blanks do not count, nor does the mark
of a comment, but the text of the comment does. -/
def afterCurrent? : ReadM (Option Char) := do
  let s ← get
  if !s.flags.spaced then return s.rest.tail.head?
  match s.rest.tail.dropWhile Text.isBlank with
  | '#' :: cs => return (cs.dropWhile Text.isBlank).head?
  | cs => return cs.head?

/-- A character, a set, or a range of characters. A hyphen before the closing bracket or another
hyphen makes no range. -/
def setItem : ReadM CharSet := do
  let first ← setAtom
  skip
  let after ← afterCurrent?
  if (← current) ≠ '-' ∨ after = some ']' ∨ after = some '-' then
    match first with
    | .set s => return s
    | atom => return CharSet.single (← setLiteral atom)
  else
    bumpSkip
    let last ← setAtom
    let low ← setLiteral first
    let high ← setLiteral last
    if low ≤ high then return CharSet.range low high else failure

/-- A class such as `[:alpha:]`, if there is one; otherwise nothing is read. -/
def asciiClass? : ReadM (Option CharSet) := do
  let s ← get
  let negated := ['[', ':', '^'].isPrefixOf s.rest
  if !(['[', ':'].isPrefixOf s.rest) then return none
  let body := s.rest.drop (if negated then 3 else 2)
  let name := body.takeWhile (· ≠ ':')
  let after := body.dropWhile (· ≠ ':')
  if !([':', ']'].isPrefixOf after) then return none
  match CharSet.asciiClass? (String.ofList name) with
  | none => return none
  | some set => do
    modify fun s => { s with rest := after.drop 2 }
    let set := (← foldIf set).negateIf negated
    if s.flags.unicode then return some set else return some (← withinAscii set)

/-- Adds an operand to what stands before its operator. Both sides are folded first. -/
def combine (left : Option (SetOp × Bracketed)) (right : Bracketed) : ReadM Bracketed := do
  match left with
  | none => return right
  | some (op, left) =>
    return ⟨op.apply (← foldIf left.set) (← foldIf right.set), max left.depth right.depth + 1⟩

/-- The items of a set up to its closing bracket, given what stands left of the last operator and
the items since then. -/
def setItems (bracket : ReadM Bracketed) :
    (fuel : Nat) → Option (SetOp × Bracketed) → List Bracketed → ReadM Bracketed
  | 0, _, _ => failure
  | fuel + 1, left, items => do
    skip
    let c ← current
    if c = ']' then
      bump
      combine left (.unite items)
    else if c = '[' then
      match (← asciiClass?) with
      | some s => setItems bracket fuel left (⟨s, 0⟩ :: items)
      | none => setItems bracket fuel left ((← bracket) :: items)
    else if (← accept "&&") then
      setItems bracket fuel (some (.inter, ← combine left (.unite items))) []
    else if (← accept "--") then
      setItems bracket fuel (some (.diff, ← combine left (.unite items))) []
    else if (← accept "~~") then
      setItems bracket fuel (some (.symm, ← combine left (.unite items))) []
    else
      setItems bracket fuel left (⟨← setItem, 0⟩ :: items)

/-- How many hyphens stand at the start of a set, where they are characters. -/
def leadingHyphens : (fuel : Nat) → ReadM Nat
  | 0 => failure
  | fuel + 1 => do
    if (← current) = '-' then
      bumpSkip
      return (← leadingHyphens fuel) + 1
    else return 0

/-- A set in brackets, which may hold others. A closing bracket in the first place is a character.
-/
def bracket : (fuel : Nat) → ReadM Bracketed
  | 0 => failure
  | fuel + 1 => do
    bumpSkip
    let negated := (← current) = '^'
    if negated then bumpSkip
    let hyphens ← leadingHyphens ((← get).rest.length + 1)
    let closing := hyphens = 0 ∧ (← current) = ']'
    if closing then bumpSkip
    let start := List.replicate hyphens (CharSet.single '-'.toNat) ++
      if closing then [CharSet.single ']'.toNat] else []
    let inner ← setItems (bracket fuel) ((← get).rest.length + 1) none
      (start.map fun s => ⟨s, 0⟩)
    let s := (← foldIf inner.set).negateIf negated
    if (← flags).unicode then return ⟨s, inner.depth + 1⟩
    else return ⟨← withinAscii (s.inter (CharSet.range 0 0xff)), inner.depth + 1⟩

/-! ### Groups -/

/-- Setting or clearing one flag. -/
def Flags.set (f : Flags) (value : Bool) : Char → Option Flags
  | 'i' => some { f with caseless := value }
  | 'm' => some { f with multiline := value }
  | 's' => some { f with dotAll := value }
  | 'x' => some { f with spaced := value }
  | 'u' => some { f with unicode := value }
  | 'R' => some { f with crlf := value }
  | 'U' => some { f with lazy := value }
  | _ => none

/-- Flags set before a hyphen and cleared after it. None may come twice, and something has to
follow the hyphen. -/
def flagsOf? (f : Flags) (cs : List Char) : Option Flags := do
  let setting := cs.takeWhile (· ≠ '-')
  let clearing := cs.dropWhile (· ≠ '-')
  if !decide (cs.Nodup) ∨ clearing = ['-'] then none
  let f ← setting.foldlM (fun f c => f.set true c) f
  clearing.tail.foldlM (fun f c => f.set false c) f

def isNameStart (c : Char) : Bool := c = '_' || Text.isAlphabetic c

def isNameChar (c : Char) : Bool :=
  c = '_' || c = '.' || c = '[' || c = ']' || Text.isAlphabetic c || Text.isNumeric c

/-- The name of a group, which no other group has. -/
def groupName : ReadM Unit := do
  let s ← get
  let name := s.rest.takeWhile (· ≠ '>')
  let isName := match name with
    | [] => false
    | c :: cs => isNameStart c && cs.all isNameChar
  if !isName ∨ name ∈ s.names ∨ name.length = s.rest.length then failure
  set { s with rest := s.rest.drop (name.length + 1), names := name :: s.names }

/-- What a parenthesis opens: a group, which may capture what it matches, or flags for the rest of
the group around it. -/
inductive Opening where
  | group
  | capture (index : Nat)
  | flags

/-- Counts one more group that captures. -/
def newCapture : ReadM Opening := do
  let s ← get
  set { s with groups := s.groups + 1 }
  return .capture s.groups

/-- Reads what comes after a parenthesis up to the content of the group, and puts its flags in
force. -/
def opening : ReadM Opening := do
  bump
  skip
  if (← accept "?=") || (← accept "?!") || (← accept "?<=") || (← accept "?<!") then failure
  else if (← accept "?P<") || (← accept "?<") then
    groupName
    newCapture
  else if (← accept "?") then
    let s ← get
    let cs := s.rest.takeWhile fun c => c ≠ ':' ∧ c ≠ ')'
    match flagsOf? s.flags cs, s.rest.drop cs.length with
    | some f, ':' :: rest => do
      set { s with rest, flags := f }
      return .group
    | some f, ')' :: rest => do
      if cs = [] then failure
      set { s with rest, flags := f }
      return .flags
    | _, _ => failure
  else newCapture

/-! ### Sequences and alternatives -/

/-- A pattern, and how deep its parts are nested. -/
structure Part where
  pattern : Pattern
  depth : Nat

/-- One item of a sequence. Flags cannot be repeated. -/
inductive Item where
  | part (p : Part)
  | flags

def Item.part? : Item → Option Part
  | .part p => some p
  | .flags => none

/-- The pattern of a character, with its other cases if they do not count. A byte beyond ASCII is no
text of its own. -/
def character (n : Nat) (byte : Bool) : ReadM Pattern := do
  let f ← flags
  if !f.unicode ∧ byte ∧ 0x80 ≤ n then failure
  if !f.unicode ∧ 0x80 ≤ n then return .ofSet (CharSet.single n)
  return .ofSet (← foldIf (CharSet.single n))

/-- A pattern without parts. -/
def leaf (p : Pattern) : Item := .part ⟨p, 0⟩

/-- The dot leaves out line ends unless a flag says otherwise. -/
def dot : ReadM Item := do
  let f ← flags
  if !f.unicode then failure
  let ends := if f.crlf then CharSet.ofChars [0x0a, 0x0d] else CharSet.single 0x0a
  return leaf (.ofSet (if f.dotAll then CharSet.any else ends.compl))

/-- A pattern of one character or escape. -/
def primitive : ReadM Item := do
  let c ← current
  let f ← flags
  match c with
  | '\\' =>
    match (← escape) with
    | .literal n byte => return leaf (← character n byte)
    | .set s => return leaf (.ofSet s)
    | .look l => return leaf (.look l (f.unicode && l.isOnWords))
  | '.' => do bump; dot
  | '^' => do
    bump
    let l := if !f.multiline then Look.textStart else if f.crlf then .crlfLineStart else .lineStart
    return leaf (.look l false)
  | '$' => do
    bump
    let l := if !f.multiline then Look.textEnd else if f.crlf then .crlfLineEnd else .lineEnd
    return leaf (.look l false)
  | _ => do bump; return leaf (← character c.toNat false)

/-- How often a counted repetition repeats. -/
def bounds : ReadM (Nat × Option Nat) := do
  bumpSkip
  let least ← decimal
  let most ←
    if (← current) = ',' then do
      bumpSkip
      if (← current) = '\x7d' then pure none else some <$> decimal
    else pure (some least)
  expect ['\x7d']
  skip
  if most.any (· < least) then failure
  return (least, most)

/-- Repeats the last item. A question mark after a repetition turns its greed over. -/
def repeatLast (done : List Item) (least : Nat) (most : Option Nat) : ReadM (List Item) := do
  let marked ← accept "?"
  let greedy := marked == (← flags).lazy
  match done with
  | .part p :: others => return .part ⟨p.pattern.times least most greedy, p.depth + 1⟩ :: others
  | _ => failure

/-- Several parts are nested one deeper than one. -/
def Part.ofItems (build : List Pattern → Pattern) (items : List Item) : Part :=
  let parts := items.filterMap Item.part?
  let depth := parts.foldl (fun d p => max d p.depth) 0
  ⟨build (parts.map Part.pattern), if items.length < 2 then depth else depth + 1⟩

/-- A group with its parentheses, or flags. The flags of a group end with it. -/
def group (inner : ReadM Part) : ReadM Item := do
  let outside ← flags
  let close (build : Pattern → Pattern) : ReadM Item := do
    let p ← inner
    expect [')']
    modify fun s => { s with flags := outside }
    return .part ⟨build p.pattern, p.depth + 1⟩
  match (← opening) with
  | .flags => return .flags
  | .group => close id
  | .capture index => close (.capture index)

/-- The items of a sequence, last one first, up to a bar, a closing parenthesis or the end. -/
def sequenceItems (inner : ReadM Part) : (fuel : Nat) → List Item → ReadM (List Item)
  | 0, _ => failure
  | fuel + 1, done => do
    skip
    match (← peek?) with
    | none | some ')' | some '|' => return done
    | some '(' => do
      let item ← group inner
      sequenceItems inner fuel (item :: done)
    | some '[' => do
      let s ← bracket ((← get).rest.length)
      sequenceItems inner fuel (.part ⟨.ofSet s.set, s.depth⟩ :: done)
    | some '?' => do
      bump
      sequenceItems inner fuel (← repeatLast done 0 (some 1))
    | some '*' => do
      bump
      sequenceItems inner fuel (← repeatLast done 0 none)
    | some '+' => do
      bump
      sequenceItems inner fuel (← repeatLast done 1 none)
    | some '\x7b' => do
      if done = [] then failure
      let (least, most) ← bounds
      sequenceItems inner fuel (← repeatLast done least most)
    | some _ => do
      let item ← primitive
      sequenceItems inner fuel (item :: done)

/-- Alternatives between bars. -/
def alternatives (inner : ReadM Part) : (fuel : Nat) → ReadM (List Item)
  | 0 => failure
  | fuel + 1 => do
    let items ← sequenceItems inner ((← get).rest.length + 1) []
    let p := Part.ofItems Pattern.sequence items.reverse
    if (← accept "|") then return .part p :: (← alternatives inner fuel)
    else return [.part p]

/-- A pattern with groups nested to less than the given depth. -/
def pattern : (fuel : Nat) → ReadM Part
  | 0 => failure
  | fuel + 1 => do
    let items ← alternatives (pattern fuel) ((← get).rest.length + 1)
    return Part.ofItems Pattern.choice items

/-- The deepest nesting of a pattern. -/
def maxDepth : Nat := 250

end Reader

/-- Reads a whole pattern, which must not be too large. -/
def read? (text : String) : Option Pattern := do
  let (p, s) ← (Reader.pattern (text.length + 1)).run ⟨text.toList, .initial, 0, []⟩
  if s.rest = [] ∧ p.depth ≤ Reader.maxDepth ∧ p.pattern.isSmall then some p.pattern else none

end Formulas.Pattern
