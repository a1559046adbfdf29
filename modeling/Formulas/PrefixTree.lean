/-! Trees of spellings, searched for the longest one that a text begins with. -/
namespace Formulas

/-- What may follow a spelling: the characters that go on, in the order of their arrival, and behind
them what is stored for the spelling itself. -/
inductive PrefixTree (α : Type u) where
  | leaf (stored : Option α)
  | branch (c : Char) (below siblings : PrefixTree α)

namespace PrefixTree

variable {α : Type u}

def empty : PrefixTree α := leaf none

/-- What is stored where the tree begins. -/
def stored? : PrefixTree α → Option α
  | leaf stored => stored
  | branch _ _ siblings => siblings.stored?

/-- The tree of one spelling. -/
def single (a : α) : List Char → PrefixTree α
  | [] => leaf (some a)
  | c :: cs => branch c (single a cs) empty

/-- Stores a value for a spelling in place of an earlier one. -/
def insert (a : α) : PrefixTree α → List Char → PrefixTree α
  | leaf _, [] => leaf (some a)
  | leaf stored, c :: cs => branch c (single a cs) (leaf stored)
  | branch d below siblings, [] => branch d below (siblings.insert a [])
  | branch d below siblings, c :: cs =>
    if c = d then branch d (below.insert a cs) siblings
    else branch d below (siblings.insert a (c :: cs))

def add (tree : PrefixTree α) (spelling : String) (a : α) : PrefixTree α :=
  tree.insert a spelling.toList

/-- The value of the longest spelling that a text begins with. The search reads what is stored behind
a character, so that the empty spelling may have a value and is not found. -/
def longest? : PrefixTree α → List Char → Option α
  | leaf _, _ => none
  | branch .., [] => none
  | branch d below siblings, c :: cs =>
    if c = d then below.longest? cs <|> below.stored? else siblings.longest? (c :: cs)

end PrefixTree
end Formulas
