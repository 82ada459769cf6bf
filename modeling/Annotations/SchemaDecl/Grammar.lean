import Annotations.SchemaDecl.TokenReader

/-!
The grammar of type definitions as readers for the parts that stand inside one another. Nothing is kept of
a part but what the rules around it ask for.
-/
namespace Annotations.SchemaDecl

/-- What is known of a type. -/
inductive TypeForm where
  /-- A path, and whether it is a name alone, perhaps with arguments. -/
  | path (single : Bool)
  /-- Traits without a keyword, and whether there are several or a plus sign ends them. -/
  | traits (several : Bool)
  | other
deriving DecidableEq, Repr

/-- What is known of something that bounds a type. -/
inductive BoundForm where
  | trait
  | lifetime
  | capture
deriving DecidableEq, Repr

inductive PatternForm where
  /-- A range that lacks an end. -/
  | openRange
  | other
deriving DecidableEq, Repr

/-- What is known of an expression. -/
inductive Expr where
  | text (content : String)
  | comparison
  | range
  | invocation (delimiter : Delimiter)
  /-- Ends with a block, so that nothing need part it from what follows. -/
  | closed
  | other
deriving DecidableEq, Repr

/-- How strongly operators bind, the weakest first. -/
inductive Strength where
  | none
  | assign
  | range
  | or
  | and
  | compare
  | bitOr
  | bitXor
  | bitAnd
  | shift
  | sum
  | product
  | cast
deriving DecidableEq, Repr

def Strength.rank (strength : Strength) : Nat := strength.ctorIdx

/-- Readers for the parts that may stand inside all others. -/
structure Grammar where
  /-- A type, with or without a list of traits between plus signs. -/
  type : Bool → TokenReader TypeForm
  /-- A bound, where traits may be constant or not. -/
  bound : Bool → TokenReader BoundForm
  /-- A pattern without choices. -/
  pattern : TokenReader PatternForm
  /-- An expression without binary operators. Braces behind a path are taken or not. -/
  unary : Bool → TokenReader Expr
  /-- What follows an expression by operators of some strength at least. -/
  climb : Bool → Strength → Expr → TokenReader Expr
  /-- An expression that may end with its block. -/
  standing : TokenReader Expr
  /-- All statements up to the end of a block. -/
  statements : TokenReader Unit
  /-- An item behind its tags. -/
  item : TokenReader Unit
  /-- Fields in braces. -/
  fields : TokenReader Unit

namespace Grammar

/-- An expression where braces behind a path are taken or not. -/
def exprWith (g : Grammar) (braces : Bool) : TokenReader Expr := do
  g.climb braces .none (← g.unary braces)

def expr (g : Grammar) : TokenReader Expr := g.exprWith true

end Grammar
end Annotations.SchemaDecl
