import Annotations.SchemaDecl.Basic
import Annotations.SchemaDecl.Grammar.Statements
import Annotations.SchemaDecl.Token.Reading

/-!
Definitions of types, as tokens and as understood.
-/
namespace Annotations.SchemaDecl
open TokenReader

/-! ## Tokens -/

/-- Tokens with commas between them. -/
def joined (parts : List (List Token)) : List Token := [.mark ',' false].intercalate parts

def optionTokens? : OptionItem → Option (List Token)
  | .path name => Token.ofText? name
  | .setting name (.text content) => do
    return (← Token.ofText? name) ++ [.mark '=' false, .literal (.text content)]
  | .setting name (.expression written) => do
    return (← Token.ofText? name) ++ .mark '=' false :: (← Token.ofText? written)
  | .call name => do return (← Token.ofText? name) ++ [.group .parentheses [.word "x"]]

/-- A tag of some name for each group of options. -/
def tagTokens? (name : String) (groups : List (List OptionItem)) : Option (List Token) := do
  let tags ← groups.mapM fun group => do
    let arguments := joined (← group.mapM optionTokens?)
    return [.mark '#' false, .group .brackets [.word name, .group .parentheses arguments]]
  return tags.flatten

/-- The name of the tag that a definition has its options in. -/
def schemaTag : String := "annotation"

/-- The name of the tag that a field has its options in. -/
def fieldTag : String := "attribute"

def fieldTokens? (named : Bool) (field : FieldDecl) : Option (List Token) := do
  let tags ← tagTokens? fieldTag field.options
  let type ← Token.ofText? field.type
  if named then return tags ++ (← Token.ofText? field.ident) ++ .mark ':' false :: type
  else return tags ++ type

/-- The keyword that a definition starts with. -/
def keywordOf : Shape → String
  | .struct | .tuple | .unit => "struct"
  | .enum => "enum"
  | .union => "union"

def bodyTokens? (decl : SchemaDecl) : Option (List Token) :=
  match decl.shape with
  | .struct | .union => do
    return [.group .braces (joined (← decl.fields.mapM (fieldTokens? true)))]
  | .tuple => do
    return [.group .parentheses (joined (← decl.fields.mapM (fieldTokens? false))), .mark ';' false]
  | .unit => some [.mark ';' false]
  | .enum => some [.group .braces []]

/-- The tokens of a declaration, if all its texts have tokens. -/
def tokens? (decl : SchemaDecl) : Option (List Token) := do
  let tags ← tagTokens? schemaTag decl.options
  let ident ← Token.ofText? decl.ident
  let generics ← Token.ofText? decl.generics
  return tags ++ .word (keywordOf decl.shape) :: ident ++ generics ++ (← bodyTokens? decl)

/-! ## Definitions -/

inductive Body where
  | struct (body : Grammar.StructBody)
  | other
deriving Repr

/-- A definition of a type as understood. -/
structure Definition where
  tags : List Clause
  ident : String
  isGeneric : Bool
  body : Body
deriving Repr

def definition (g : Grammar) : TokenReader Definition := do
  let tags ← g.tags
  let _ ← Grammar.visibility
  let ahead ← ahead
  if !seesOneOf ["struct", "enum", "union"] ahead then want (["struct", "enum", "union"].map quote)
  pass 1
  let ident ← name
  let isGeneric ← g.typeParameters
  if seesWord "struct" ahead then
    return { tags, ident, isGeneric, body := .struct (← g.structBody) }
  let _ ← g.conditions
  if seesWord "enum" ahead then
    let _ ← group .braces (items g.variant ",")
  else g.fields
  return { tags, ident, isGeneric, body := .other }

/-- The definition that some tokens are. -/
def Definition.ofTokens (tokens : List Token) : Except Fault Definition :=
  TokenReader.run (definition (grammarFor tokens)) tokens

/-- The clauses in the arguments of a tag. -/
def clausesOf : Clause → Except Fault (List Clause)
  | .path path => throw (.argumentsMissing path.text)
  | .setting path _ => throw (.valueForArguments path.text)
  | .call _ arguments => TokenReader.run (items (grammarFor arguments).clause ",") arguments

/-- The tags of some name. -/
def tagsNamed (name : String) (tags : List Clause) : List Clause :=
  tags.filter fun tag => tag.head.name? == some name

end Annotations.SchemaDecl
