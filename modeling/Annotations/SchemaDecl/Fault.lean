import Annotations.SchemaDecl.Token

/-!
What can be wrong with a schema declaration, and how it is told.
-/
namespace Annotations.SchemaDecl

inductive Fault where
  /-- A text that is no tokens. -/
  | unreadable
  /-- Something else, or the end, stands where one of some things is wanted. -/
  | wanted (atEnd : Bool) (choices : List String)
  | keyword (word : String)
  /-- Tokens are left over, perhaps between delimiters. -/
  | leftover (around : Option Delimiter)
  | semicolonMissing
  | comparisonChain
  /-- What may not follow a cast directly. -/
  | castFollowed (what : String)
  | suffixedIndex
  | largeIndex
  | negativeIndex
  | tagOnRange
  | tagInTag
  | loopInBreak
  | rangeInSlice
  | noObjectTrait
  | noTrait
  | captureMisplaced
  /-- A trait that is constant on all conditions, or in brackets on those of the place. -/
  | constantMisplaced (bracketed : Bool)
  | binderMisplaced
  | receiverMisplaced (second : Bool)
  /-- A tag without the arguments that it needs. -/
  | argumentsMissing (path : String)
  /-- A tag with a value in place of arguments. -/
  | valueForArguments (path : String)
  | generic
  | notStruct
  | unnamedFields
  | notSetting
  | notIdentifier
  | notText
  | unknownFieldOption (name : String)
  | unknownOption (name : String)
  | notOption
  | nameMissing
deriving DecidableEq, Repr

/-- A piece of notation in a message. -/
def quote (piece : String) : String := "\x60" ++ piece ++ "\x60"

def Delimiter.name : Delimiter → String
  | .parentheses => "parentheses"
  | .brackets => "square brackets"
  | .braces => "curly braces"

def Delimiter.closing : Delimiter → String
  | .parentheses => ")"
  | .brackets => "]"
  | .braces => "\x7d"

/-- The choices where one of some things is wanted. -/
def choicesText : List String → String
  | [only] => only
  | [first, second] => first ++ " or " ++ second
  | choices => "one of: " ++ ", ".intercalate choices

def Fault.message : Fault → String
  | .unreadable => "cannot parse string into token stream"
  | .wanted atEnd [] => if atEnd then "unexpected end of input" else "unexpected token"
  | .wanted atEnd choices =>
    (if atEnd then "unexpected end of input, " else "") ++ "expected " ++ choicesText choices
  | .keyword word => "expected identifier, found keyword " ++ quote word
  | .leftover none => "unexpected token"
  | .leftover (some delimiter) => "unexpected token, expected " ++ quote delimiter.closing
  | .semicolonMissing => "unexpected token, expected " ++ quote ";"
  | .comparisonChain => "comparison operators cannot be chained"
  | .castFollowed what => "casts cannot be followed by " ++ what
  | .suffixedIndex => "expected unsuffixed integer"
  | .largeIndex => "number too large to fit in target type"
  | .negativeIndex => "invalid digit found in string"
  | .tagOnRange => "attributes are not allowed on range expressions starting with " ++ quote ".."
  | .tagInTag => "unexpected attribute inside of attribute"
  | .loopInBreak => "parentheses required"
  | .rangeInSlice => "range pattern is not allowed unparenthesized inside slice pattern"
  | .noObjectTrait => "at least one trait is required for an object type"
  | .noTrait => "at least one trait must be specified"
  | .captureMisplaced => quote "use<...>" ++ " precise capturing syntax is not allowed here"
  | .constantMisplaced bracketed =>
    quote (if bracketed then "[const]" else "const") ++ " is not allowed here"
  | .binderMisplaced =>
    quote "for<...>" ++ " binder not allowed with " ++ quote "?" ++ " trait polarity modifier"
  | .receiverMisplaced second =>
    if second then "unexpected second method receiver" else "unexpected method receiver"
  | .argumentsMissing path => "expected attribute arguments in parentheses: #[" ++ path ++ "(...)]"
  | .valueForArguments path => "expected parentheses: #[" ++ path ++ "(...)]"
  | .generic => "annotation schemas cannot be generic"
  | .notStruct => "#[derive(Annotation)] is only supported on structs"
  | .unnamedFields => "annotation schemas need named fields"
  | .notSetting => "expected name = value"
  | .notIdentifier => "expected identifier"
  | .notText => "expected string literal"
  | .unknownFieldOption name => "unknown attribute option: " ++ name
  | .unknownOption name => "unknown annotation attribute: " ++ name
  | .notOption =>
    "expected " ++ quote "name = \"...\"" ++ ", " ++ quote "meta = \"...\"" ++ " or " ++
      quote "inherited"
  | .nameMissing => "missing required attribute: #[annotation(name = \"...\")]"

end Annotations.SchemaDecl
