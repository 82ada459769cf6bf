/-!
Schema declarations as written on a type definition.
-/
namespace Annotations

/-- What stands to the right of an equals sign: a text, or an expression as written. -/
inductive OptionValue where
  | text (content : String)
  | expression (written : String)
deriving DecidableEq, Repr

/-- An option as written: a path alone, a setting, or a path with arguments in parentheses. -/
inductive OptionItem where
  | path (name : String)
  | setting (name : String) (value : OptionValue)
  | call (name : String)
deriving DecidableEq, Repr

inductive Shape where
  | struct
  | tuple
  | unit
  | enum
  | union
deriving DecidableEq, Repr

structure FieldDecl where
  ident : String
  type : String
  options : List (List OptionItem)
deriving DecidableEq, Repr

/-- A type definition from which a schema is derived. -/
structure SchemaDecl where
  ident : String
  /-- What is written behind the name: type parameters and conditions on types. -/
  generics : String
  shape : Shape
  options : List (List OptionItem)
  fields : List FieldDecl
deriving DecidableEq, Repr

end Annotations
