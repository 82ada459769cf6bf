/-!
What can go wrong with annotation metadata, by cause. A category says how far a failure reaches: a
configuration error aborts a search, any other leaves out the element at hand.
-/
namespace Annotations

inductive ErrorCategory where
  | configuration
  | introspection
  | lookup
  | synthesis
deriving DecidableEq, Repr

def ErrorCategory.name : ErrorCategory → String
  | .configuration => "configuration"
  | .introspection => "introspection"
  | .lookup => "lookup"
  | .synthesis => "synthesis"

inductive Error where
  | aliasPointsToSelf (type attr : String)
  | aliasTargetMissing (type attr targetType targetAttr : String)
  | aliasTargetNotMetaPresent (type attr targetType targetAttr : String)
  | aliasNotMutual (type attr partner : String) (actual : Option String)
  | aliasReturnTypeMismatch (type attr targetType targetAttr : String)
  | aliasDefaultMissing (type attr targetType targetAttr : String)
  | aliasDefaultMismatch (type attr targetType targetAttr : String)
  | attributeConflict (type element attr partner value partnerValue : String)
  | unknownAnnotType (name : String)
  | unknownClass (name : String)
  | unknownMethod (method : String)
  | missingAttributeValue (type attr : String)
  | metaDepthExceeded (element : String) (limit : Nat)
  | attributeNotFound (attr owner : String)
  | attributeTypeMismatch (attr owner expected actual : String)
  | missingSynthesizedAttribute (type attr element : String)
  /-- A declared default leads back to itself through the defaults of nested annotations. -/
  | endlessDefault
deriving DecidableEq, Repr

namespace Error

def category : Error → ErrorCategory
  | .aliasPointsToSelf .. | .aliasTargetMissing .. | .aliasTargetNotMetaPresent ..
  | .aliasNotMutual .. | .aliasReturnTypeMismatch .. | .aliasDefaultMissing ..
  | .aliasDefaultMismatch .. | .attributeConflict .. | .endlessDefault => .configuration
  | .unknownAnnotType .. | .unknownClass .. | .unknownMethod .. | .missingAttributeValue ..
  | .metaDepthExceeded .. => .introspection
  | .attributeNotFound .. | .attributeTypeMismatch .. => .lookup
  | .missingSynthesizedAttribute .. => .synthesis

def isConfiguration (error : Error) : Bool := error.category == .configuration

def isIntrospection (error : Error) : Bool := error.category == .introspection

def message : Error → String
  | .aliasPointsToSelf type attr =>
    s!"alias declaration on attribute '{attr}' in annotation [{type}] points to itself; " ++
      "specify 'annotation' to point to a same-named attribute on a meta-annotation"
  | .aliasTargetMissing type attr targetType targetAttr =>
    s!"attribute '{attr}' in annotation [{type}] is declared as an alias for " ++
      s!"nonexistent attribute '{targetAttr}' in annotation [{targetType}]"
  | .aliasTargetNotMetaPresent type attr targetType targetAttr =>
    s!"alias declaration on attribute '{attr}' in annotation [{type}] declares an alias " ++
      s!"for attribute '{targetAttr}' in meta-annotation [{targetType}] which is not meta-present"
  | .aliasNotMutual type attr partner actual =>
    s!"attribute '{partner}' in annotation [{type}] must be declared as an alias for " ++
      s!"[{attr}]" ++
      match actual with
      | some other => s!", not [{other}]"
      | none => ""
  | .aliasReturnTypeMismatch type attr targetType targetAttr =>
    s!"misconfigured aliases: attribute '{attr}' in annotation [{type}] and attribute " ++
      s!"'{targetAttr}' in annotation [{targetType}] must declare the same return type"
  | .aliasDefaultMissing type attr targetType targetAttr =>
    s!"misconfigured aliases: attribute '{attr}' in annotation [{type}] and attribute " ++
      s!"'{targetAttr}' in annotation [{targetType}] must declare default values"
  | .aliasDefaultMismatch type attr targetType targetAttr =>
    s!"misconfigured aliases: attribute '{attr}' in annotation [{type}] and attribute " ++
      s!"'{targetAttr}' in annotation [{targetType}] must declare the same default value"
  | .attributeConflict type element attr partner value partnerValue =>
    s!"in attributes for annotation [{type}] declared on {element}, attribute '{attr}' " ++
      s!"and its alias '{partner}' are declared with values of [{value}] and [{partnerValue}], " ++
      "but only one is permitted"
  | .unknownAnnotType name => s!"annotation type [{name}] is not registered"
  | .unknownClass name => s!"class [{name}] is not registered"
  | .unknownMethod method => s!"method {method} is not declared"
  | .missingAttributeValue type attr =>
    s!"annotation [{type}] declares no value for required attribute '{attr}'"
  | .metaDepthExceeded element limit =>
    s!"meta-annotation depth limit of {limit} exceeded while introspecting {element}"
  | .attributeNotFound attr owner =>
    s!"attribute '{attr}' not found in attributes for annotation [{owner}]"
  | .attributeTypeMismatch attr owner expected actual =>
    s!"attribute '{attr}' is of type [{actual}], but [{expected}] was expected in attributes " ++
      s!"for annotation [{owner}]"
  | .missingSynthesizedAttribute type attr element =>
    s!"attributes for synthesized annotation [{type}] on {element} declare no value for " ++
      s!"required attribute '{attr}'"
  | .endlessDefault => "a declared default contains itself"

end Error
end Annotations
