/-!
Countable events of an engine: look-ups in its caches and elements left out of a search.
-/
namespace Annotations

inductive CacheName where
  | merged
  | found
  | annotatedInterfaces
deriving DecidableEq, Repr

def CacheName.label : CacheName → String
  | .merged => "merged"
  | .found => "found"
  | .annotatedInterfaces => "annotated_interfaces"

inductive Event where
  | lookup (cache : CacheName) (hit : Bool)
  /-- A search left out an element of a kind because it could not be introspected. -/
  | failure (elementKind : String)
deriving DecidableEq, Repr

end Annotations
