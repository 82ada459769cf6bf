import Annotations.Declaration

/-!
Settings of an engine: which annotation types are built in, whether results are kept, how merged
values are rendered and how deep meta-annotations are followed.
-/
namespace Annotations

/-- How merged values are rendered. -/
structure Rendering where
  /-- A class becomes the text of its name. -/
  classesAsText : Bool := false
  /-- A nested annotation becomes a store, else an annotation with every attribute. -/
  nestedAsStores : Bool := true
deriving DecidableEq, Repr, Inhabited

/-- Values as they are, nested annotations as annotations. -/
def Rendering.raw : Rendering := ⟨false, false⟩

structure Settings where
  builtinSpaces : List String := [Marker.space]
  cacheEnabled : Bool := true
  classesAsText : Bool := false
  nestedAsStores : Bool := true
  maxMetaDepth : Nat := 32
deriving DecidableEq, Repr, Inhabited

namespace Settings

/-- Whether a type name lies directly or indirectly in a built-in namespace. -/
def isBuiltin (settings : Settings) (type : String) : Bool :=
  settings.builtinSpaces.any fun space => (space.toList ++ ['.']).isPrefixOf type.toList

def rendering (settings : Settings) : Rendering := ⟨settings.classesAsText, settings.nestedAsStores⟩

end Settings
end Annotations
