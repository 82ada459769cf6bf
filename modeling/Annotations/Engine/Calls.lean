import Annotations.Engine

/-!
What can be asked of an engine, and the outcomes of many calls one after another.
-/
namespace Annotations

inductive Call where
  | getMerged (element : Element) (type : String)
  | findMerged (element : Element) (type : String)
  | getMergedWith (element : Element) (type : String) (rendering : Rendering)
  | findMergedWith (element : Element) (type : String) (rendering : Rendering)
  | getMergedView (element : Element) (type : String)
  | findMergedView (element : Element) (type : String)
  | findAnnot (element : Element) (type : String)
  | isAnnotated (element : Element) (type : String)
  | hasAnnot (element : Element) (type : String)
  | allAttributes (element : Element) (type : String)
  | annotAttributes (element : Element) (annot : Annot) (rendering : Rendering)
  | metaAnnotTypes (element : Element) (type : String)
  | hasMetaAnnotTypes (element : Element) (type : String)
  | isSynthesizable (type : String)
  | clearCaches

inductive Answer where
  | store (found : Option Store)
  | view (found : Option View)
  | columns (found : Option MultiStore)
  | flag (yes : Bool)
  | types (names : List String)
  | done

namespace Engine

def answer (engine : Engine) : Call → Action EngineState Answer
  | .getMerged element type => .store <$> engine.getMerged element type
  | .findMerged element type => .store <$> engine.findMerged element type
  | .getMergedWith element type rendering => .store <$> engine.getMergedWith element type rendering
  | .findMergedWith element type rendering => .store <$> engine.findMergedWith element type rendering
  | .getMergedView element type => .view <$> engine.mergedView .get element type
  | .findMergedView element type => .view <$> engine.mergedView .find element type
  | .findAnnot element type => .view <$> engine.findAnnot element type
  | .isAnnotated element type => .flag <$> engine.isAnnotated element type
  | .hasAnnot element type => .flag <$> engine.hasAnnot element type
  | .allAttributes element type => .columns <$> engine.getAllAttributes element type
  | .annotAttributes element annot rendering =>
    (fun store => .store (some store)) <$> engine.annotAttributes element annot rendering
  | .metaAnnotTypes element type => .types <$> engine.getMetaAnnotTypes element type
  | .hasMetaAnnotTypes element type => .flag <$> engine.hasMetaAnnotTypes element type
  | .isSynthesizable type => .flag <$> engine.isSynthesizable type
  | .clearCaches => (fun _ => .done) <$> clearCaches

/-- The outcomes of calls made one after another, and the state they leave. A failed call leaves what
it learned, like any other. -/
def run (engine : Engine) : List Call → EngineState → List (Except Error Answer) × EngineState
  | [], state => ([], state)
  | call :: rest, state =>
    let (outcome, state) := engine.answer call state
    let (outcomes, state) := engine.run rest state
    (outcome :: outcomes, state)

/-- The same engine with results kept or not. -/
def caching (engine : Engine) (keep : Bool) : Engine :=
  { engine with settings := { engine.settings with cacheEnabled := keep } }

end Engine
end Annotations
