import Annotations.Engine.Calls

/-!
All that can be asked of an engine: the calls, reads into a schema's record, and views of stores and
annotations that are given.
-/
namespace Annotations

inductive Request where
  | call (call : Call)
  | mergedAs (kind : SearchKind) (element : Element) (schema : Schema)
  | synthesize (store : Store) (type : String) (element : Option Element)
  | synthesizeAnnot (annot : Option Annot) (element : Option Element)

inductive Reply where
  | answer (answer : Answer)
  | record (found : Option Typed)
  | view (found : Option View)

namespace Engine

def serve (engine : Engine) : Request → Action EngineState Reply
  | .call call => .answer <$> engine.answer call
  | .mergedAs kind element schema => .record <$> engine.mergedAs kind element schema
  | .synthesize store type element => (fun view => .view (some view)) <$>
    (liftM (engine.synthesize store type element) : Action EngineState View)
  | .synthesizeAnnot annot element => .view <$> engine.synthesizeAnnot annot element

end Engine
end Annotations
