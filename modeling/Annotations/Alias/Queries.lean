import Annotations.Synthesizable

/-!
What can be asked about aliases and meta-annotations, and what is kept after many questions.
-/
namespace Annotations

inductive AliasQuery where
  | link (type attr : String)
  | aliasNames (type attr : String)
  | aliasMap (type : String)
  | overrideName (type attr target : String)
  | synthesizable (type : String)

/-- A question about aliases, or whether a meta-annotation is present. -/
inductive MetaQuery where
  | aliases (query : AliasQuery)
  | metaPresent (type target : String)

namespace Registry

/-- What is kept after a question. A failed one leaves what it learned, like any other. -/
def ask (reg : Registry) (memo : SynthMemo) : AliasQuery → SynthMemo
  | .link type attr => (reg.recallLink type attr memo).2
  | .aliasNames type attr => (reg.recallAliasNames type attr memo).2
  | .aliasMap type => (reg.recallAliasMap type memo).2
  | .overrideName type attr target => (reg.recallOverrideName type attr target memo).2
  | .synthesizable type => (reg.isSynthesizable type memo).2

/-- What is kept after questions asked one after another, from nothing kept. -/
def askAll (reg : Registry) (queries : List AliasQuery) : SynthMemo :=
  queries.foldl reg.ask {}

/-- What is kept after a question of either kind. -/
def inquire (reg : Registry) (memo : SynthMemo) : MetaQuery → SynthMemo
  | .aliases query => reg.ask memo query
  | .metaPresent type target => (reg.recallMetaPresent type target memo).2

/-- What is kept after questions of both kinds, from nothing kept. -/
def inquireAll (reg : Registry) (queries : List MetaQuery) : SynthMemo :=
  queries.foldl reg.inquire {}

end Registry
end Annotations
