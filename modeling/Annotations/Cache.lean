import Annotations.Event
import Annotations.Search
import Annotations.Store
import Annotations.Table

/-!
What an engine keeps between calls: merged stores, found annotations and interfaces with annotated
methods, with counts of hits and misses.
-/
namespace Annotations

/-- What a merge is asked for. -/
structure MergeKey where
  kind : SearchKind
  element : Element
  type : String
  rendering : Rendering
deriving DecidableEq, Repr

/-- What is kept; an answer that there is nothing is kept as well. -/
structure Caches where
  merged : Table MergeKey (Option Store) := []
  found : Table (Element × String) (Option Annot) := []
  interfaces : Entries Bool := []
  hits : Nat := 0
  misses : Nat := 0
deriving Inhabited

namespace Caches

def count (caches : Caches) (hit : Bool) : Caches :=
  if hit then { caches with hits := caches.hits + 1 } else { caches with misses := caches.misses + 1 }

/-- Forgets all results; the counts go on. -/
def clear (caches : Caches) : Caches := { hits := caches.hits, misses := caches.misses }

end Caches

/-- One of the tables of an engine's results, under the name its look-ups are counted by. -/
structure Caches.Part (κ ν : Type) where
  name : CacheName
  read : Caches → Table κ ν
  write : Caches → Table κ ν → Caches

def Caches.Part.merged : Part MergeKey (Option Store) :=
  ⟨.merged, (·.merged), fun caches merged => { caches with merged }⟩

def Caches.Part.found : Part (Element × String) (Option Annot) :=
  ⟨.found, (·.found), fun caches found => { caches with found }⟩

/-- Counts of look-ups and sizes of the tables. -/
structure CacheStats where
  hits : Nat
  misses : Nat
  mergedEntries : Nat
  foundEntries : Nat
  interfaceEntries : Nat
deriving DecidableEq, Repr

def Caches.stats (caches : Caches) : CacheStats where
  hits := caches.hits
  misses := caches.misses
  mergedEntries := caches.merged.length
  foundEntries := caches.found.length
  interfaceEntries := caches.interfaces.length

end Annotations
