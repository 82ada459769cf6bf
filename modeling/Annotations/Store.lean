import Annotations.Element
import Annotations.Error
import Annotations.Value

/-!
Attribute stores and collections of several values under one name.
-/
namespace Annotations

namespace Store

def ofType (type : String) : Store := { type := some type }

/-- The explicit values of an annotation as a store. -/
def ofAnnot (annot : Annot) : Store := { type := some annot.type, values := annot.values }

/-- A store of pairs; type and display name stay unset. -/
def ofPairs (pairs : List (String × Value)) : Store := { values := Entries.ofPairs pairs }

/-- The name shown in messages. -/
def shownName (store : Store) : String := (store.displayName.or store.type).getD "unknown"

def get? (store : Store) (name : String) : Option Value := store.values.get? name

def has (store : Store) (name : String) : Bool := store.values.has name

def put (store : Store) (name : String) (value : Value) : Store :=
  { store with values := store.values.put name value }

def putAll (store : Store) (pairs : List (String × Value)) : Store :=
  { store with values := store.values.putAll pairs }

def remove (store : Store) (name : String) : Store :=
  { store with values := store.values.remove name }

def names (store : Store) : List String := store.values.names

def same (a b : Store) : Bool := a.toValue.same b.toValue

def display (store : Store) : String := store.toValue.display

/-- A single value under a name, or the reason why there is none. -/
def get (store : Store) (name : String) : Except Error Value :=
  match store.get? name with
  | some value => .ok value
  | none => .error (.attributeNotFound name store.shownName)

end Store

/-- Lists of values under names, in the order in which the names came first. -/
structure MultiStore where
  columns : Entries (List Value) := []
deriving Inhabited, Repr

namespace MultiStore

def get? (multi : MultiStore) (name : String) : Option (List Value) := multi.columns.get? name

def first? (multi : MultiStore) (name : String) : Option Value :=
  (multi.get? name).bind List.head?

/-- Appends a value to the list under a name. -/
def add (multi : MultiStore) (name : String) (value : Value) : MultiStore :=
  { columns := multi.columns.put name ((multi.get? name).getD [] ++ [value]) }

/-- Appends every value of a store to the list under its name. -/
def addAll (multi : MultiStore) (store : Store) : MultiStore :=
  store.values.foldl (fun acc entry => acc.add entry.1 entry.2) multi

def names (multi : MultiStore) : List String := multi.columns.names

def size (multi : MultiStore) : Nat := multi.columns.length

end MultiStore
end Annotations
