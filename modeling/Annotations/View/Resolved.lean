import Annotations.View

/-!
A view in use. A value is kept once it is read, a failure is not.
-/
namespace Annotations

/-- What a view in use keeps: the answers on aliases, which it shares with others, and the values read
so far. -/
structure Reading where
  memo : SynthMemo
  resolved : Entries Value := []

namespace View

/-- Reads an attribute, or recalls its value. -/
def read (view : View) (reg : Registry) (name : String) : Action Reading Value := fun reading =>
  match reading.resolved.get? name with
  | some value => (.ok value, reading)
  | none =>
    match view.attr reg name reading.memo with
    | (.ok value, memo) => (.ok value, ⟨memo, reading.resolved.put name value⟩)
    | (.error e, memo) => (.error e, ⟨memo, reading.resolved⟩)

/-- What is kept after attributes were read one after another. -/
def readAll (view : View) (reg : Registry) (names : List String) (reading : Reading) : Reading :=
  names.foldl (fun reading name => (view.read reg name reading).2) reading

end View
end Annotations
