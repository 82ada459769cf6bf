import Annotations.Value

/-!
What a hash of a value is computed from: kinds and contents in a fixed order, entries in name order.
Store types and display names take no part. Equal values have equal digests.
-/
namespace Annotations

/-- One piece of hashed content. -/
inductive Atom where
  | kind (name : String)
  | text (content : String)
  | bits (word : UInt64)
  | count (number : Nat)
deriving DecidableEq, Repr

namespace Value

/-- Entries of hashed content, in name order and after their number. -/
def joinDigests (digests : Entries (List Atom)) : List Atom :=
  let ordered := Entries.sorted digests
  .count ordered.length :: ordered.flatMap fun entry => .text entry.1 :: entry.2

mutual

def digest : Value → List Atom
  | .text content => [.kind "text", .text content]
  | .boolean flag => [.kind "boolean", .count flag.toNat]
  | .long number => [.kind "long", .bits number.toUInt64]
  | .double bits => [.kind "double", .bits bits]
  | .classRef name => [.kind "class", .text name]
  | .enum type constant => [.kind "enum", .text type, .text constant]
  | .annot type values => .kind "annot" :: .text type :: joinDigests (entryDigests values)
  | .store _ _ values => .kind "store" :: joinDigests (entryDigests values)
  | .array items => .kind "array" :: .count items.length :: itemDigests items

def itemDigests : List Value → List Atom
  | [] => []
  | item :: rest => digest item ++ itemDigests rest

def entryDigests : List (String × Value) → Entries (List Atom)
  | [] => []
  | (name, value) :: rest => (name, digest value) :: entryDigests rest

end

end Value
end Annotations
