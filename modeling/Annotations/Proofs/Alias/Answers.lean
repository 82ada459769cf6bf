import Annotations.Proofs.Alias.Faults
import Annotations.Proofs.Alias.Recall

/-!
Questions about links, alias groups and overrides leave the answers on alias handling as they are.
-/
namespace Annotations

open Annotations.Action

namespace SynthMemo

/-- The kept answers on alias handling are the given ones. -/
def Answers (known : Table String Bool) (memo : SynthMemo) : Prop :=
  memo.synthesizable = known

theorem recalls_answers (known : Table String Bool) : Recalls (Keeps (Answers known)) where
  pure := (Keeps.closed _).pure
  lift _ := (Keeps.closed _).lift _
  bind := (Keeps.closed _).bind
  remember {κ ν _ part key find} apart found := by
    intro memo kept
    simp only [remember, bind_apply, get_apply]
    cases (part.read memo).find? key with
    | some result => exact kept
    | none =>
      have after := found memo kept
      simp only [bind_apply]
      cases (find memo).1 with
      | ok result => exact (apart _ _).trans after
      | error e => exact after

end SynthMemo
end Annotations
