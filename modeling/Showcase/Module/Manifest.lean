import Showcase.Component.Manifest
import Showcase.Module

namespace Showcase

open Decoder

/-- An object is a component; of the other values the falsy ones export nothing. -/
def Export.decode : Decoder Export := fun d ↦ do
  match ← whole d with
  | .object entries => .component <$> Component.ofJson (.object entries)
  | v => return if v.isTruthy then .value v else .empty

namespace Module

def decode : Decoder Module := fun d ↦ do
  let exports ← map Export.decode d
  return ⟨exports⟩

def ofJson : Json → Except ReadError Module := Decoder.ofJson decode

def ofText : String → Except ReadError Module := Decoder.ofText decode

end Module

end Showcase
