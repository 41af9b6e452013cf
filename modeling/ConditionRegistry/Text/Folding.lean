import ConditionRegistry.Text.Lowercase

set_option autoImplicit false

/-!
# Case folding

Two characters that differ only in case have a common folded form, which is the small letter or
another small letter of the same meaning.
-/

namespace ConditionRegistry.Text

def variantShapes : List (Nat × Nat) :=
  [(0xB5, 0x3BC), (0x17F, 0x73), (0x345, 0x3B9), (0x3C2, 0x3C3), (0x3D0, 0x3B2), (0x3D1, 0x3B8),
   (0x3D5, 0x3C6), (0x3D6, 0x3C0), (0x3F0, 0x3BA), (0x3F1, 0x3C1), (0x3F5, 0x3B5),
   (0x1C80, 0x432), (0x1C81, 0x434), (0x1C82, 0x43E), (0x1C83, 0x441), (0x1C84, 0x442),
   (0x1C85, 0x442), (0x1C86, 0x44A), (0x1C87, 0x463), (0x1C88, 0xA64B), (0x1E9B, 0x1E61),
   (0x1FBE, 0x3B9), (0x1FD3, 0x390), (0x1FE3, 0x3B0), (0xFB05, 0xFB06)]

def shapeOf (n : Nat) : Nat := (variantShapes.lookup n).getD n

def foldings : List (Nat × Nat) :=
  lowerShifts.flatMap (fun s => s.moves.map fun m => (m.1, shapeOf m.2)) ++ variantShapes

def Ranges.anyCase (a : Ranges) : Ranges :=
  let forms := Ranges.ofList ((foldings.filter fun f => a.holds f.1 || a.holds f.2).map (·.2))
  (a.union forms).union (Ranges.ofList ((foldings.filter fun f => forms.holds f.2).map (·.1)))

def changedByLowering : Ranges :=
  Ranges.ofList (0x130 :: lowerShifts.flatMap fun s => s.moves.map (·.1))

def changedByRaising : Ranges :=
  (Ranges.ofList (lowerShifts.flatMap fun s => s.moves.map (·.2))).union capitalOnly

def changedByTitling : Ranges := (changedByRaising.without untitled).union capitalPairs

def changedByFolding : Ranges := (changedByLowering.without unfolded).union foldedOnly

end ConditionRegistry.Text
