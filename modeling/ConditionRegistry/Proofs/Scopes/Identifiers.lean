import ConditionRegistry.Proofs.Formula.Parsing
import ConditionRegistry.Proofs.Scopes

set_option autoImplicit false

/-!
# A variable by itself

The shortest condition is the name of a variable. Running it gives back the scalar that the name is
bound to, of the same kind and with the same content, and that is an answer only if it is a truth
value. No other name will do, not even one that differs in the case of a letter.
-/

open ConditionRegistry.Language

namespace ConditionRegistry

/-! ### The expression of a name -/

theorem expression_name (x : String) (fuel : Nat) :
    expression (fuel + 1) [.name x] = some (.variable x, []) := by
  have hoperand : StartsWith endsOperand [] := nofun
  have hsum : sum (expression fuel) (fuel + 1) [.name x] = some (.variable x, []) :=
    sum_of_unary (unary_name x hoperand) hoperand
  exact expression_of_relation (relation_of_sum hsum nofun) nofun

/-- Whatever a name begins with, be it a keyword or the prefix of a string, it is a variable. -/
theorem Identifier.parseText_name (v : Identifier) : parseText v.name = .ok (.variable v.name) := by
  have htokens : tokens? v.chars = some [.name v.name] :=
    (v.readsAs (r := []) nofun nofun).tokens?_eq
  have hparse : parse? v.name.toList = some (.variable v.name) := by
    rw [Identifier.name, String.toList_ofList, parse?, htokens]
    dsimp only
    rw [expression_name]
    rfl
  rw [parseText, hparse]

/-! ### Its value -/

section Value
variable {order : MapOrder} {b : Bindings} {x : String}

theorem run_variable_bound {s : Scalar} (h : b.find? x = some s) :
    run order (.variable x) b = .ok s := by
  have heval : eval order [] (scopeOf b) (.variable x) = .ok (valueOfScalar s) := by
    change lookupVariable (scopeOf b) x = _
    rw [lookupVariable_scopeOf, h]
    rfl
  rw [run, heval]
  dsimp only
  rw [scalarOfValue_valueOfScalar]
  rfl

theorem run_variable_unbound (h : b.find? x = none) :
    run order (.variable x) b = .error (.fault ("Undeclared reference to '" ++ x ++ "'")) := by
  have heval : eval order [] (scopeOf b) (.variable x) = fails (.undeclared x) := by
    change lookupVariable (scopeOf b) x = _
    rw [lookupVariable_scopeOf, h]
    rfl
  rw [run, heval]
  rfl

end Value

/-- Every identifier is a condition. Under all bindings of its name it runs to the scalar that the
    name is bound to; evaluated, it answers with that scalar if it is a truth value and fails
    otherwise. Under bindings that do not have exactly this name it does not run. -/
theorem variable_read_back (order : MapOrder) (v : Identifier) :
    ∃ e, (engine order).parse v.name = .ok e ∧ ∀ b : Bindings,
      (∀ s, b.find? v.name = some s →
        (engine order).run e b = .ok s ∧
        (∀ t, evaluate (engine order) v.name b = .ok t ↔ s = .boolean t) ∧
        ((∀ t, s ≠ .boolean t) → evaluate (engine order) v.name b = refuse .evaluation
          ("Expression did not return a boolean, got " ++ s.typeName ++ " " ++ s.text))) ∧
      ((∀ e ∈ b.entries, e.1 ≠ v.name) →
        (engine order).run e b =
          .error (.fault ("Undeclared reference to '" ++ v.name ++ "'"))) := by
  refine ⟨.variable v.name, v.parseText_name, fun b => ⟨fun s hs => ?_, fun hunbound => ?_⟩⟩
  · have hrun : (engine order).run (.variable v.name) b = .ok s := run_variable_bound hs
    have hevaluate : evaluate (engine order) v.name b = truthOf s := by
      have hparse : (engine order).parse v.name = .ok (.variable v.name) := v.parseText_name
      simp only [evaluate, Bindings.isEmpty_of_find? hs, hparse, hrun, Bool.false_eq_true, if_false]
    rw [hevaluate]
    exact ⟨hrun, fun t => truthOf_eq_ok_iff, truthOf_of_ne_boolean⟩
  · exact run_variable_unbound (Bindings.find?_eq_none_iff.2 hunbound)

/-- `br` begins bytes and `size` is a function, but alone each is the name of a variable. -/
theorem variable_read_back_lookalikes :
    (∃ e, engine.parse "br" = .ok e ∧
      engine.run e (.ofList [("Br", .integer 1), ("br", .boolean true)]) = .ok (.boolean true) ∧
      engine.run e (.ofList [("Br", .integer 1)]) =
        .error (.fault "Undeclared reference to 'br'")) ∧
    evaluate engine "br" (.ofList [("Br", .integer 1), ("br", .boolean true)]) = .ok true ∧
    evaluate engine "size" (.ofList [("size", .string "a")]) =
      refuse .evaluation "Expression did not return a boolean, got string 'a'" := by
  obtain ⟨e, hparse, h⟩ := variable_read_back .inserted ⟨['b', 'r'], rfl, rfl, by decide⟩
  obtain ⟨_, _, hsize⟩ := variable_read_back .inserted ⟨['s', 'i', 'z', 'e'], rfl, rfl, by decide⟩
  have hbound := (h (.ofList [("Br", .integer 1), ("br", .boolean true)])).1 (.boolean true) rfl
  have hunbound := (h (.ofList [("Br", .integer 1)])).2 (by decide)
  have hstring := (hsize (.ofList [("size", .string "a")])).1 (.string "a") rfl
  exact ⟨⟨e, hparse, hbound.1, hunbound⟩, (hbound.2.1 true).2 rfl, hstring.2.2 nofun⟩

end ConditionRegistry
