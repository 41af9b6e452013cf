import ConditionRegistry.Proofs.Formula.Parsing
import ConditionRegistry.Proofs.Ledger
import ConditionRegistry.Proofs.Validation

set_option autoImplicit false

/-!
# What a saved formula answers

A formula whose parentheses are not too deep is accepted whatever was asked before. From then on its
record answers as the formula is read from the left, for every choice of integers for its variables.
-/

open ConditionRegistry.Language

namespace ConditionRegistry
open Guard Registry

/-! ### The value of the expression -/

def integers (σ : List (String × Int64)) : Bindings := ⟨σ.map fun e => (e.1, .integer e.2)⟩

theorem lookup_scopeOf_integers (σ : List (String × Int64)) (x : String) :
    (scopeOf (integers σ)).lookup x = (σ.lookup x).map .int := by
  rw [scopeOf, integers, List.map_map]
  exact lookup_map_snd Value.int σ x

theorem apply_relation (op : Comparison) (a b : Int64) :
    op.relation.apply (.int a) (.int b) = .ok (.bool (op.holds a b)) := by
  have hordered : ∀ (test : Ordering → Bool) (p : Prop) [Decidable p],
      (test (compare a.toInt b.toInt) = true ↔ p) →
      ordered (.int a) (.int b) test = .ok (.bool (decide p)) := by
    intro test p _ h
    simp only [ordered, Value.order?, Bool.eq_iff_iff.2 (h.trans decide_eq_true_iff.symm)]
  cases op with
  | less => exact hordered (· == .lt) (a < b) (by simp [Int64.lt_iff_toInt_lt, Int.compare_eq_lt])
  | lessEqual =>
    exact hordered (· != .gt) (a ≤ b) (by simp [Int64.le_iff_toInt_le, Int.compare_ne_gt])
  | greaterEqual =>
    exact hordered (· != .lt) (b ≤ a) (by simp [Int64.le_iff_toInt_le, Int.compare_ne_lt])
  | greater =>
    exact hordered (· == .gt) (b < a) (by simp [Int64.lt_iff_toInt_lt, Int.compare_eq_gt])
  | equal => simp only [Comparison.relation, Relation.apply, Value.same, Comparison.holds]
  | notEqual => simp only [Comparison.relation, Relation.apply, Value.same, Comparison.holds, bne]

namespace Formula

def resultOf : Except String Bool → Result
  | .ok b => .ok (.bool b)
  | .error x => fails (.undeclared x)

theorem eval_expr (f : Formula) (order : MapOrder) {value : String → Option Int64} {scope : Scope}
    (h : ∀ x, scope.lookup x = (value x).map .int) (here : Origin) :
    eval order here scope f.expr = resultOf (f.reading value) := by
  induction f generalizing here with
  | compare v op n =>
    have hv := h v.name
    simp only [expr, eval, lookupVariable, hv, reading]
    cases value v.name with
    | none => rfl
    | some m => exact apply_relation op m n
  | join k f g ihf ihg =>
    cases k with
    | and =>
      simp only [expr, Keyword.expr, eval, ihf, ihg, reading]
      cases f.reading value with
      | error x => rfl
      | ok b =>
        cases b with
        | false => rfl
        | true => cases g.reading value <;> rfl
    | or =>
      simp only [expr, Keyword.expr, eval, ihf, ihg, reading]
      cases f.reading value with
      | error x => rfl
      | ok b => cases b <;> rfl

/-! ### The answers of the service -/

/-- The answer to a question whether a formula holds. -/
def answerOf : Except String Bool → Answer Bool
  | .ok b => .ok b
  | .error x => refuse .evaluation ("Undeclared reference to '" ++ x ++ "'")

theorem evaluate_symbols (f : Formula) (order : MapOrder) {σ : List (String × Int64)}
    (hσ : σ ≠ []) :
    evaluate (engine order) (String.ofList f.symbols) (integers σ) =
      answerOf (f.reading fun x => σ.lookup x) := by
  have hb : (integers σ).isEmpty = false := by
    cases σ with
    | nil => exact absurd rfl hσ
    | cons e r => rfl
  have hparse : (engine order).parse (String.ofList f.symbols) = .ok f.expr := f.parseText_symbols
  have heval := f.eval_expr order (lookup_scopeOf_integers σ) []
  have hrun : (engine order).run f.expr (integers σ) = run order f.expr (integers σ) := rfl
  simp only [evaluate, hb, hparse, hrun, run, heval, Bool.false_eq_true, if_false]
  cases f.reading fun x => σ.lookup x <;> rfl

theorem acceptable_text (f : Formula) (order : MapOrder) (h : f.depth ≤ maxDepth) :
    Acceptable (engine order) (normalForm f.text) where
  present := by
    obtain ⟨c, r, hs, -⟩ := f.exists_cons_spelled Keyword.operator
    rw [normalForm_text, symbols, hs]
    simp
  paired := by
    rw [normalForm_text, String.toList_ofList]
    exact f.hasLoneOperator_symbols
  balanced := by
    have hb := f.balancedFrom_symbols 0 []
    rw [List.append_nil] at hb
    rw [normalForm_text, String.toList_ofList, isBalanced, hb]
    rfl
  shallow := by
    have hd := f.tooDeepFrom_symbols 0 (by omega) []
    rw [List.append_nil] at hd
    rw [normalForm_text, String.toList_ofList, isTooDeep, hd]
    rfl
  readable := ⟨f.expr, by rw [normalForm_text]; exact f.parseText_symbols⟩

theorem check_text (f : Formula) (order : MapOrder) (h : f.depth ≤ maxDepth) :
    check (engine order) f.text = .ok () := by
  refine (check_eq_ok_iff (engine order) f.text).2 ⟨?_, f.acceptable_text order h⟩
  obtain ⟨c, r, hs, -⟩ := f.exists_cons_spelled Keyword.word
  rw [text, hs]
  simp

end Formula

/-- After any run, saving a formula with at most 32 nested parentheses gives an id. Whatever is
    asked in between, evaluating that id with integers for some names answers with the truth value
    of the formula read from the left, or says which variable the reading missed. -/
theorem saved_formula_answers (order : MapOrder) (f : Formula) (hdepth : f.depth ≤ maxDepth)
    (ops later : List Operation) (fresh name : String) (hname : isBlankText name = false)
    (hids : (freshIds (ops ++ .save fresh name f.text :: later)).Nodup)
    (hpresent : "" ∉ freshIds (ops ++ .save fresh name f.text :: later)) :
    ∃ id, (stepMemory (engine order) (.save fresh name f.text)
        (Memory.after (engine order) ops)).1 = .ok (.id id) ∧
      ∀ σ : List (String × Int64), σ ≠ [] →
        (stepMemory (engine order) (.evaluate id (integers σ))
          (Memory.after (engine order) (ops ++ .save fresh name f.text :: later))).1 =
        (Formula.answerOf (f.reading fun x => σ.lookup x)).map .truth := by
  have hall : freshIds (ops ++ .save fresh name f.text :: later) =
      freshIds ops ++ fresh :: freshIds later := freshIds_append _ _
  have hlater : Ledger.after (engine order) (ops ++ .save fresh name f.text :: later) =
      (runAll (Ledger.step (engine order)) later
        ((Ledger.after (engine order) ops).step (engine order) (.save fresh name f.text)).2).2 :=
    Ledger.after_append _ _ _
  obtain ⟨hops, -, hapart⟩ := List.nodup_append'.1 (hall ▸ hids)
  have hnew : ∀ id ∈ freshIds [.save fresh name f.text],
      id ∉ (Ledger.after (engine order) ops).ids := by
    intro id hid hmem
    rw [List.mem_singleton.1 hid] at hmem
    exact hapart (Ledger.after_ids_subset (engine order) ops hmem) List.mem_cons_self
  obtain ⟨e, he, hanswer, htext⟩ :=
    Ledger.exists_mem_save hname (f.check_text order hdepth) fresh (Ledger.after (engine order) ops)
  have hsave := ((Memory.Mirrors.after (engine order) ops hops).step (engine order) _ hnew).1
  rw [Ledger.step, hanswer] at hsave
  refine ⟨e.id, hsave, fun σ hσ => ?_⟩
  have hmem : e ∈ Ledger.after (engine order) (ops ++ .save fresh name f.text :: later) := by
    rw [hlater]
    exact (Ledger.runAll_grows (engine order) later _).subset he
  have hid : e.id.isEmpty = false := by
    have hin := Ledger.after_ids_subset (engine order) _ (List.mem_map_of_mem (f := Record.id) hmem)
    rw [String.isEmpty_eq_false_iff]
    exact fun h => hpresent (h ▸ hin)
  have heval : evaluate (engine order) e.text (integers σ) =
      Formula.answerOf (f.reading fun x => σ.lookup x) := by
    rw [htext, f.normalForm_text]
    exact f.evaluate_symbols order hσ
  rw [stepMemory_evaluate, (Memory.Mirrors.after (engine order) _ hids).findId_of_mem hmem]
  simp only [hid, Bool.false_eq_true, if_false, heval]

/-- Variables that are called like the keywords, beside the extreme integers. -/
def keywordNames : Formula :=
  .join .or (.compare ⟨['O', 'R'], rfl, rfl, by decide⟩ .greater Int64.minValue)
    (.compare ⟨['A', 'N', 'D'], rfl, rfl, by decide⟩ .equal Int64.maxValue)

theorem saved_formula_answers_keywordNames :
    ∃ id, (stepMemory engine (.save "b" "Second" keywordNames.text)
        (Memory.after engine [.save "a" "First" "x > 1"])).1 = .ok (.id id) ∧
      (stepMemory engine (.evaluate id (integers [("OR", 0)])) (Memory.after engine
        [.save "a" "First" "x > 1", .save "b" "Second" keywordNames.text, .list])).1 =
          .ok (.truth true) ∧
      (stepMemory engine (.evaluate id (integers [("AND", 0)])) (Memory.after engine
        [.save "a" "First" "x > 1", .save "b" "Second" keywordNames.text, .list])).1 =
          refuse .evaluation "Undeclared reference to 'OR'" := by
  obtain ⟨id, hsave, h⟩ := saved_formula_answers .inserted keywordNames (by decide)
    [.save "a" "First" "x > 1"] [.list] "b" "Second" (by decide) (by decide) (by decide)
  exact ⟨id, hsave, (h [("OR", 0)] (by decide)).trans (by decide),
    (h [("AND", 0)] (by decide)).trans (by decide)⟩

/-- Only the keyword between the parentheses becomes an operator. -/
example : normalForm keywordNames.text =
    "(OR > -9223372036854775808) || (AND == 9223372036854775807)" := by
  decide +kernel

end ConditionRegistry
