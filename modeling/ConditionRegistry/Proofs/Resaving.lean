import ConditionRegistry.Proofs.Ledger
import ConditionRegistry.Proofs.NormalForm
import ConditionRegistry.Proofs.Validation

set_option autoImplicit false

/-!
# Saving a stored text again

The text of a record is a normal form that was accepted. Saving it again gives the record's id and
changes nothing, unless normalising changes the text once more. That is so exactly if it still has a
keyword between spaces: of three in a row, the middle one is left.
-/

namespace ConditionRegistry
open Registry Text

namespace Ledger

theorem text_of_mem_after (E : Engine) (ops : List Operation) (e : Record) (he : e ∈ after E ops) :
    IsTrimmed e.text.toList ∧ Acceptable E e.text := by
  refine forall_mem_runAll E (P := fun e => IsTrimmed e.text.toList ∧ Acceptable E e.text) ?_
    ops [] (by simp) e he
  intro fresh name raw _ hc
  refine ⟨?_, ((check_eq_ok_iff E raw).1 hc).2⟩
  rw [toList_normalForm]
  exact isTrimmed_normalChars _

end Ledger

theorem check_of_normalForm_eq_self {E : Engine} {text : String} (h : Acceptable E text)
    (hn : normalForm text = text) : check E text = .ok () := by
  rw [check_eq_ok_iff, hn]
  exact ⟨h.present, h⟩

namespace Registry.Memory.Mirrors
variable {m : Memory} {l : Ledger}

theorem insert_ne (h : Mirrors m l) (e : Record) (hnew : l.holder? e.text = none) :
    m.insert e ≠ m := by
  intro heq
  have hput : (m.insert e).holders.lookup e.text = _ := lookup_put e.text e.text e.id m.holders
  rw [heq, h.holders, hnew] at hput
  simp at hput

theorem save_eq_self_iff (E : Engine) (h : Mirrors m l) {e : Record} (he : e ∈ l)
    (hok : Acceptable E e.text) (fresh name : String) (hname : isBlankText name = false) :
    stepMemory E (.save fresh name e.text) m = (.ok (.id e.id), m) ↔
      normalForm e.text = e.text := by
  have hself : l.holder? e.text = some e :=
    (Ledger.find?_eq_some_iff Record.text l h.texts e.text e).2 ⟨he, rfl⟩
  rw [stepMemory_save]
  simp only [hname, Bool.false_eq_true, if_false, h.findText]
  constructor
  · intro hs
    cases hc : check E e.text with
    | error r => simp [hc] at hs
    | ok u =>
      simp only [hc] at hs
      cases hf : l.holder? (normalForm e.text) with
      | none =>
        simp only [hf, Prod.mk.injEq] at hs
        exact absurd hs.2 (h.insert_ne _ hf)
      | some d =>
        simp only [hf, Prod.mk.injEq, Except.ok.injEq, Outcome.id.injEq, and_true] at hs
        obtain ⟨hd, htext⟩ :=
          (Ledger.find?_eq_some_iff Record.text l h.texts (normalForm e.text) d).1 hf
        rw [← htext, List.inj_on_of_nodup_map h.ids hd he hs]
  · intro hn
    simp only [check_of_normalForm_eq_self hok hn, hn, hself]

end Registry.Memory.Mirrors

/-- In every state that a run reaches, saving the text of a record under any name that is not blank
    gives the id of the record and changes nothing, exactly if no keyword stands between spaces in
    the text. -/
theorem save_stored_text_iff (E : Engine) (ops : List Operation) (h : (freshIds ops).Nodup)
    (e : Record) (he : e ∈ (Memory.after E ops).list) (fresh name : String)
    (hname : isBlankText name = false) :
    stepMemory E (.save fresh name e.text) (Memory.after E ops) =
        (.ok (.id e.id), Memory.after E ops) ↔
      ∀ k : Keyword, ¬ k.spaced <:+: e.text.toList := by
  have hm := Memory.Mirrors.after E ops h
  rw [hm.list] at he
  obtain ⟨htrim, hok⟩ := Ledger.text_of_mem_after E ops e he
  rw [hm.save_eq_self_iff E he hok fresh name hname, normalForm_eq_self_iff htrim]

/-- A keyword that is left inside a string makes a second record of the text. -/
theorem save_stored_text_quoted :
    ¬ stepMemory Language.engine (.save "b" "Again" "x == 'p || OR || q'")
        (Memory.after Language.engine [.save "a" "First" "x == 'p OR OR OR q'"]) =
      (.ok (.id "a"), Memory.after Language.engine [.save "a" "First" "x == 'p OR OR OR q'"]) :=
  (save_stored_text_iff Language.engine [.save "a" "First" "x == 'p OR OR OR q'"] (by decide)
    ⟨"a", "First", "x == 'p || OR || q'"⟩ (by decide +kernel) "b" "Again" (by decide)).not.2
    fun hk => hk .or (by decide)

/-- One that is left as a name makes the stored text one that is refused. -/
theorem save_stored_text_refused :
    (Memory.after Language.engine [.save "a" "First" "a OR OR OR b"]).list =
        [⟨"a", "First", "a || OR || b"⟩] ∧
      (stepMemory Language.engine (.save "b" "Again" "a || OR || b")
        (Memory.after Language.engine [.save "a" "First" "a OR OR OR b"])).1 =
      .error (.fault (Refusal.unreadable "not an expression").fault) := by
  decide +kernel

end ConditionRegistry
