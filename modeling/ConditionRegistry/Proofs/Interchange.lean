import ConditionRegistry.Proofs.Keyed

set_option autoImplicit false

/-!
# The two stores are interchangeable

Where ids are random UUIDs, no id begins like a text key does. Then the service answers alike on a
store in memory and on a table that refuses nothing, because both answer as the ledger does.
-/

namespace ConditionRegistry
open Registry

/-! ### The form of ids -/

def isHexDigit (c : Char) : Bool := ('0' ≤ c && c ≤ '9') || ('a' ≤ c && c ≤ 'f')

/-- Whether a character may stand at a place of a UUID: `x` is any digit, `y` one that gives the
    variant, and any other place holds itself. -/
def fitsPlace (place c : Char) : Bool :=
  match place with
  | 'x' => isHexDigit c
  | 'y' => c = '8' || c = '9' || c = 'a' || c = 'b'
  | p => c = p

def fits : List Char → List Char → Bool
  | [], [] => true
  | p :: ps, c :: cs => fitsPlace p c && fits ps cs
  | _, _ => false

/-- The random UUIDs (version 4), as they are written in lower case. -/
def isUuid (id : String) : Bool := fits "xxxxxxxx-xxxx-4xxx-yxxx-xxxxxxxxxxxx".toList id.toList

theorem isApart_of_isUuid {id : String} (h : isUuid id = true) : IsApart id := by
  rintro text rfl
  rw [isUuid, String.toList_append] at h
  cases h

/-- Over any run of operations that asks for UUIDs and brings pairwise distinct ones, the service
    answers on a fresh table that refuses nothing as on a fresh store in memory, up to the order in
    which records are listed. -/
theorem stores_answer_alike (E : Engine) (ops : List Operation) (hn : (freshIds ops).Nodup)
    (huuid : ∀ o ∈ ops, ∀ id ∈ o.ids, isUuid id = true) :
    List.Forall₂ SameAnswer (runAll (stepMemory E) ops Memory.empty).1
      (runAll (stepTable E fun _ => false) ops Table.empty).1 := by
  have hnew : ∀ id ∈ freshIds ops, id ∉ Ledger.ids [] := fun _ _ => List.not_mem_nil
  have hapart : ∀ o ∈ ops, ∀ id ∈ o.ids, IsApart id :=
    fun o ho id hid => isApart_of_isUuid (huuid o ho id hid)
  rw [(Memory.Mirrors.empty.run E ops hn hnew).1]
  exact (Table.Mirrors.empty.run E ops hn hapart hnew).1

/-- Two conditions, the one with the lower id last, one of them saved again, and ids that are known
    and unknown. -/
def savesOutOfOrder : List Operation :=
  [.save "b52b4a14-9c3d-4d8e-8f5a-6d1b2c3e4f50" "First" "x > 5 AND y < 10",
    .save "0f8fad5b-d9cb-469f-a165-70867728950e" "Second" "x > 1",
    .save "7c9e6679-7425-40de-944b-e07fc1f90ae7" "Again" " x > 5 && y < 10",
    .evaluate "0f8fad5b-d9cb-469f-a165-70867728950e" (.ofList [("x", .integer 2)]),
    .get "7c9e6679-7425-40de-944b-e07fc1f90ae7", .validate "x = 5", .list]

/-- The answers differ in the order of the listing alone. -/
theorem stores_answer_alike_savesOutOfOrder :
    List.Forall₂ SameAnswer
        (runAll (stepMemory Language.engine) savesOutOfOrder Memory.empty).1
        (runAll (stepTable Language.engine fun _ => false) savesOutOfOrder Table.empty).1 ∧
      (runAll (stepTable Language.engine fun _ => false) savesOutOfOrder Table.empty).1 =
        [.ok (.id "b52b4a14-9c3d-4d8e-8f5a-6d1b2c3e4f50"),
          .ok (.id "0f8fad5b-d9cb-469f-a165-70867728950e"),
          .ok (.id "b52b4a14-9c3d-4d8e-8f5a-6d1b2c3e4f50"), .ok (.truth true),
          refuse .notFound "7c9e6679-7425-40de-944b-e07fc1f90ae7",
          .error (.fault Refusal.loneOperator.fault),
          .ok (.records
            [⟨"0f8fad5b-d9cb-469f-a165-70867728950e", "Second", "x > 1"⟩,
              ⟨"b52b4a14-9c3d-4d8e-8f5a-6d1b2c3e4f50", "First", "x > 5 && y < 10"⟩])] :=
  ⟨stores_answer_alike Language.engine savesOutOfOrder (by decide +kernel) (by decide +kernel),
    by decide +kernel⟩

end ConditionRegistry
