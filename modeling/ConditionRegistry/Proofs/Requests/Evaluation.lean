import ConditionRegistry.Proofs.Bindings
import ConditionRegistry.Proofs.Requests
import ConditionRegistry.Proofs.StoredRecords

set_option autoImplicit false

/-!
# Requests for evaluation

What a request for evaluation is answered goes by the body of the request, the store and what the
condition comes to, in this order. Nothing else is ever an internal error.
-/

namespace ConditionRegistry.Http
open Json Registry

/-- A request for evaluation whose body has been read. -/
structure Request.Evaluates (q : Request) (found : Found (Option Value)) : Prop
    extends q.Posts .evaluate where
  fits : q.Fits
  read : readFields ["id", "variables"] (optional anyField) q.body.toList = .ok found

def evaluationError (detail : String) : Response :=
  errorResponse 500 ("Error during evaluation: Error during expression evaluation: " ++ detail)

/-- What is wrong with the id and the variables of a request. It does not matter whether a record
    has the id, except where there are no variables. -/
inductive Faulty (m : Memory) : Option Value → Option Value → Prop
  | noId (given : Option Value) : Faulty m none given
  | noVariables (id : Option Value) : Faulty m id none
  | otherId {v : Value} (hv : ∀ s, v ≠ .string s) (given : Option Value) : Faulty m (some v) given
  | otherVariables (id : Option Value) {v : Value} (hv : ∀ members, v ≠ .object members) :
    Faulty m id (some v)
  | noScalar (id : Option Value) {members : List (String × Value)} {x : String × Value}
      (hx : x ∈ members)
      (hv : x.2 = .null ∨ (∃ items, x.2 = .array items) ∨ ∃ inner, x.2 = .object inner) :
    Faulty m id (some (.object members))
  | emptyId (given : Option Value) : Faulty m (some (.string "")) given
  | noMembers {id : String} {e : Record} (he : m.findId id = some e) :
    Faulty m (some (.string id)) (some (.object []))

/-- The responses to what running a condition comes to. -/
inductive Tells : Except (Stop String) Scalar → Option Response → Prop
  | truth (t : Bool) : Tells (.ok (.boolean t)) (some (jsonResponse 200 (boolText t)))
  | noTruth {v : Scalar} (hv : ∀ t, v ≠ .boolean t) (detail : String) :
    Tells (.ok v) (some (evaluationError detail))
  | fault (detail : String) : Tells (.error (.fault detail)) (some (evaluationError detail))
  | broken : Tells (.error .broken) none

/-- The answers to the id and the variables of a request. Each case excludes those before it. -/
inductive Answers (E : Engine) (m : Memory) :
    Option Value → Option Value → Option Response → Prop
  | bad {id given : Option Value} (h : Faulty m id given) (message : String) :
    Answers E m id given (some (errorResponse 400 message))
  | unknown {id : String} {members : List (String × Value)}
      (h : ¬ Faulty m (some (.string id)) (some (.object members))) (hid : m.findId id = none) :
    Answers E m (some (.string id)) (some (.object members))
      (some (errorResponse 404 ("Expression not found for ID: " ++ id)))
  | ran {id : String} {members : List (String × Value)}
      (h : ¬ Faulty m (some (.string id)) (some (.object members))) {e : Record}
      (hid : m.findId id = some e) {b : Bindings} (hb : bindingsOfJson members = .ok b)
      {p : E.Program} (hp : E.parse e.text = .ok p) {response : Option Response}
      (hr : Tells (E.run p b) response) :
    Answers E m (some (.string id)) (some (.object members)) response

section Evaluation
variable {E : Engine} {m : Memory}

theorem Tells.status_eq {ran : Except (Stop String) Scalar} {r r' : Option Response}
    (h : Tells ran r) (h' : Tells ran r') : r.map Response.status = r'.map Response.status := by
  cases h with
  | truth t =>
    cases h' with
    | truth => rfl
    | noTruth hv => exact absurd rfl (hv t)
  | noTruth hv =>
    cases h' with
    | truth t => exact absurd rfl (hv t)
    | noTruth => rfl
  | fault => cases h'; rfl
  | broken => cases h'; rfl

theorem Answers.status_eq {id given : Option Value} {r r' : Option Response}
    (h : Answers E m id given r) (h' : Answers E m id given r') :
    r.map Response.status = r'.map Response.status := by
  cases h with
  | bad hf =>
    cases h' with
    | bad => rfl
    | unknown hn => exact absurd hf hn
    | ran hn => exact absurd hf hn
  | unknown hn hid =>
    cases h' with
    | bad hf => exact absurd hf hn
    | unknown => rfl
    | ran _ hid' => cases hid.symm.trans hid'
  | ran hn hid hb hp hr =>
    cases h' with
    | bad hf => exact absurd hf hn
    | unknown _ hid' => cases hid.symm.trans hid'
    | ran _ hid' hb' hp' hr' =>
      cases hid.symm.trans hid'
      cases hb.symm.trans hb'
      cases hp.symm.trans hp'
      exact hr.status_eq hr'

theorem not_faulty {id : String} {members : List (String × Value)} {b : Bindings} (hid : id ≠ "")
    (hb : bindingsOfJson members = .ok b) (hm : m.findId id = none ∨ members ≠ []) :
    ¬ Faulty m (some (.string id)) (some (.object members)) := by
  intro h
  cases h with
  | otherId hv => exact hv id rfl
  | otherVariables _ hv => exact hv members rfl
  | noScalar _ hx hv =>
    exact (of_bindingsOfJson_eq_ok hb).1 _ hx ((scalarOfJson?_eq_none_iff _).2 hv)
  | emptyId => exact hid rfl
  | noMembers he =>
    obtain hnone | hne := hm
    · cases hnone.symm.trans he
    · exact hne rfl

theorem respondWith_fault (detail : String) :
    respondWith evaluationFault ((refuse .evaluation detail : Answer Bool).map .truth) =
      some (evaluationError detail) := by
  have htext : Fault.text ⟨.evaluation, detail⟩ =
    "Error during expression evaluation: " ++ detail := rfl
  change some (evaluationFault ⟨.evaluation, detail⟩) = _
  rw [evaluationFault, if_pos rfl, htext, evaluationError, ← String.append_assoc]
  rfl

theorem truthOf_cases (v : Scalar) :
    (∃ t, v = .boolean t) ∨
      ((∀ t, v ≠ .boolean t) ∧ ∃ detail, truthOf v = refuse .evaluation detail) := by
  by_cases h : ∃ t, v = .boolean t
  · exact .inl h
  · have hv : ∀ t, v ≠ .boolean t := not_exists.1 h
    exact .inr ⟨hv, _, truthOf_of_ne_boolean hv⟩

theorem tells_evaluate {text : String} {p : E.Program} {b : Bindings}
    (hp : E.parse text = .ok p) (hb : b.isEmpty = false) :
    Tells (E.run p b)
      (respondWith evaluationFault ((ConditionRegistry.evaluate E text b).map .truth)) := by
  simp only [ConditionRegistry.evaluate, hb, hp, Bool.false_eq_true, if_false]
  cases E.run p b with
  | error s =>
    cases s with
    | fault detail =>
      have htells := Tells.fault detail
      rwa [← respondWith_fault] at htells
    | broken => exact .broken
  | ok v =>
    obtain ⟨t, rfl⟩ | ⟨hv, detail, hdetail⟩ := truthOf_cases v
    · exact .truth t
    · have htells := Tells.noTruth hv detail
      rwa [← respondWith_fault, ← hdetail] at htells

theorem store_evaluate (id : String) (b : Bindings) : (stepMemory E (.evaluate id b) m).2 = m := by
  obtain hsame | ⟨fresh, name, raw, hsave, -⟩ := stepMemory_cases E (.evaluate id b) m
  · exact hsame
  · cases hsave

theorem answers_operation (hm : ∀ id e, m.findId id = some e → e.WellFormed E) (id : String)
    {members : List (String × Value)} {b : Bindings} (hb : bindingsOfJson members = .ok b) :
    Answers E m (some (.string id)) (some (.object members))
      (respondWith evaluationFault (stepMemory E (.evaluate id b) m).1) := by
  have hempty := (of_bindingsOfJson_eq_ok hb).2
  rw [stepMemory_evaluate]
  by_cases hid : id = ""
  · subst hid
    exact .bad (.emptyId _) _
  · rw [if_neg (by simpa using hid)]
    cases hf : m.findId id with
    | none => exact .unknown (not_faulty hid hb (.inl hf)) hf
    | some e =>
      cases members with
      | nil =>
        have hrefused : ConditionRegistry.evaluate E e.text b =
            refuse .invalidArgument noVariables := by
          rw [ConditionRegistry.evaluate, hempty]
          rfl
        simp only [hrefused]
        exact .bad (.noMembers hf) _
      | cons x r =>
        obtain ⟨p, hp⟩ := ((checkNormal_eq_ok_iff E e.text).1 (hm id e hf).accepted).readable
        exact .ran (not_faulty hid hb (.inr (List.cons_ne_nil x r))) hf hb hp
          (tells_evaluate hp hempty)

theorem serve_evaluate (hm : ∀ id e, m.findId id = some e → e.WellFormed E) {q : Request}
    {found : Found (Option Value)} (hq : q.Evaluates found) (fresh : String) :
    ∃ response, serve (stepMemory E) fresh q m = (response, m) ∧
      Answers E m (found.lookup "id").join (found.lookup "variables").join response := by
  rw [serve, react_of_posts hq.toPosts rfl, Route.reaction, evaluate,
    withFields_of_read hq.toPosts hq.fits hq.read]
  generalize (found.lookup "id").join = id
  generalize (found.lookup "variables").join = given
  have bad : ∀ message, Faulty m id given →
      ∃ response, (badRequest message).run (stepMemory E) m = (response, m) ∧
        Answers E m id given response := fun message h => ⟨_, rfl, .bad h message⟩
  cases id with
  | none => exact bad _ (.noId given)
  | some v =>
    cases given with
    | none => exact bad _ (.noVariables _)
    | some w =>
      cases v with
      | string id =>
        cases w with
        | object members =>
          dsimp only
          cases hb : bindingsOfJson members with
          | error f =>
            obtain ⟨_, x, _, hmembers, -, hnone, hf⟩ := bindingsOfJson_eq_error hb
            have hfault : faultResponse f = errorResponse 400 f.text := by
              rw [hf]
              rfl
            have hx : x ∈ members := by simp [hmembers]
            have hx' := (scalarOfJson?_eq_none_iff _).1 hnone
            exact ⟨_, rfl, hfault ▸ .bad (.noScalar _ hx hx') f.text⟩
          | ok b => exact ⟨_, Prod.ext rfl (store_evaluate id b), answers_operation hm id hb⟩
        | _ => exact bad _ (.otherVariables _ (fun members h => by cases h))
      | _ => exact bad _ (.otherId (fun s h => by cases h) _)

end Evaluation

/-! ### What is never an internal error -/

section Mild
variable {E : Engine} {m : Memory}

/-- A reaction that comes to a response, and not to an internal error. -/
def Reaction.Mild (E : Engine) (m : Memory) (x : Reaction) : Prop :=
  ∃ response, (x.run (stepMemory E) m).1 = some response ∧ response.status ≠ 500

theorem mild_respond {response : Response} (h : response.status ≠ 500) :
    (Reaction.respond response).Mild E m :=
  ⟨response, rfl, h⟩

theorem Reaction.Mild.withoutBody {x : Reaction} (h : x.Mild E m) : x.withoutBody.Mild E m := by
  obtain ⟨response, hrun, hstatus⟩ := h
  cases x with
  | respond r =>
    cases hrun
    exact ⟨_, rfl, hstatus⟩
  | ask o next =>
    have hnext : next (stepMemory E o m).1 = some response := hrun
    refine ⟨response.withoutBody, ?_, hstatus⟩
    change (next (stepMemory E o m).1).map Response.withoutBody = _
    rw [hnext]
    rfl

theorem mild_withFields {α : Type} {q : Request} {names : List String} {read : Reader α}
    {next : (String → Option α) → Reaction}
    (h : (q.mediaType.any fun t => isJsonMedia t.toList) = true → q.Fits →
      ∀ found, readFields names read q.body.toList = .ok found →
        (next fun name => found.lookup name).Mild E m) :
    (withFields q names read next).Mild E m := by
  unfold withFields
  cases hjson : q.mediaType.any fun t => isJsonMedia t.toList with
  | false => exact mild_respond (by simp [textResponse])
  | true =>
    rw [Bool.not_true, if_neg Bool.false_ne_true]
    by_cases hlong : bodyLimit < q.body.utf8ByteSize
    · rw [if_pos hlong]
      exact mild_respond (by simp [tooLong, textResponse])
    · rw [if_neg hlong]
      cases hread : readFields names read q.body.toList with
      | ok found => exact h hjson (Nat.not_lt.1 hlong) found hread
      | error e => cases e <;> exact mild_respond (by simp [textResponse])

theorem status_outcomeBody (o : Outcome) : (outcomeBody o).status = 200 := by
  cases o <;> rfl

theorem mild_ask {o : Operation} {onFault : Fault → Response}
    (h : ∀ s, (stepMemory E o m).1 = .error s → ∃ f, s = .fault f ∧ (onFault f).status ≠ 500) :
    (Reaction.ask o (respondWith onFault)).Mild E m := by
  have hrun : ((Reaction.ask o (respondWith onFault)).run (stepMemory E) m).1 =
    respondWith onFault (stepMemory E o m).1 := rfl
  rw [Reaction.Mild, hrun]
  cases ha : (stepMemory E o m).1 with
  | ok a => exact ⟨outcomeBody a, rfl, by simp [status_outcomeBody]⟩
  | error s =>
    obtain ⟨f, rfl, hf⟩ := h s ha
    exact ⟨onFault f, rfl, hf⟩

theorem status_refusal (r : Refusal) : (faultResponse r.fault).status = 400 := by
  cases r <;> rfl

theorem mild_save (fresh : String) (q : Request) : (save fresh q).Mild E m := by
  refine mild_withFields fun _ _ found _ => ?_
  cases visible? (found.lookup "name").join with
  | none => exact mild_respond (by simp [errorResponse, jsonResponse])
  | some name =>
    cases visible? (found.lookup "expression").join with
    | none => exact mild_respond (by simp [errorResponse, jsonResponse])
    | some text =>
      refine mild_ask fun s hs => ?_
      rw [stepMemory_save] at hs
      split at hs
      · cases hs
        exact ⟨_, rfl, by simp [faultResponse, statusOf, errorResponse, jsonResponse]⟩
      · cases hc : check E text with
        | error r =>
          rw [hc] at hs
          cases hs
          exact ⟨_, rfl, by simp [status_refusal]⟩
        | ok u =>
          rw [hc] at hs
          cases hf : m.findText (normalForm text) <;> rw [hf] at hs <;> cases hs

theorem mild_validate (q : Request) : (validate q).Mild E m := by
  refine mild_withFields fun _ _ found _ => mild_ask fun s hs => ?_
  rw [stepMemory_validate, Service.validate] at hs
  cases hc : check E ((found.lookup "expression").join.getD "") with
  | error r =>
    rw [hc] at hs
    cases hs
    exact ⟨_, rfl, by cases r <;> simp [Refusal.fault, validationFault, jsonResponse]⟩
  | ok u =>
    rw [hc] at hs
    cases hs

theorem mild_getRecord (segment : List Char) : (getRecord segment).Mild E m := by
  unfold getRecord
  cases decodeSegment? segment with
  | none => exact mild_respond (by simp [textResponse])
  | some id =>
    refine mild_ask fun s hs => ?_
    rw [stepMemory_get] at hs
    cases hf : m.findId id with
    | some e =>
      rw [hf] at hs
      cases hs
    | none =>
      rw [hf] at hs
      cases hs
      exact ⟨_, rfl, by simp [faultResponse, statusOf, errorResponse, jsonResponse]⟩

theorem mild_list : (Reaction.ask .list (respondWith faultResponse)).Mild E m := by
  refine mild_ask fun s hs => ?_
  cases hs

theorem mild_reaction {q : Request} (h : ∀ found, ¬ q.Evaluates found) (fresh : String) {r : Route}
    (hr : route? (pathOf q.target.toList) = some r) (hmethod : r.isReading ∨ q.method = .post) :
    (r.reaction fresh q).Mild E m := by
  cases r with
  | health => exact mild_respond (by simp [healthy, jsonResponse])
  | record segment => exact mild_getRecord segment
  | all => exact mild_list
  | save => exact mild_save fresh q
  | validate => exact mild_validate q
  | evaluate =>
    have hpost : q.method = .post := hmethod.resolve_left (by simp [Route.isReading])
    have hmild : (evaluate q).Mild E m := by
      unfold evaluate
      refine mild_withFields fun hjson hfits found hread => ?_
      exact absurd ⟨⟨hpost, hr, hjson⟩, hfits, hread⟩ (h found)
    exact hmild

theorem mild_react {q : Request} (h : ∀ found, ¬ q.Evaluates found) (fresh : String) :
    (react fresh q).Mild E m := by
  unfold react
  split
  · exact mild_respond (by simp [bareResponse])
  · dsimp only
    cases hr : route? (pathOf q.target.toList) with
    | none => exact mild_respond (by simp [bareResponse])
    | some r =>
      dsimp only
      split_ifs with hown hhead
      · refine mild_reaction h fresh hr ?_
        obtain ⟨-, hreading⟩ | ⟨hpost, -⟩ := hown
        · exact .inl hreading
        · exact .inr hpost
      · exact (mild_reaction h fresh hr (.inl hhead.2)).withoutBody
      · exact mild_respond (by simp [bareResponse])

end Mild

/-- Whatever requests a registry in memory has served: a request for evaluation leaves the store as
    it is, and its answer goes by its id and variables, the stored condition and what the condition
    comes to. Every other request is answered, and never with an internal error. -/
theorem evaluation_request_answers (E : Engine) (qs : List (String × Request)) (fresh : String)
    (q : Request) :
    (∀ found, q.Evaluates found → ∃ response,
        serve (stepMemory E) fresh q (served E qs) = (response, served E qs) ∧
          Answers E (served E qs) (found.lookup "id").join (found.lookup "variables").join
            response ∧
          ∀ other, Answers E (served E qs) (found.lookup "id").join
            (found.lookup "variables").join other →
              other.map Response.status = response.map Response.status) ∧
      ((∀ found, ¬ q.Evaluates found) → ∃ response,
        (serve (stepMemory E) fresh q (served E qs)).1 = some response ∧
          response.status ≠ 500) := by
  have hstored : ∀ id e, (served E qs).findId id = some e → e.WellFormed E := by
    rw [served_eq_after]
    exact Memory.wellFormed_after E _
  refine ⟨fun found hq => ?_, fun h => mild_react h fresh⟩
  obtain ⟨response, hserve, hanswers⟩ := serve_evaluate hstored hq fresh
  exact ⟨response, hserve, hanswers, fun other hother => hother.status_eq hanswers⟩

def oneSaved : List (String × Request) :=
  [("a", postOf "/expression" [("name", "First"), ("expression", "x > 1")])]

/-- A request for evaluation of an id that is not there, with a variable that is no scalar. -/
def twoFaults : Request :=
  ⟨.post, "/evaluate", some jsonMedia,
    "\x7b\"id\":\"b\",\"variables\":\x7b\"x\":null\x7d\x7d"⟩

/-- The variable counts. -/
theorem evaluation_request_answers_twoFaults :
    (∃ found, twoFaults.Evaluates found ∧
        Answers Language.engine (served Language.engine oneSaved) (found.lookup "id").join
          (found.lookup "variables").join
          (some (errorResponse 400 "Unsupported value for variable 'x'"))) ∧
      ∃ response, (serve (stepMemory Language.engine) "b" ⟨.get, "/all-expressions", none, ""⟩
          (served Language.engine oneSaved)).1 = some response ∧ response.status ≠ 500 := by
  have hok : (readFields ["id", "variables"] (optional anyField) twoFaults.body.toList).isOk =
    true := by decide +kernel
  have hbad : (serve (stepMemory Language.engine) "b" twoFaults
      (served Language.engine oneSaved)).1 =
        some (errorResponse 400 "Unsupported value for variable 'x'") := by decide +kernel
  have hlist : ∀ found, ¬ Request.Evaluates ⟨.get, "/all-expressions", none, ""⟩ found := by
    intro found h
    cases h.method
  refine ⟨?_, (evaluation_request_answers Language.engine oneSaved "b" _).2 hlist⟩
  cases hread : readFields ["id", "variables"] (optional anyField) twoFaults.body.toList with
  | error e =>
    rw [hread] at hok
    cases hok
  | ok found =>
    have hfits : twoFaults.Fits := by decide +kernel
    have hq : twoFaults.Evaluates found := ⟨⟨rfl, by decide, isJsonMedia_jsonMedia⟩, hfits, hread⟩
    obtain ⟨response, hserve, hanswers, -⟩ :=
      (evaluation_request_answers Language.engine oneSaved "b" twoFaults).1 found hq
    rw [hserve] at hbad
    exact ⟨found, hq, hbad ▸ hanswers⟩

end ConditionRegistry.Http
