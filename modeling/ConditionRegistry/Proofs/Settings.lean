import ConditionRegistry.Proofs.Integers.Reading
import ConditionRegistry.Proofs.Settings.Variables

set_option autoImplicit false

/-!
# Which settings can be used

The settings of a process can be used exactly if the text for the port denotes a port and the text
for the backend names one. Otherwise the first thing that is wrong is told, and that the port is
zero comes last.
-/

namespace ConditionRegistry.Settings
open Decimal Text

def Backend.name : Backend → String
  | .memory => "memory"
  | .redis => "redis"

def plain (s : String) : String := String.ofList (lowercase (trim s.toList))

/-- The first thing that is wrong with the texts for the port and the backend. -/
inductive FirstFault (port backend : String) : ConfigFault → Prop
  | port (h : ¬ ∃ n ≤ 65535, Denotes port.toList n) :
    FirstFault port backend (.port (complaint 65535 port.toList))
  | backend {n : Nat} (hn : n ≤ 65535) (hport : Denotes port.toList n)
      (h : ∀ b : Backend, plain backend ≠ b.name) :
    FirstFault port backend (.backend (plain backend))
  | portZero (hport : Denotes port.toList 0) {b : Backend} (hb : plain backend = b.name) :
    FirstFault port backend .portZero

/-! ### The port -/

theorem portOf_of_denotes {s : String} {n : Nat} (hn : n ≤ 65535) (h : Denotes s.toList n) :
    portOf s = .ok n := by
  have hread : integerOfText 0 65535 s.toList = .ok n := integerOfText_of_denotes h hn
  rw [portOf, hread]
  rfl

theorem portOf_of_not_denotes {s : String} (h : ¬ ∃ n ≤ 65535, Denotes s.toList n) :
    portOf s = .error (.port (complaint 65535 s.toList)) := by
  have hread : integerOfText 0 65535 s.toList = .error (complaint 65535 s.toList) :=
    integerOfText_of_not_denotes h
  rw [portOf, hread]

/-! ### The backend -/

theorem backendOf_of_name {s : String} {b : Backend} (h : plain s = b.name) :
    backendOf s = .ok b := by
  have hplain : String.ofList (lowercase (trim s.toList)) = b.name := h
  rw [backendOf, hplain]
  cases b <;> rfl

theorem backendOf_of_no_name {s : String} (h : ∀ b : Backend, plain s ≠ b.name) :
    backendOf s = .error (.backend (plain s)) := by
  have hmemory : String.ofList (lowercase (trim s.toList)) ≠ "memory" := h .memory
  have hredis : String.ofList (lowercase (trim s.toList)) ≠ "redis" := h .redis
  rw [backendOf, if_neg hmemory, if_neg hredis]
  rfl

/-! ### Both -/

def ofTexts (host port backend redisUrl : String) : Except ConfigFault Config := do
  let p ← portOf port
  let b ← backendOf backend
  if p = 0 then .error .portZero else .ok ⟨host, p, b, redisUrl⟩

theorem load_eq_ofTexts (env : Environment) (file : List Char) :
    Config.load env file =
      ofTexts (effective env file "API_HOST" "0.0.0.0") (effective env file "API_PORT" "8080")
        (effective env file "STORAGE_BACKEND" "memory")
        (effective env file "REDIS_URL" "redis://127.0.0.1:6379") := by
  simp only [← getD_lookup_load]
  rfl

section Texts
variable {host port backend redisUrl : String}

theorem ofTexts_of_firstFault {f : ConfigFault} (h : FirstFault port backend f) :
    ofTexts host port backend redisUrl = .error f := by
  cases h with
  | port h =>
    rw [ofTexts, portOf_of_not_denotes h]
    rfl
  | backend hn hport h =>
    rw [ofTexts, portOf_of_denotes hn hport, backendOf_of_no_name h]
    rfl
  | portZero hport hb =>
    rw [ofTexts, portOf_of_denotes (Nat.zero_le _) hport, backendOf_of_name hb]
    rfl

theorem ofTexts_of_valid {n : Nat} {b : Backend} (hport : Denotes port.toList n) (hpos : 1 ≤ n)
    (hn : n ≤ 65535) (hb : plain backend = b.name) :
    ofTexts host port backend redisUrl = .ok ⟨host, n, b, redisUrl⟩ := by
  rw [ofTexts, portOf_of_denotes hn hport, backendOf_of_name hb]
  change (if n = 0 then _ else _) = _
  rw [if_neg (by omega)]

theorem valid_or_firstFault (port backend : String) :
    (∃ n b, Denotes port.toList n ∧ 1 ≤ n ∧ n ≤ 65535 ∧ plain backend = Backend.name b) ∨
      ∃ f, FirstFault port backend f := by
  by_cases hport : ∃ n ≤ 65535, Denotes port.toList n
  · obtain ⟨n, hn, hdenotes⟩ := hport
    by_cases hbackend : ∃ b : Backend, plain backend = b.name
    · obtain ⟨b, hb⟩ := hbackend
      cases n with
      | zero => exact .inr ⟨_, .portZero hdenotes hb⟩
      | succ n => exact .inl ⟨n + 1, b, hdenotes, Nat.le_add_left 1 n, hn, hb⟩
    · exact .inr ⟨_, .backend hn hdenotes (not_exists.1 hbackend)⟩
  · exact .inr ⟨_, .port hport⟩

theorem ofTexts_eq_ok_iff (c : Config) :
    ofTexts host port backend redisUrl = .ok c ↔
      Denotes port.toList c.port ∧ 1 ≤ c.port ∧ c.port ≤ 65535 ∧ plain backend = c.backend.name ∧
        c.host = host ∧ c.redisUrl = redisUrl := by
  constructor
  · intro h
    obtain ⟨n, b, hport, hpos, hn, hb⟩ | ⟨f, hf⟩ := valid_or_firstFault port backend
    · rw [ofTexts_of_valid hport hpos hn hb] at h
      cases h
      exact ⟨hport, hpos, hn, hb, rfl, rfl⟩
    · rw [ofTexts_of_firstFault hf] at h
      cases h
  · rintro ⟨hport, hpos, hn, hb, rfl, rfl⟩
    exact ofTexts_of_valid hport hpos hn hb

theorem ofTexts_eq_error_iff (f : ConfigFault) :
    ofTexts host port backend redisUrl = .error f ↔ FirstFault port backend f := by
  constructor
  · intro h
    obtain ⟨n, b, hport, hpos, hn, hb⟩ | ⟨g, hg⟩ := valid_or_firstFault port backend
    · rw [ofTexts_of_valid hport hpos hn hb] at h
      cases h
    · rw [ofTexts_of_firstFault hg] at h
      cases h
      exact hg
  · exact ofTexts_of_firstFault

end Texts

/-- The settings of a process are made of the texts that count for its four variables. They are
    there exactly if the one for the port denotes a number from 1 to 65535 and the one for the
    backend is the name of a backend, white space around it and the case of its letters aside. If
    they are not there, then what is told is the first fault of these two texts, and only that. -/
theorem settings_loaded (env : Environment) (file : List Char) :
    let port := effective env file "API_PORT" "8080"
    let backend := effective env file "STORAGE_BACKEND" "memory"
    (∀ c, Config.load env file = .ok c ↔
      Denotes port.toList c.port ∧ 1 ≤ c.port ∧ c.port ≤ 65535 ∧ plain backend = c.backend.name ∧
        c.host = effective env file "API_HOST" "0.0.0.0" ∧
        c.redisUrl = effective env file "REDIS_URL" "redis://127.0.0.1:6379") ∧
    ∀ f, Config.load env file = .error f ↔ FirstFault port backend f := by
  rw [load_eq_ofTexts]
  exact ⟨ofTexts_eq_ok_iff, ofTexts_eq_error_iff⟩

/-- With a port that is zero and a backend that is unknown it is the backend that is told. -/
example : Config.load [("API_PORT", bytesOf ['+', '0', '0'])]
    "STORAGE_BACKEND=' Mongo'".toList = .error (.backend "mongo") := by
  decide +kernel

end ConditionRegistry.Settings
