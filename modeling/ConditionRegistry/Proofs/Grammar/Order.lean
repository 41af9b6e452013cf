import ConditionRegistry.Proofs.Grammar.Readings

set_option autoImplicit false

/-!
# What can stand behind an operand

In the tokens of an expression no name stands right behind an operand, and an operator that joins
conditions stands nowhere else.
-/

namespace ConditionRegistry.Language

def Token.endsOperand : Token → Bool
  | .symbol .closeParen | .symbol .closeBracket | .symbol .closeBrace => true
  | .symbol .true | .symbol .false | .symbol .null => true
  | .symbol _ => false
  | _ => true

/-- Whether a token can stand where it does. `after` tells if an operand has just ended. -/
def Token.fits (after : Bool) : Token → Bool
  | .name _ => !after
  | .symbol .and | .symbol .or => after
  | _ => true

inductive Bracket where
  | round
  | square
  | curly

def Bracket.opening : Bracket → Symbol
  | .round => .openParen
  | .square => .openBracket
  | .curly => .openBrace

def Bracket.closing : Bracket → Symbol
  | .round => .closeParen
  | .square => .closeBracket
  | .curly => .closeBrace

/-- Whether an operand has ended with the last of the tokens, if they all fit. -/
def walk : Bool → List Token → Option Bool
  | after, [] => some after
  | after, t :: r => if t.fits after then walk t.endsOperand r else none

theorem walk_append (after : Bool) (us vs : List Token) :
    walk after (us ++ vs) = (walk after us).bind fun b => walk b vs := by
  induction us generalizing after with
  | nil => rfl
  | cons t r ih =>
    rw [List.cons_append, walk, walk]
    split
    · exact ih _
    · rfl

section
variable {ts us : List Token} {after b : Bool}

theorem walk_cons {t : Token} (ht : t.fits after = true) :
    walk after (t :: ts) = walk t.endsOperand ts := by
  rw [walk, if_pos ht]

theorem of_walk_cons {t : Token} (h : walk after (t :: ts) = some b) :
    t.fits after = true ∧ walk t.endsOperand ts = some b := by
  rw [walk] at h
  split at h
  case isTrue hfits => exact ⟨hfits, h⟩
  case isFalse => cases h

theorem walk_join (h : walk false ts = some true) {t : Token} (ht : t.fits true = true)
    (hends : t.endsOperand = false) (h' : walk false us = some b) :
    walk false (ts ++ t :: us) = some b := by
  rw [walk_append, h, Option.bind_some, walk_cons ht, hends, h']

theorem walk_perhaps_dot (c : Bool) : walk false (perhaps c .dot) = some false := by
  cases c <;> rfl

theorem walk_before_comma (h : walk after ts = some b) (comma : Bool) :
    ∃ b', walk after (ts ++ perhaps comma .comma) = some b' := by
  rw [walk_append, h]
  cases comma with
  | true => exact ⟨false, rfl⟩
  | false => exact ⟨b, rfl⟩

theorem walk_enclosed (k : Bracket) (after : Bool) (h : walk false ts = some b) :
    walk after (.symbol k.opening :: ts ++ [.symbol k.closing]) = some true := by
  have hopening : walk after (.symbol k.opening :: (ts ++ [.symbol k.closing])) =
      walk false (ts ++ [.symbol k.closing]) := by cases k <;> rfl
  rw [List.cons_append, hopening, walk_append, h]
  cases k <;> rfl

theorem walk_replicate {s : Symbol} (hfits : ∀ after, (Token.symbol s).fits after = true)
    (hends : (Token.symbol s).endsOperand = false) (k : Nat) :
    walk false (List.replicate k (.symbol s)) = some false := by
  induction k with
  | zero => rfl
  | succ k ih => rw [List.replicate_succ, walk_cons (hfits _), hends, ih]

theorem walk_dotted {x : String} (h : Dotted x ts) : walk false ts = some true := by
  induction h with
  | one n => rfl
  | more n h ih => exact ih

end

section
variable {t : Token}

theorem literal_fits {v : Literal} (h : t.literal? = some v) :
    (∀ after, t.fits after = true) ∧ t.endsOperand = true := by
  cases t with
  | name n => cases h
  | symbol s => cases s <;> first | exact ⟨fun _ => rfl, rfl⟩ | cases h
  | _ => exact ⟨fun _ => rfl, rfl⟩

theorem negative_fits {v : Literal} (h : t.negative? = some v) :
    (∀ after, t.fits after = true) ∧ t.endsOperand = true := by
  cases t with
  | integer | float => exact ⟨fun _ => rfl, rfl⟩
  | _ => cases h

theorem field_fits {f : String} (h : t.field? = some f) :
    t.fits false = true ∧ t.endsOperand = true := by
  cases t with
  | name | escaped => exact ⟨rfl, rfl⟩
  | _ => cases h

theorem binary_fits {op : BinaryOp} (h : t.binary? = some op) :
    t.fits true = true ∧ t.endsOperand = false := by
  cases t with
  | symbol s => cases s <;> first | exact ⟨rfl, rfl⟩ | cases h
  | _ => cases h

end

/-- The tokens of a reading fit, and an operand has ended with the last of them if there is one. -/
theorem Spells.walk_eq {ps : List Part} {ts : List Token} {n : Nesting} (h : Spells ps ts n) :
    walk false ts = some (!ps.isEmpty) := by
  induction h with
  | none => rfl
  | more h hs ih ihs => exact walk_join ih rfl rfl ihs
  | entry ha hb iha ihb => exact walk_join iha rfl rfl ihb
  | field hf h ih =>
    obtain ⟨hfits, hends⟩ := field_fits hf
    rw [walk_cons hfits, hends]
    exact ih
  | literal hv =>
    obtain ⟨hfits, hends⟩ := literal_fits hv
    rw [walk_cons (hfits _), hends]
    rfl
  | negative hv =>
    obtain ⟨hfits, hends⟩ := negative_fits hv
    rw [walk_cons rfl, walk_cons (hfits _), hends]
    rfl
  | var dotted x =>
    rw [walk_append, walk_perhaps_dot]
    rfl
  | group h ih => exact walk_enclosed .round _ ih
  | list comma h ih =>
    obtain ⟨b, hb⟩ := walk_before_comma ih comma
    exact walk_enclosed .square _ hb
  | map comma h ih =>
    obtain ⟨b, hb⟩ := walk_before_comma ih comma
    exact walk_enclosed .curly _ hb
  | message dotted comma hx h ih =>
    obtain ⟨b, hb⟩ := walk_before_comma ih comma
    rw [walk_append, walk_append, walk_perhaps_dot, Option.bind_some, walk_dotted hx,
      Option.bind_some]
    exact walk_enclosed .curly _ hb
  | call dotted h he ih =>
    rw [walk_append, walk_append, walk_perhaps_dot]
    exact walk_enclosed .round _ ih
  | access h hf ih =>
    obtain ⟨hfits, hends⟩ := field_fits hf
    rw [walk_append, ih]
    exact (walk_cons hfits).trans (by rw [hends]; rfl)
  | method ha h he iha ih =>
    rw [walk_append, iha]
    exact walk_enclosed .round false ih
  | index ha hb iha ihb =>
    rw [walk_append, iha]
    exact walk_enclosed .square true ihb
  | negate k h ih =>
    rw [walk_append, walk_replicate (fun _ => rfl) rfl]
    exact ih
  | not k h ih =>
    rw [walk_append, walk_replicate (fun _ => rfl) rfl]
    exact ih
  | binary hop ha hb iha ihb =>
    obtain ⟨hfits, hends⟩ := binary_fits hop
    exact walk_join iha hfits hends ihb
  | and ha hb iha ihb => exact walk_join iha rfl rfl ihb
  | or ha hb iha ihb => exact walk_join iha rfl rfl ihb
  | choose hc ha hb ihc iha ihb => exact walk_join ihc rfl rfl (walk_join iha rfl rfl ihb)

theorem walk_of_parse? {s : List Char} {e : Expr} (h : parse? s = some e) :
    ∃ ts, tokens? s = some ts ∧ walk false ts = some true := by
  obtain ⟨ts, n, hts, hn⟩ := exists_reading h
  exact ⟨ts, hts, hn.walk_eq⟩

end ConditionRegistry.Language
