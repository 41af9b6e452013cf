import ConditionRegistry.Evaluation
import ConditionRegistry.Proofs.Grammar.Order
import ConditionRegistry.Proofs.Meaning.Respelling
import ConditionRegistry.Proofs.Revalidation

set_option autoImplicit false

/-!
# The meaning of a normal form

Where a text and its normal form can both be read, no name of the text has become an operator: a
name and an operator cannot stand in the same place. So a normal form says what the text says, but
for the keywords in its strings.
-/

open ConditionRegistry.Language

namespace ConditionRegistry
open Text

/-! ### Tokens -/

def normalToken (a : Token) : Token := Keyword.and.respelled (Keyword.or.respelled a)

theorem eq_of_respelled_name {k : Keyword} {a : Token} {n : String}
    (h : k.respelled a = .name n) : a = .name n := by
  cases a <;> first | exact h | cases h

theorem endsOperand_normalToken (a : Token) : (normalToken a).endsOperand = a.endsOperand := by
  cases a <;> rfl

theorem eq_normalToken_or_joined {a v c : Token} (h : Keyword.or.Respelling a v)
    (h' : Keyword.and.Respelling v c) :
    c = normalToken a ∨
      ∃ k : Keyword, a = .name (String.ofList k.word) ∧ c = .symbol k.symbol := by
  rcases h with rfl | ⟨rfl, rfl⟩
  · rcases h' with rfl | ⟨hname, rfl⟩
    · exact .inl rfl
    · exact .inr ⟨.and, eq_of_respelled_name hname, rfl⟩
  · rcases h' with rfl | ⟨hname, -⟩
    · exact .inr ⟨.or, rfl, rfl⟩
    · cases hname

/-- Where the tokens of the text and of the normal form fit, a keyword between spaces outside of
    strings cannot be a name in the one and an operator in the other. -/
theorem eq_map_normalToken {ts vs us : List Token}
    (h : List.Forall₂ Keyword.or.Respelling ts vs) (h' : List.Forall₂ Keyword.and.Respelling vs us)
    {after b b' : Bool} (hts : walk after ts = some b) (hus : walk after us = some b') :
    us = ts.map normalToken := by
  induction h generalizing after us with
  | nil =>
    cases h'
    rfl
  | cons hav _ ih =>
    cases h' with
    | cons hvc hrest =>
      obtain ⟨hfits, hts⟩ := of_walk_cons hts
      obtain ⟨hfits', hus⟩ := of_walk_cons hus
      rcases eq_normalToken_or_joined hav hvc with rfl | ⟨k, rfl, rfl⟩
      · rw [endsOperand_normalToken] at hus
        rw [List.map_cons, ih hrest hts hus]
      · -- the name fits only where the operator does not
        cases after with
        | true => cases hfits
        | false => cases k <;> cases hfits'

theorem tokens?_normalChars {s : List Char} {e e' : Expr} (h : parse? s = some e)
    (h' : parse? (normalChars s) = some e') :
    ∃ ts, tokens? s = some ts ∧ tokens? (normalChars s) = some (ts.map normalToken) := by
  obtain ⟨ts, hts, hwalk⟩ := walk_of_parse? h
  obtain ⟨us, hus, hwalk'⟩ := walk_of_parse? h'
  obtain ⟨vs, hor, hand⟩ := exists_tokens?_between hts hus
  rw [eq_map_normalToken hor hand hwalk hwalk'] at hus
  exact ⟨ts, hts, hus⟩

/-! ### Literals without keywords -/

/-- No literal has a keyword between spaces in it. -/
def LiteralsSpared (ts : List Token) : Prop :=
  ∀ w, .string w ∈ ts ∨ .bytes w ∈ ts → ∀ k : Keyword, ¬ k.spaced <:+: w

theorem map_normalToken_of_spared {ts : List Token} (h : LiteralsSpared ts) :
    ts.map normalToken = ts := by
  have hself : ∀ w, .string w ∈ ts ∨ .bytes w ∈ ts →
      Keyword.and.replace (Keyword.or.replace w) = w := fun w hw => by
    rw [Keyword.or.replace_eq_self w (h w hw .or), Keyword.and.replace_eq_self w (h w hw .and)]
  refine (List.map_congr_left (g := id) fun a ha => ?_).trans (List.map_id ts)
  cases a with
  | string w => exact congrArg Token.string (hself w (.inl ha))
  | bytes w => exact congrArg Token.bytes (hself w (.inr ha))
  | _ => rfl

/-! ### Answers -/

theorem parse_congr (order : MapOrder) {text raw : String}
    (h : tokens? text.toList = tokens? raw.toList) :
    (engine order).parse text = (engine order).parse raw := by
  change parseText text = parseText raw
  rw [parseText, parseText, parse?, parse?, h]

/-- A text that can be read as it stands has a normal form. If that is accepted, it has the tokens
    of the text with the keywords replaced in the literals. If there are none in them, the two are
    the same program; so in whatever order maps give their entries, the normal form answers all
    bindings like the text, or fails in its evaluation like the text. -/
theorem normalForm_keeps_meaning (order : MapOrder) (raw : String) (e : Expr)
    (hraw : (engine order).parse raw = .ok e) :
    ∃ text, normalize raw = .ok text ∧
      (checkNormal (engine order) text = .ok () →
        ∃ ts, tokens? raw.toList = some ts ∧ tokens? text.toList = some (ts.map normalToken) ∧
          (LiteralsSpared ts → (engine order).parse text = .ok e ∧
            ∀ b : Bindings, b.isEmpty = false →
              evaluate (engine order) text b = evaluate (engine order) raw b ∧
                ∀ f, evaluate (engine order) raw b = .error (.fault f) →
                  f.kind = .evaluation)) := by
  obtain ⟨d, hd⟩ := Option.isSome_iff_exists.1 ((parse_eq_ok_iff order raw).1 ⟨e, hraw⟩)
  have hpresent : raw.isEmpty = false := by
    rw [← Bool.not_eq_true, String.isEmpty_iff]
    rintro rfl
    cases hd
  refine ⟨normalForm raw, (normalize_eq_ok_iff raw _).2 ⟨hpresent, rfl⟩, fun haccept => ?_⟩
  have hreadable :=
    (parse_eq_ok_iff order _).1 ((checkNormal_eq_ok_iff (engine order) _).1 haccept).readable
  obtain ⟨d', hd'⟩ := Option.isSome_iff_exists.1 hreadable
  rw [toList_normalForm] at hd'
  obtain ⟨ts, hts, hnormal⟩ := tokens?_normalChars hd hd'
  rw [← toList_normalForm] at hnormal
  refine ⟨ts, hts, hnormal, fun hspared => ?_⟩
  rw [map_normalToken_of_spared hspared, ← hts] at hnormal
  have hparse := parse_congr order hnormal
  refine ⟨hparse.trans hraw, fun b hb => ⟨?_, fun f hf => kind_of_evaluate hraw hb hf⟩⟩
  unfold evaluate
  rw [hparse]

/-- A keyword at the end of a string, and one between spaces in a comment. -/
def keywordsAside : String := " x == 'p OR' && y > 1 // x OR y "

theorem normalForm_keeps_meaning_keywordsAside :
    (engine.parse keywordsAside).isOk = true ∧
      normalize keywordsAside = .ok "x == 'p OR' && y > 1 // x || y" ∧
      checkNormal engine "x == 'p OR' && y > 1 // x || y" = .ok () ∧
      engine.parse "x == 'p OR' && y > 1 // x || y" = engine.parse keywordsAside ∧
      ∀ b : Bindings, b.isEmpty = false →
        evaluate engine "x == 'p OR' && y > 1 // x || y" b = evaluate engine keywordsAside b ∧
          ∀ f, evaluate engine keywordsAside b = .error (.fault f) → f.kind = .evaluation := by
  have hnormal : normalize keywordsAside = .ok "x == 'p OR' && y > 1 // x || y" := by
    decide +kernel
  have haccept : checkNormal engine "x == 'p OR' && y > 1 // x || y" = .ok () := by
    decide +kernel
  obtain ⟨e, he⟩ := (parse_eq_ok_iff .inserted keywordsAside).2 (by decide +kernel)
  obtain ⟨text, htext, h⟩ := normalForm_keeps_meaning .inserted keywordsAside e he
  cases hnormal.symm.trans htext
  obtain ⟨ts, hts, -, hmeaning⟩ := h haccept
  have htokens : tokens? keywordsAside.toList = some [.name "x", .symbol .equal,
      .string ['\'', 'p', ' ', 'O', 'R', '\''], .symbol .and, .name "y", .symbol .greater,
      .integer ['1']] := by
    decide +kernel
  cases htokens.symm.trans hts
  have hspared : LiteralsSpared [.name "x", .symbol .equal,
      .string ['\'', 'p', ' ', 'O', 'R', '\''], .symbol .and, .name "y", .symbol .greater,
      .integer ['1']] := by
    intro w hw k
    obtain rfl : w = ['\'', 'p', ' ', 'O', 'R', '\''] := by simpa using hw
    cases k <;> decide
  obtain ⟨hsame, hanswers⟩ := hmeaning hspared
  exact ⟨by decide +kernel, hnormal, haccept, hsame.trans he.symm, hanswers⟩

/-- A keyword between spaces in a string is replaced as well, and the string is another one. -/
theorem keyword_in_string_is_replaced :
    (engine.parse "x == 'a OR b'").isOk = true ∧
      normalize "x == 'a OR b'" = .ok "x == 'a || b'" ∧
      checkNormal engine "x == 'a || b'" = .ok () ∧
      evaluate engine "x == 'a OR b'" (.ofList [("x", .string "a OR b")]) = .ok true ∧
      evaluate engine "x == 'a || b'" (.ofList [("x", .string "a OR b")]) = .ok false := by
  decide +kernel

end ConditionRegistry
