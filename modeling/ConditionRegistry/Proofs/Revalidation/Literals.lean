import ConditionRegistry.Language.Literal
import ConditionRegistry.Proofs.Revalidation.Lexemes

set_option autoImplicit false

/-!
# Literals in which a keyword is replaced

The text of a string token has a value after replacing exactly if it had one before. The escapes of
the text have been checked as it was cut off, so reading its value skips the characters that cutting
it off has skipped.
-/

namespace ConditionRegistry.Language

/-! ### Escapes -/

inductive Escaped : List Char → Prop
  | nil : Escaped []
  | plain {c : Char} {r : List Char} (hc : c ≠ '\\') (h : Escaped r) : Escaped (c :: r)
  | escape {r : List Char} {n : Nat} (hn : escapeLength? r = some n) (h : Escaped (r.drop n)) :
    Escaped ('\\' :: r)

theorem Escaped.append {u v : List Char} (hu : '\\' ∉ u) (hv : Escaped v) : Escaped (u ++ v) := by
  induction u with
  | nil => exact hv
  | cons c r ih =>
    rw [List.mem_cons, not_or] at hu
    exact .plain (Ne.symm hu.1) (ih hu.2)

theorem Escaped.of_append {u v : List Char} (hu : '\\' ∉ u) (h : Escaped (u ++ v)) : Escaped v := by
  induction u with
  | nil => exact h
  | cons c r ih =>
    rw [List.mem_cons, not_or] at hu
    cases h with
    | plain _ h => exact ih hu.2 h
    | escape => exact absurd rfl hu.1

theorem escapeLength?_of_append {u v : List Char} {n : Nat}
    (h : escapeLength? (u ++ v) = some n) (hn : n ≤ u.length) : escapeLength? u = some n := by
  cases u with
  | nil =>
    have hnone : ∀ {s : List Char}, escapeLength? s ≠ some 0 := by
      intro s hs
      cases s with
      | nil => cases hs
      | cons c r =>
        simp only [escapeLength?] at hs
        split_ifs at hs <;> cases hs
    rw [Nat.le_zero.1 hn] at h
    exact absurd h hnone
  | cons c r =>
    have htake : ∀ {m}, m + 1 ≤ (c :: r).length → (r ++ v).take m = r.take m := fun hm =>
      List.take_append_of_le_length (Nat.le_of_succ_le_succ hm)
    simp only [List.cons_append, escapeLength?] at h ⊢
    split_ifs at h with h1 h2 hx h3 hu h4 hU h5 hoctal
    · simp only [h1, if_true]
      exact h
    · cases h
      rw [htake hn] at hx
      simp only [h1, h2, hx, Bool.false_eq_true, if_true, if_false, and_self]
    · cases h
      rw [htake hn] at hu
      simp only [h1, h2, h3, hu, Bool.false_eq_true, if_true, if_false, and_self]
    · cases h
      rw [htake hn] at hU
      simp only [h1, h2, h3, h4, hU, Bool.false_eq_true, if_true, if_false, and_self]
    · cases h
      rw [htake hn] at hoctal
      simp only [h1, h2, h3, h4, h5, hoctal, Bool.false_eq_true, if_true, if_false, and_self]

theorem Quoting.escaped_of_bodyLength? {q : Quoting} (hraw : q.raw = false) {u v w : List Char}
    (hw : '\\' ∉ w) (h : q.bodyLength? 0 (u ++ (w ++ v)) = some u.length) : Escaped (u ++ w) := by
  induction hlength : u.length using Nat.strongRecOn generalizing u with
  | _ n ih =>
    subst hlength
    cases u with
    | nil =>
      have hself := Escaped.append hw .nil
      rwa [List.append_nil] at hself
    | cons c r =>
      have hclose : q.closes (c :: (r ++ (w ++ v))) = false := by
        cases hc : q.closes (c :: (r ++ (w ++ v))) with
        | false => rfl
        | true => simp [bodyLength?, hc] at h
      rw [List.cons_append, bodyLength?_cons hclose, Option.bind_eq_some_iff] at h
      obtain ⟨m, hunit, h⟩ := h
      obtain ⟨i, hi, hsum⟩ := Option.map_eq_some_iff.1 h
      rw [List.length_cons] at hsum
      have hm : m ≤ r.length := by omega
      rw [List.drop_append_of_le_length hm] at hi
      have hrest : Escaped (r.drop m ++ w) := by
        refine ih (r.drop m).length ?_ ?_ rfl
        · rw [List.length_drop, List.length_cons]
          omega
        · rw [hi, List.length_drop]
          congr 1
          omega
      by_cases hc : c = '\\'
      · subst hc
        have hescape : escapeLength? (r ++ (w ++ v)) = some m := by
          simpa [unit?, hraw] using hunit
        rw [← List.append_assoc] at hescape
        have hle : m ≤ (r ++ w).length := by
          rw [List.length_append]
          omega
        rw [List.cons_append]
        refine .escape (escapeLength?_of_append hescape hle) ?_
        rwa [List.drop_append_of_le_length hm]
      · have hzero : m = 0 := by
          simp only [unit?, hraw, hc, Bool.not_false, Bool.true_and, beq_iff_eq, if_false] at hunit
          split_ifs at hunit
          cases hunit
          rfl
        subst hzero
        exact .plain hc hrest

theorem eq_of_octal {c : Char} (h : ('0' ≤ c && c ≤ '3') = true) :
    c = '0' ∨ c = '1' ∨ c = '2' ∨ c = '3' := by
  simp only [Bool.and_eq_true, decide_eq_true_eq] at h
  have hlow : 48 ≤ c.toNat := h.1
  have hhigh : c.toNat ≤ 51 := h.2
  have hcases : c.toNat = 48 ∨ c.toNat = 49 ∨ c.toNat = 50 ∨ c.toNat = 51 := by omega
  refine hcases.imp (fun h => ?_) (.imp (fun h => ?_) (.imp (fun h => ?_) fun h => ?_))
  all_goals exact Char.toNat_inj.1 h

theorem escape?_of_sameLead {s t : List Char} {n : Nat} (h : SameLead s t)
    (hn : escapeLength? s = some n) (m : Char) :
    escape? m s = escape? m t ∧ ∀ p ∈ escape? m s, p.2 = n := by
  obtain ⟨htake, -⟩ := h.take_drop (escapeLength?_some hn).1
  cases h with
  | nil => cases hn
  | space r t => cases hn
  | cons hc h =>
    rename_i c r t
    have hpoint : ∀ {i : Nat}, i + 1 = n → r.take i = t.take i := by
      rintro i rfl
      rw [List.take_succ_cons, List.take_succ_cons] at htake
      exact (List.cons.inj htake).2
    have hscalar : ∀ (base : Nat) (ds : List Char),
        ∀ p ∈ (scalar? (valueIn base ds)).map (fun d => ([d], n)), p.2 = n := by
      intro base ds p hp
      obtain ⟨d, -, rfl⟩ := Option.map_eq_some_iff.1 hp
      rfl
    simp only [escapeLength?] at hn
    split_ifs at hn with h1 h2 hx h3 hu h4 hU h5 hoctal
    · cases hn
      simp only [List.contains_cons, List.contains_nil, Bool.or_false, Bool.or_eq_true,
        beq_iff_eq] at h1
      rcases h1 with rfl | rfl | rfl | rfl | rfl | rfl | rfl | rfl | rfl | rfl | rfl | rfl <;>
        exact ⟨rfl, fun p hp => by cases hp; rfl⟩
    · cases hn
      rcases (by simpa using h2 : c = 'x' ∨ c = 'X') with rfl | rfl
      · have hs : ∀ r, escape? m ('x' :: r) =
            (scalar? (valueIn 16 (r.take 2))).map fun d => ([d], 3) := fun _ => rfl
        rw [hs, hs, hpoint rfl]
        exact ⟨rfl, hscalar 16 _⟩
      · exact ⟨rfl, fun p hp => by cases hp⟩
    · cases hn
      have hc : c = 'u' := by simpa using h3
      subst hc
      have hs : ∀ r, escape? m ('u' :: r) =
          (scalar? (valueIn 16 (r.take 4))).map fun d => ([d], 5) := fun _ => rfl
      rw [hs, hs, hpoint rfl]
      exact ⟨rfl, hscalar 16 _⟩
    · cases hn
      have hc : c = 'U' := by simpa using h4
      subst hc
      have hs : ∀ r, escape? m ('U' :: r) =
          (scalar? (valueIn 16 (r.take 8))).map fun d => ([d], 9) := fun _ => rfl
      rw [hs, hs, hpoint rfl]
      exact ⟨rfl, hscalar 16 _⟩
    · cases hn
      have hs : ∀ r, escape? m (c :: r) =
          (scalar? (valueIn 8 ((c :: r).take 3))).map fun d => ([d], 3) := by
        intro r
        rcases eq_of_octal h5 with rfl | rfl | rfl | rfl <;> rfl
      rw [hs, hs, htake]
      exact ⟨rfl, hscalar 8 _⟩

/-! ### Content -/

theorem content?_skip (n : Nat) (part : Option Char) (s : List Char) :
    content? n part s = content? 0 part (s.drop n) := by
  induction s generalizing n with
  | nil => cases n <;> cases part <;> rfl
  | cons c r ih =>
    cases n with
    | zero => rfl
    | succ n =>
      rw [List.drop_succ_cons, ← ih n]
      cases part <;> rfl

theorem content?_append {m : Char} (hm : isMark m = true) {w : List Char}
    (hw : ∀ c ∈ w, isMark c = false ∧ c ∉ ['\\', '\n', '\r']) (r : List Char) :
    content? 0 (some m) (w ++ r) = (content? 0 (some m) r).map (w ++ ·) := by
  induction w with
  | nil => simp
  | cons c v ih =>
    obtain ⟨hmark, hplain⟩ := hw c List.mem_cons_self
    simp only [List.mem_cons, List.not_mem_nil, not_or, or_false] at hplain
    have hne : c ≠ m := (ne_of_class hm hmark).symm
    have hv := ih fun d hd => hw d (List.mem_cons_of_mem _ hd)
    simp only [List.cons_append, content?, beq_iff_eq, hplain, hne, if_false, hv, Option.map_map]
    rfl

theorem content?_replace (k : Keyword) {s : List Char} (h : Escaped s) (part : Option Char)
    (hpart : ∀ m ∈ part, isMark m = true) :
    (content? 0 part (k.replace s)).isSome = (content? 0 part s).isSome := by
  induction s using k.scanning generalizing part with
  | nil => rw [k.replace_nil]
  | spaced r ih =>
    have hr := h.of_append (by cases k <;> decide)
    cases part with
    | none => cases k <;> rfl
    | some m =>
      rw [k.replace_spaced_append, content?_append (hpart m rfl) (k.ordinary (.inl rfl)),
        content?_append (hpart m rfl) (k.ordinary (.inr rfl)), Option.isSome_map,
        Option.isSome_map]
      exact ih hr (some m) hpart
  | cons c r hp ih =>
    rw [k.replace_cons c r hp]
    cases part with
    | none =>
      cases hc : isMark c with
      | false => simp only [content?, hc, Bool.false_eq_true, if_false]
      | true =>
        cases h with
        | plain _ h =>
          simp only [content?, hc, if_true]
          exact ih 0 h (some c) fun m hm => by cases hm; exact hc
        | escape => cases hc
    | some m =>
      cases h with
      | escape hn h =>
        obtain ⟨hescape, hskip⟩ := escape?_of_sameLead (k.sameLead_replace r) hn m
        have hdrop := k.drop_replace (escapeLength?_some hn).1
        simp only [content?, beq_self_eq_true, if_true, ← hescape]
        cases he : escape? m r with
        | none => rfl
        | some p =>
          obtain ⟨cs, n⟩ := p
          cases hskip (cs, n) he
          simp only [Option.isSome_map, content?_skip n, hdrop]
          exact ih n h (some m) hpart
      | plain hc h =>
        by_cases hm : c = m
        · subst hm
          simp only [content?, beq_iff_eq, hc, if_false, if_true]
          exact ih 0 h none fun m hm => by cases hm
        · simp only [content?, beq_iff_eq, hc, hm, if_false, Option.isSome_map]
          exact ih 0 h (some m) hpart

theorem rawContent?_cons {m c : Char} (hc : c ≠ '\\') (r : List Char) :
    rawContent? (some m) (c :: r) =
      if c = m then rawContent? none r else (rawContent? (some m) r).map (c :: ·) := by
  cases r <;> simp [rawContent?, hc]

theorem rawContent?_append {m : Char} (hm : isMark m = true) {w : List Char}
    (hw : ∀ c ∈ w, isMark c = false ∧ c ∉ ['\\', '\n', '\r']) (r : List Char) :
    rawContent? (some m) (w ++ r) = (rawContent? (some m) r).map (w ++ ·) := by
  induction w with
  | nil => simp
  | cons c v ih =>
    obtain ⟨hmark, hplain⟩ := hw c List.mem_cons_self
    simp only [List.mem_cons, List.not_mem_nil, not_or, or_false] at hplain
    have hne : c ≠ m := (ne_of_class hm hmark).symm
    have hv := ih fun d hd => hw d (List.mem_cons_of_mem _ hd)
    rw [List.cons_append, rawContent?_cons hplain.1, if_neg hne, hv, Option.map_map]
    rfl

/-- A backslash takes the next character with it, which is never the space before a keyword that is
    replaced. -/
theorem rawContent?_replace (k : Keyword) {s : List Char} {before : Option Char}
    (h : k.SettledAfter before s) (part : Option Char) (hpart : ∀ m ∈ part, isMark m = true) :
    (rawContent? part (k.replace s)).isSome = (rawContent? part s).isSome := by
  induction s using k.scanning generalizing before part with
  | nil => rw [k.replace_nil]
  | spaced r ih =>
    cases part with
    | none => cases k <;> rfl
    | some m =>
      rw [k.replace_spaced_append, rawContent?_append (hpart m rfl) (k.ordinary (.inl rfl)),
        rawContent?_append (hpart m rfl) (k.ordinary (.inr rfl)), Option.isSome_map,
        Option.isSome_map]
      exact ih h.append (some m) hpart
  | cons c r hp ih =>
    rw [k.replace_cons c r hp]
    cases part with
    | none =>
      cases hc : isMark c with
      | false => simp only [rawContent?, hc, Bool.false_eq_true, if_false]
      | true =>
        simp only [rawContent?, hc, if_true]
        exact ih 0 h.2 (some c) fun m hm => by cases hm; exact hc
    | some m =>
      by_cases hc : c = '\\'
      · subst hc
        cases r with
        | nil => rw [k.replace_nil]
        | cons d t =>
          have hd : ¬ k.spaced <+: d :: t := by
            intro hd
            have hbefore := h.2.1 hd
            cases k <;> cases hbefore
          rw [k.replace_cons d t hd]
          simp only [rawContent?, Option.isSome_map]
          exact ih 1 h.2.2 (some m) hpart
      · rw [rawContent?_cons hc, rawContent?_cons hc]
        split
        · exact ih 0 h.2 none fun m hm => by cases hm
        · rw [Option.isSome_map, Option.isSome_map]
          exact ih 0 h.2 (some m) hpart

/-! ### Bytes -/

theorem byteContent?_skip (n : Nat) (s : List Char) :
    byteContent? n s = byteContent? 0 (s.drop n) := by
  induction s generalizing n with
  | nil => cases n <;> rfl
  | cons c r ih =>
    cases n with
    | zero => rfl
    | succ n => exact ih n

theorem byteContent?_append {w : List Char} (hw : '\\' ∉ w) (r : List Char) :
    byteContent? 0 (w ++ r) =
      (byteContent? 0 r).map (w.flatMap String.utf8EncodeChar ++ ·) := by
  induction w with
  | nil => simp
  | cons c v ih =>
    rw [List.mem_cons, not_or] at hw
    have hc : (c != '\\') = true := by simpa using Ne.symm hw.1
    simp only [List.cons_append, byteContent?, hc, if_true, ih hw.2, Option.map_map,
      List.flatMap_cons]
    congr 1
    funext bs
    simp

theorem notMem_of_byteIn? {base : Nat} {ds : List Char} {b : UInt8} (h : byteIn? base ds = some b) :
    ' ' ∉ ds := by
  unfold byteIn? at h
  extract_lets digits at h
  split_ifs at h with hdigits
  have hspace : ' ' ∉ digits := notMem_of_all rfl hdigits.2.1
  unfold digits at hspace
  split at hspace
  · exact fun hmem => hspace ((List.mem_cons.1 hmem).resolve_left (by decide))
  · exact hspace

theorem byteEscape?_take (s : List Char) : byteEscape? (s.take 3) = byteEscape? s := by
  match s with
  | [] | [_] | [_, _] | _ :: _ :: _ :: _ => rfl

theorem notMem_of_byteEscape? {s : List Char} {b : UInt8} (h : byteEscape? s = some b) :
    ' ' ∉ s.take 3 := by
  unfold byteEscape? at h
  split at h
  · rename_i c d e r
    split_ifs at h with hx hoctal
    · have hdigits := notMem_of_byteIn? h
      rw [eq_of_beq hx]
      exact fun hmem => hdigits ((List.mem_cons.1 hmem).resolve_left (by decide))
    · exact notMem_of_byteIn? h
  · cases h

theorem byteEscape?_eq_of_sameLead {s t : List Char} (h : SameLead s t) :
    byteEscape? s = byteEscape? t := by
  by_cases hs : ' ' ∈ s.take 3
  · have ht : ' ' ∈ t.take 3 := by
      by_contra ht
      rw [← (h.symm.take_drop ht).1] at hs
      exact ht hs
    have hnone : ∀ {s : List Char}, ' ' ∈ s.take 3 → byteEscape? s = none := by
      intro s hs
      rw [Option.eq_none_iff_forall_ne_some]
      exact fun b hb => notMem_of_byteEscape? hb hs
    rw [hnone hs, hnone ht]
  · rw [← byteEscape?_take s, (h.take_drop hs).1, byteEscape?_take]

theorem byteContent?_replace (k : Keyword) (s : List Char) :
    (byteContent? 0 (k.replace s)).isSome = (byteContent? 0 s).isSome := by
  induction s using k.scanning with
  | nil => rw [k.replace_nil]
  | spaced r ih =>
    rw [k.replace_spaced_append, byteContent?_append (by cases k <;> decide),
      byteContent?_append (by cases k <;> decide), Option.isSome_map, Option.isSome_map]
    exact ih
  | cons c r hp ih =>
    rw [k.replace_cons c r hp]
    by_cases hc : c = '\\'
    · subst hc
      have hescape := byteEscape?_eq_of_sameLead (k.sameLead_replace r)
      simp only [byteContent?, bne_self_eq_false, Bool.false_eq_true, if_false, ← hescape]
      cases hb : byteEscape? r with
      | none => rfl
      | some b =>
        simp only [Option.isSome_map, byteContent?_skip 3]
        rw [k.drop_replace (notMem_of_byteEscape? hb)]
        exact ih 3
    · have hne : (c != '\\') = true := by simpa using hc
      simp only [byteContent?, hne, if_true, Option.isSome_map]
      exact ih 0

/-! ### Tokens -/

theorem isSome_stringLiteral?_replace (k : Keyword) {w v : List Char} {before : Option Char}
    (h : k.SettledAfter before w) (hw : prefixedLength? (w ++ v) = some w.length) :
    (stringLiteral? (k.replace w)).isSome = (stringLiteral? w).isSome := by
  cases w with
  | nil => exact absurd hw (prefixedLength?_ne_zero _)
  | cons c r =>
    have hc : c ≠ ' ' := by
      rintro rfl
      cases hw
    rw [k.replace_cons c r (k.not_spaced_of_ne hc r)]
    simp only [List.cons_append, prefixedLength?] at hw
    split_ifs at hw with hr
    · simp only [stringLiteral?, hr, if_true, Option.isSome_map]
      exact rawContent?_replace k h.2 none fun m hm => by cases hm
    · simp only [stringLiteral?, hr, Bool.false_eq_true, if_false, Option.isSome_map]
      obtain ⟨q, u, t, hraw, hmark, hs, hlength, hbody⟩ := exists_of_stringLength? hw
      have hquoted : c :: r = q.marks ++ (u ++ q.marks) := (List.append_inj hs hlength).1
      have hback : ∀ n, '\\' ∉ List.replicate n q.mark := fun n h =>
        ne_of_class hmark rfl (List.eq_of_mem_replicate h).symm
      have hescaped := Quoting.escaped_of_bodyLength? hraw (hback _) hbody
      rw [q.marks_eq, List.cons_append] at hquoted
      obtain ⟨rfl, rfl⟩ := List.cons.inj hquoted
      refine content?_replace k (.append (hback _) ?_) (some _) fun m hm => by cases hm; exact hmark
      rw [← q.marks_eq]
      exact hescaped

theorem isSome_bytesLiteral?_replace (k : Keyword) {c : Char} (hc : c ≠ ' ') {w v : List Char}
    (hw : prefixedLength? (w ++ v) = some w.length) :
    (bytesLiteral? (k.replace (c :: w))).isSome = (bytesLiteral? (c :: w)).isSome := by
  obtain ⟨x, m, hx, hm⟩ := endsIn_of_prefixedLength? hw
  rw [List.take_left] at hx
  subst hx
  rw [k.replace_cons c _ (k.not_spaced_of_ne hc _)]
  unfold bytesLiteral?
  rw [Option.isSome_map, Option.isSome_map, List.drop_succ_cons, List.drop_succ_cons]
  have hspaced : m ∉ k.spaced := fun h => ne_of_class hm (k.ordinary (.inl rfl) m h).1 rfl
  have hlast : ∀ y, k.replace (y ++ [m]) = k.replace y ++ [m] := fun y => by
    rw [k.replace_append_cons hspaced, k.replace_nil]
  cases x with
  | nil =>
    rw [hlast, k.replace_nil]
  | cons d y =>
    have hd : d ≠ ' ' := by
      rintro rfl
      cases hw
    rw [List.cons_append, k.replace_cons d _ (k.not_spaced_of_ne hd _), hlast]
    simp only [List.drop_succ_cons, List.drop_zero, List.dropLast_concat]
    exact byteContent?_replace k y

/-- The same token, but for strings that both have a value or both have none. -/
inductive Alike : Token → Token → Prop
  | refl (a : Token) : Alike a a
  | string {w w' : List Char} (h : (stringLiteral? w).isSome = (stringLiteral? w').isSome) :
    Alike (.string w) (.string w')
  | bytes {w w' : List Char} (h : (bytesLiteral? w).isSome = (bytesLiteral? w').isSome) :
    Alike (.bytes w) (.bytes w')

theorem string?_of_lexeme? {s : List Char} {l : Lexeme} (h : lexeme? s = some l)
    (hl : isQuoted l.1 = true) : string? s = some l := by
  have hother : isQuoted l.1 ≠ false := by
    rw [hl]
    decide
  rcases lexeme?_cases h with h | h | h | h | ⟨m, -, rfl⟩
  · exact h
  · exact absurd (word?_plain h).token hother
  · exact absurd (number?_plain h).token hother
  · cases s with
    | nil => cases h
    | cons c r =>
      simp only [escaped?] at h
      split_ifs at h
      cases h
      cases hl
  · cases hl

theorem alike_respelled (k : Keyword) {a : Token} {u v : List Char} {before : Option Char}
    (hu : u ≠ []) (h : k.SettledAfter before (u ++ v))
    (ha : lexeme? (u ++ v) = some (a, u.length)) : Alike a (k.respelled a) := by
  cases hquoted : isQuoted a with
  | false =>
    rw [k.respelled_of_unquoted hquoted]
    exact .refl a
  | true =>
    have hstring := string?_of_lexeme? ha hquoted
    cases u with
    | nil => exact absurd rfl hu
    | cons c r =>
      by_cases hb : c = 'b' ∨ c = 'B'
      · rw [List.cons_append, string?_cons_of_bytes hb, Option.map_map] at hstring
        obtain ⟨n, hn, heq⟩ := Option.map_eq_some_iff.1 hstring
        cases heq
        have hne : c ≠ ' ' := by rcases hb with rfl | rfl <;> decide
        rw [← List.cons_append, List.take_left' (by rfl)]
        exact .bytes (isSome_bytesLiteral?_replace k hne hn).symm
      · rw [not_or] at hb
        rw [string?_of_head fun d hd => by cases hd; exact hb] at hstring
        obtain ⟨n, hn, heq⟩ := Option.map_eq_some_iff.1 hstring
        cases heq
        rw [List.take_left]
        exact .string (isSome_stringLiteral?_replace k h.of_append hn).symm

end ConditionRegistry.Language
