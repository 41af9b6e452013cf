import ConditionRegistry.Proofs.Revalidation.Settled

set_option autoImplicit false

/-!
# Strings in which a keyword is replaced

A keyword between spaces has no mark, no backslash and no end of line, so replacing it in a string
moves nothing but the end of the string. A string ends where it ended before.
-/

open ConditionRegistry.Language

namespace ConditionRegistry

namespace Keyword
variable (k : Keyword)

/-- Induction along a text in which parts may be skipped, but no part of a keyword that is
    replaced. -/
theorem scanning {P : List Char → Prop} (nil : P []) (spaced : ∀ r, P r → P (k.spaced ++ r))
    (cons : ∀ c r, ¬ k.spaced <+: c :: r → (∀ n, P (r.drop n)) → P (c :: r)) (s : List Char) :
    P s := by
  induction h : s.length using Nat.strongRecOn generalizing s with
  | _ n ih =>
    subst h
    cases s with
    | nil => exact nil
    | cons c r =>
      by_cases hp : k.spaced <+: c :: r
      · obtain ⟨t, ht⟩ := hp
        rw [← ht]
        refine spaced t (ih t.length ?_ t rfl)
        rw [← ht, spaced_eq, List.length_append]
        simp only [List.length_cons]
        omega
      · refine cons c r hp fun n => ih _ ?_ _ rfl
        rw [List.length_drop, List.length_cons]
        omega

theorem replace_take_append {s : List Char} {n : Nat} (h : ' ' ∉ s.take n) :
    k.replace s = s.take n ++ k.replace (s.drop n) := by
  rw [← k.replace_append h, List.take_append_drop]

theorem drop_replace {s : List Char} {n : Nat} (h : ' ' ∉ s.take n) :
    (k.replace s).drop n = k.replace (s.drop n) := by
  rcases Nat.le_total n s.length with hn | hn
  · rw [k.replace_take_append h, List.drop_left' (List.length_take_of_le hn)]
  · rw [List.take_of_length_le hn] at h
    rw [k.replace_of_notMem h, List.drop_of_length_le hn, k.replace_nil]

theorem replace_cons_skip {c : Char} {r u v : List Char} {n : Nat} (hp : ¬ k.spaced <+: c :: r)
    (hn : ' ' ∉ r.take n) (h : r.drop n = u ++ v) :
    k.replace (c :: (r.take n ++ u)) = c :: (r.take n ++ k.replace u) := by
  have hshort : c :: (r.take n ++ u) <+: c :: r := by
    refine ⟨v, ?_⟩
    rw [List.cons_append, List.append_assoc, ← h, List.take_append_drop]
  rw [k.replace_cons c _ fun h => hp (h.trans hshort), k.replace_append hn]

/-- Neither a keyword nor its operator has a character that strings depend on. -/
theorem ordinary {w : List Char} (hw : w = k.spaced ∨ w = ' ' :: k.operator ++ [' ']) :
    ∀ c ∈ w, isMark c = false ∧ c ∉ ['\\', '\n', '\r'] := by
  have hall : w.all (fun c => !isMark c && !(['\\', '\n', '\r'].contains c)) = true := by
    rcases hw with rfl | rfl <;> cases k <;> decide
  intro c hc
  simpa using List.all_eq_true.1 hall c hc

end Keyword

/-! ### Bodies -/

namespace Language.Quoting

theorem bodyLength?_skip (q : Quoting) (n : Nat) (s : List Char) :
    q.bodyLength? n s = (q.bodyLength? 0 (s.drop n)).map (· + n) := by
  induction s generalizing n with
  | nil => cases n <;> rfl
  | cons c r ih =>
    cases n with
    | zero => simp
    | succ n =>
      rw [bodyLength?, ih, List.drop_succ_cons, Option.map_map]
      rfl

theorem closes_cons_of_ne {q : Quoting} {c : Char} (hc : c ≠ q.mark) (r : List Char) :
    q.closes (c :: r) = false := by
  have hne : (q.mark == c) = false := beq_false_of_ne (Ne.symm hc)
  unfold closes width
  split <;> simp [List.replicate, List.isPrefixOf, hne]

theorem bodyLength?_append {q : Quoting} {w : List Char}
    (hw : ∀ c ∈ w, c ≠ q.mark ∧ c ∉ ['\\', '\n', '\r']) (r : List Char) :
    q.bodyLength? 0 (w ++ r) = (q.bodyLength? 0 r).map (· + w.length) := by
  induction w with
  | nil => simp
  | cons c v ih =>
    obtain ⟨hmark, hplain⟩ := hw c List.mem_cons_self
    simp only [List.mem_cons, List.not_mem_nil, not_or, or_false] at hplain
    have hunit : q.unit? c (v ++ r) = some 0 := by
      simp [unit?, hplain]
    have hv := ih fun d hd => hw d (List.mem_cons_of_mem _ hd)
    rw [List.cons_append, bodyLength?, closes_cons_of_ne hmark, hunit]
    simp only [Bool.false_eq_true, if_false, hv, Option.map_map]
    rfl

theorem bodyLength?_cons {q : Quoting} {c : Char} {r : List Char} (h : q.closes (c :: r) = false) :
    q.bodyLength? 0 (c :: r) =
      (q.unit? c r).bind fun n => (q.bodyLength? 0 (r.drop n)).map (· + (n + 1)) := by
  rw [bodyLength?, h]
  cases q.unit? c r with
  | none => rfl
  | some n =>
    simp only [Bool.false_eq_true, if_false, Option.bind_some, bodyLength?_skip q n, Option.map_map]
    rfl

theorem closes_of_bodyLength? {q : Quoting} {m n : Nat} {s : List Char}
    (h : q.bodyLength? m s = some n) : q.closes (s.drop n) = true := by
  induction s generalizing m n with
  | nil => cases m <;> cases h
  | cons c r ih =>
    cases m with
    | succ m =>
      rw [bodyLength?, Option.map_eq_some_iff] at h
      obtain ⟨i, hi, rfl⟩ := h
      exact ih hi
    | zero =>
      cases hc : q.closes (c :: r) with
      | true =>
        rw [bodyLength?, hc] at h
        cases h
        exact hc
      | false =>
        rw [bodyLength?, hc] at h
        cases hu : q.unit? c r with
        | none => rw [hu] at h; cases h
        | some e =>
          simp only [hu, Bool.false_eq_true, if_false, Option.map_eq_some_iff] at h
          obtain ⟨i, hi, rfl⟩ := h
          exact ih hi

theorem closes_replace (k : Keyword) {q : Quoting} (hq : q.mark ≠ ' ') (s : List Char) :
    q.closes (k.replace s) = q.closes s := by
  have hw : ' ' ∉ (List.replicate q.width q.mark).dropLast := fun h =>
    hq (List.eq_of_mem_replicate (List.dropLast_subset _ h)).symm
  rw [Bool.eq_iff_iff, closes, closes, List.isPrefixOf_iff_prefix, List.isPrefixOf_iff_prefix,
    (k.sameLead_replace s).isPrefix_iff hw]

theorem unit?_some {q : Quoting} {c : Char} {r : List Char} {n : Nat} (h : q.unit? c r = some n) :
    ' ' ∉ r.take n ∧ n ≤ r.length := by
  unfold unit? at h
  split_ifs at h
  · exact escapeLength?_some h
  · cases h
    exact ⟨by simp, Nat.zero_le _⟩

theorem unit?_replace (k : Keyword) (q : Quoting) (c : Char) (r : List Char) :
    q.unit? c (k.replace r) = q.unit? c r := by
  unfold unit?
  rw [(k.sameLead_replace r).escapeLength?_eq]

end Language.Quoting

/-- What becomes of a part that is found by its length: it is found again where it stands with the
    keyword replaced. -/
inductive Carried (k : Keyword) (f : List Char → Option Nat) (s : List Char) : Prop
  | missing (h : f s = none) (h' : f (k.replace s) = none)
  | found (u v : List Char) (hs : s = u ++ v) (h : f s = some u.length)
    (hr : k.replace s = k.replace u ++ k.replace v)
    (h' : f (k.replace s) = some (k.replace u).length)

theorem carried_bodyLength? (k : Keyword) {q : Quoting} (hq : isMark q.mark = true)
    (s : List Char) : Carried k (q.bodyLength? 0) s := by
  have hmark : ∀ c, isMark c = false → c ≠ q.mark := fun c hc => (ne_of_class hq hc).symm
  induction s using k.scanning with
  | nil =>
    refine .missing rfl ?_
    rw [k.replace_nil]
    rfl
  | spaced r ih =>
    have hs := Quoting.bodyLength?_append (fun c hc =>
      ⟨hmark c (k.ordinary (.inl rfl) c hc).1, (k.ordinary (.inl rfl) c hc).2⟩) r
    have hr := Quoting.bodyLength?_append (fun c hc =>
      ⟨hmark c (k.ordinary (.inr rfl) c hc).1, (k.ordinary (.inr rfl) c hc).2⟩) (k.replace r)
    rw [← k.replace_spaced_append] at hr
    cases ih with
    | missing h h' => exact .missing (by rw [hs, h]; rfl) (by rw [hr, h']; rfl)
    | found u v huv h hrep h' =>
      refine .found (k.spaced ++ u) v (by rw [huv, List.append_assoc]) ?_ ?_ ?_
      · rw [hs, h, List.length_append, Nat.add_comm]
        rfl
      · rw [k.replace_spaced_append, k.replace_spaced_append, hrep, ← List.append_assoc]
      · rw [hr, h', k.replace_spaced_append, List.length_append, Nat.add_comm]
        rfl
  | cons c r hp ih =>
    have hclose := Quoting.closes_replace k (hmark ' ' rfl).symm (c :: r)
    have hunit := Quoting.unit?_replace k q c r
    rw [k.replace_cons c r hp] at hclose
    by_cases hc : q.closes (c :: r) = true
    · refine .found [] (c :: r) rfl ?_ (by rw [k.replace_nil]; rfl) ?_
      · simp only [Quoting.bodyLength?, hc, if_true, List.length_nil]
      · rw [hc] at hclose
        simp only [k.replace_cons c r hp, Quoting.bodyLength?, hclose, if_true, k.replace_nil,
          List.length_nil]
    · rw [Bool.not_eq_true] at hc
      rw [hc] at hclose
      have hs := Quoting.bodyLength?_cons hc
      have hs' := Quoting.bodyLength?_cons hclose
      rw [hunit] at hs'
      rw [← k.replace_cons c r hp] at hs'
      cases hu : q.unit? c r with
      | none =>
        rw [hu] at hs hs'
        exact .missing hs hs'
      | some n =>
        obtain ⟨hspace, hn⟩ := Quoting.unit?_some hu
        rw [hu, Option.bind_some] at hs hs'
        rw [k.drop_replace hspace] at hs'
        cases ih n with
        | missing h h' =>
          rw [h] at hs
          rw [h'] at hs'
          exact .missing hs hs'
        | found u v huv h hrep h' =>
          rw [h] at hs
          rw [h'] at hs'
          have hskip := k.replace_cons_skip hp hspace huv
          have htake : (r.take n).length = n := List.length_take_of_le hn
          refine .found (c :: (r.take n ++ u)) v ?_ ?_ ?_ ?_
          · rw [List.cons_append, List.append_assoc, ← huv, List.take_append_drop]
          · rw [hs, List.length_cons, List.length_append, htake]
            simp only [Option.map_some, Option.some.injEq]
            omega
          · rw [k.replace_cons c r hp, k.replace_take_append hspace, hrep, hskip]
            simp
          · rw [hs', hskip, List.length_cons, List.length_append, htake]
            simp only [Option.map_some, Option.some.injEq]
            omega

/-! ### Strings -/

def Language.Quoting.marks (q : Quoting) : List Char := List.replicate q.width q.mark

theorem Language.Quoting.marks_eq (q : Quoting) :
    q.marks = q.mark :: List.replicate (q.width - 1) q.mark := by
  unfold marks width
  split <;> rfl

theorem Keyword.replace_append_marks (k : Keyword) {q : Quoting} (hq : isMark q.mark = true)
    (u v : List Char) :
    k.replace (u ++ (q.marks ++ v)) = k.replace u ++ (q.marks ++ k.replace v) := by
  have hmark : q.mark ∉ k.spaced := fun h => ne_of_class hq (k.ordinary (.inl rfl) _ h).1 rfl
  have hspace : ∀ n, ' ' ∉ List.replicate n q.mark := fun n h =>
    ne_of_class hq rfl (List.eq_of_mem_replicate h).symm
  rw [q.marks_eq, List.cons_append, k.replace_append_cons hmark, k.replace_append (hspace _),
    List.cons_append]

theorem Keyword.replace_quoted (k : Keyword) {q : Quoting} (hq : isMark q.mark = true)
    (u : List Char) :
    k.replace (q.marks ++ (u ++ q.marks)) = q.marks ++ (k.replace u ++ q.marks) := by
  have hopen := k.replace_append_marks hq [] (u ++ q.marks)
  have hclose := k.replace_append_marks hq u []
  rw [List.append_nil, k.replace_nil, List.append_nil] at hclose
  rw [List.nil_append, k.replace_nil, List.nil_append, hclose] at hopen
  exact hopen

def quotingOf (raw : Bool) (c : Char) (s : List Char) : Quoting :=
  ⟨c, (List.replicate 3 c).isPrefixOf s, raw⟩

theorem quotingOf_replace (k : Keyword) (raw : Bool) {c : Char} (hc : c ≠ ' ') (s : List Char) :
    quotingOf raw c (k.replace s) = quotingOf raw c s := by
  have hw : ' ' ∉ (List.replicate 3 c).dropLast := fun h =>
    hc (List.eq_of_mem_replicate (List.dropLast_subset _ h)).symm
  have htriple : (List.replicate 3 c).isPrefixOf (k.replace s) =
      (List.replicate 3 c).isPrefixOf s := by
    rw [Bool.eq_iff_iff, List.isPrefixOf_iff_prefix, List.isPrefixOf_iff_prefix,
      (k.sameLead_replace s).isPrefix_iff hw]
  rw [quotingOf, quotingOf, htriple]

theorem exists_eq_marks_append (raw : Bool) (c : Char) (r : List Char) :
    ∃ x, c :: r = (quotingOf raw c (c :: r)).marks ++ x := by
  cases h : (List.replicate 3 c).isPrefixOf (c :: r) with
  | true =>
    obtain ⟨x, hx⟩ := List.isPrefixOf_iff_prefix.1 h
    refine ⟨x, ?_⟩
    rw [quotingOf, h]
    exact hx.symm
  | false =>
    refine ⟨r, ?_⟩
    rw [quotingOf, h]
    rfl

theorem stringLength?_marks {q : Quoting} {c : Char} {s x : List Char} (hc : isMark c = true)
    (hhead : s.head? = some c) (hq : quotingOf q.raw c s = q) (hs : s = q.marks ++ x) :
    stringLength? q.raw s = (q.bodyLength? 0 x).map (· + 2 * q.width) := by
  cases s with
  | nil => cases hhead
  | cons d r =>
    cases hhead
    have hmark : (c == '"' || c == '\'') = true := hc
    have hdrop : (c :: r).drop q.width = x := by
      rw [hs]
      exact List.drop_left' List.length_replicate
    unfold quotingOf at hq
    simp only [stringLength?, hmark, if_true, hq, hdrop]

theorem carried_stringLength? (k : Keyword) (raw : Bool) (s : List Char) :
    Carried k (stringLength? raw) s := by
  have hhead := (k.sameLead_replace s).head?_eq
  cases s with
  | nil =>
    refine .missing rfl ?_
    rw [k.replace_nil]
    rfl
  | cons c r =>
    cases hc : isMark c with
    | false =>
      refine .missing (stringLength?_eq_none fun d hd => ?_) (stringLength?_eq_none fun d hd => ?_)
      · cases hd
        exact hc
      · rw [← hhead] at hd
        cases hd
        exact hc
    | true =>
      have hne : c ≠ ' ' := by
        rintro rfl
        cases hc
      obtain ⟨x, hx⟩ := exists_eq_marks_append raw c r
      have hq := quotingOf_replace k raw hne (c :: r)
      generalize hquoting : quotingOf raw c (c :: r) = q at hx hq
      have hmark : isMark q.mark = true := by
        rw [← hquoting]
        exact hc
      have hraw : q.raw = raw := by rw [← hquoting]; rfl
      subst hraw
      have hreplace := k.replace_append_marks hmark [] x
      rw [List.nil_append, k.replace_nil, List.nil_append, ← hx] at hreplace
      have hs := stringLength?_marks hc rfl hquoting hx
      have hs' := stringLength?_marks hc hhead.symm hq hreplace
      cases carried_bodyLength? k hmark x with
      | missing h h' => exact .missing (by rw [hs, h]; rfl) (by rw [hs', h']; rfl)
      | found u v huv h hrep h' =>
        have hclose := Quoting.closes_of_bodyLength? h
        rw [huv, List.drop_left] at hclose
        obtain ⟨t, rfl⟩ := List.isPrefixOf_iff_prefix.1 hclose
        have hlength : q.marks.length = q.width := List.length_replicate
        have hinner := k.replace_append_marks hmark u t
        have hu := k.replace_quoted hmark u
        refine .found (q.marks ++ (u ++ q.marks)) t ?_ ?_ ?_ ?_
        · rw [hx, huv, List.append_assoc, List.append_assoc]
          rfl
        · rw [hs, h, List.length_append, List.length_append, hlength]
          simp only [Option.map_some, Option.some.injEq]
          omega
        · rw [hreplace, huv, hu, List.append_assoc, List.append_assoc]
          exact congrArg (q.marks ++ ·) hinner
        · rw [hs', h', hu, List.length_append, List.length_append, hlength]
          simp only [Option.map_some, Option.some.injEq]
          omega

theorem Carried.cons {k : Keyword} {f g : List Char → Option Nat} {c : Char} {r : List Char}
    (hc : c ≠ ' ') (h : Carried k f r) (hg : ∀ t, g (c :: t) = (f t).map (· + 1)) :
    Carried k g (c :: r) := by
  have hcons : ∀ t, k.replace (c :: t) = c :: k.replace t := fun t =>
    k.replace_cons c t (k.not_spaced_of_ne hc t)
  cases h with
  | missing h h' => exact .missing (by rw [hg, h]; rfl) (by rw [hcons, hg, h']; rfl)
  | found u v hs h hr h' =>
    refine .found (c :: u) v (by rw [hs]; rfl) (by rw [hg, h]; rfl) ?_ ?_
    · rw [hcons, hcons, hr]
      rfl
    · rw [hcons, hg, h', hcons]
      rfl

theorem prefixedLength?_of_head {s : List Char} (h : ∀ c ∈ s.head?, c ≠ 'r' ∧ c ≠ 'R') :
    prefixedLength? s = stringLength? false s := by
  cases s with
  | nil => rfl
  | cons c r => simp [prefixedLength?, h c rfl]

theorem carried_prefixedLength? (k : Keyword) (s : List Char) : Carried k prefixedLength? s := by
  cases s with
  | nil =>
    refine .missing rfl ?_
    rw [k.replace_nil]
    rfl
  | cons c r =>
    by_cases hc : c = 'r' ∨ c = 'R'
    · refine (carried_stringLength? k true r).cons ?_ fun t => ?_
      · rcases hc with rfl | rfl <;> decide
      · rcases hc with rfl | rfl <;> rfl
    · have h : ∀ d ∈ (c :: r).head?, d ≠ 'r' ∧ d ≠ 'R' := fun d hd => by
        cases hd
        exact not_or.1 hc
      have hs := prefixedLength?_of_head h
      rw [(k.sameLead_replace (c :: r)).head?_eq] at h
      have hr := prefixedLength?_of_head h
      cases carried_stringLength? k false (c :: r) with
      | missing hl hl' => exact .missing (by rw [hs, hl]) (by rw [hr, hl'])
      | found u v huv hl hrep hl' => exact .found u v huv (by rw [hs, hl]) hrep (by rw [hr, hl'])

/-! ### Where a string begins and ends -/

theorem exists_of_stringLength? {raw : Bool} {s : List Char} {n : Nat}
    (h : stringLength? raw s = some n) :
    ∃ (q : Quoting) (u v : List Char), q.raw = raw ∧ isMark q.mark = true ∧
      s = (q.marks ++ (u ++ q.marks)) ++ v ∧ n = (q.marks ++ (u ++ q.marks)).length ∧
      q.bodyLength? 0 (u ++ (q.marks ++ v)) = some u.length := by
  cases s with
  | nil => cases h
  | cons c r =>
    have hc : isMark c = true := by
      by_contra hc
      have hnone : stringLength? raw (c :: r) = none :=
        stringLength?_eq_none fun d hd => by cases hd; simpa using hc
      rw [hnone] at h
      cases h
    obtain ⟨x, hx⟩ := exists_eq_marks_append raw c r
    generalize hquoting : quotingOf raw c (c :: r) = q at hx
    have hmark : isMark q.mark = true := by
      rw [← hquoting]
      exact hc
    have hraw : q.raw = raw := by rw [← hquoting]; rfl
    subst hraw
    rw [stringLength?_marks hc rfl hquoting hx] at h
    obtain ⟨m, hm, rfl⟩ := Option.map_eq_some_iff.1 h
    cases carried_bodyLength? .or hmark x with
    | missing hnone => rw [hnone] at hm; cases hm
    | found u v huv hu =>
      have hclose := Quoting.closes_of_bodyLength? hu
      rw [huv, List.drop_left] at hclose
      obtain ⟨t, rfl⟩ := List.isPrefixOf_iff_prefix.1 hclose
      rw [hu] at hm
      cases hm
      have hlength : q.marks.length = q.width := List.length_replicate
      refine ⟨q, u, t, rfl, hmark, ?_, ?_, by rw [← hu, huv]; rfl⟩
      · rw [hx, huv, List.append_assoc, List.append_assoc]
        rfl
      · rw [List.length_append, List.length_append, hlength]
        omega

theorem prefixedLength?_ne_zero (s : List Char) : prefixedLength? s ≠ some 0 := by
  intro h
  cases s with
  | nil => cases h
  | cons c r =>
    simp only [prefixedLength?] at h
    split_ifs at h
    · simp at h
    · obtain ⟨q, u, v, -, -, -, hn, -⟩ := exists_of_stringLength? h
      have hpos : 0 < q.width := by
        unfold Quoting.width
        split <;> decide
      rw [List.length_append, Quoting.marks, List.length_replicate] at hn
      omega

/-! ### Lexemes -/

def Keyword.respelled (k : Keyword) : Token → Token
  | .string w => .string (k.replace w)
  | .bytes w => .bytes (k.replace w)
  | t => t

inductive CarriedLexeme (k : Keyword) (f : List Char → Option Lexeme) (s : List Char) : Prop
  | missing (h : f s = none) (h' : f (k.replace s) = none)
  | found (a : Token) (u v : List Char) (hu : u ≠ []) (hs : s = u ++ v)
    (h : f s = some (a, u.length))
    (hr : k.replace s = k.replace u ++ k.replace v)
    (h' : f (k.replace s) = some (k.respelled a, (k.replace u).length))

theorem string?_cons_of_bytes {c : Char} (hc : c = 'b' ∨ c = 'B') (r : List Char) :
    string? (c :: r) =
      ((prefixedLength? r).map (· + 1)).map fun n => (.bytes ((c :: r).take n), n) := by
  rcases hc with rfl | rfl <;> simp [string?, Function.comp_def]

theorem string?_of_head {s : List Char} (h : ∀ c ∈ s.head?, c ≠ 'b' ∧ c ≠ 'B') :
    string? s = (prefixedLength? s).map fun n => (.string (s.take n), n) := by
  cases s with
  | nil => rfl
  | cons c r => simp [string?, h c rfl]

theorem Carried.lexeme {k : Keyword} {f : List Char → Option Nat} {g : List Char → Option Lexeme}
    {s : List Char} (token : List Char → Token) (h : Carried k f s)
    (htoken : ∀ w, k.respelled (token w) = token (k.replace w)) (hpos : f s ≠ some 0)
    (hs : g s = (f s).map fun n => (token (s.take n), n))
    (hr : g (k.replace s) = (f (k.replace s)).map fun n => (token ((k.replace s).take n), n)) :
    CarriedLexeme k g s := by
  cases h with
  | missing h h' => exact .missing (by rw [hs, h]; rfl) (by rw [hr, h']; rfl)
  | found u v huv h hrep h' =>
    have hu : u ≠ [] := by
      rintro rfl
      exact hpos h
    refine .found (token u) u v hu huv ?_ hrep ?_
    · rw [hs, h, huv, Option.map_some, List.take_left]
    · rw [hr, h', hrep, Option.map_some, List.take_left, htoken]

theorem carried_string? (k : Keyword) (s : List Char) : CarriedLexeme k string? s := by
  cases s with
  | nil =>
    refine .missing rfl ?_
    rw [k.replace_nil]
    rfl
  | cons c r =>
    by_cases hc : c = 'b' ∨ c = 'B'
    · have hne : c ≠ ' ' := by rcases hc with rfl | rfl <;> decide
      have htail : Carried k (fun s => (prefixedLength? s.tail).map (· + 1)) (c :: r) :=
        (carried_prefixedLength? k r).cons hne fun t => rfl
      refine htail.lexeme .bytes (fun _ => rfl) (by simp) (string?_cons_of_bytes hc r) ?_
      rw [k.replace_cons c r (k.not_spaced_of_ne hne r)]
      exact string?_cons_of_bytes hc _
    · have h : ∀ d ∈ (c :: r).head?, d ≠ 'b' ∧ d ≠ 'B' := fun d hd => by
        cases hd
        exact not_or.1 hc
      have hs := string?_of_head h
      rw [(k.sameLead_replace (c :: r)).head?_eq] at h
      exact (carried_prefixedLength? k (c :: r)).lexeme .string (fun _ => rfl)
        (prefixedLength?_ne_zero _) hs (string?_of_head h)

end ConditionRegistry
