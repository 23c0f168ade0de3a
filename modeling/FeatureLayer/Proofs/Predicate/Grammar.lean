import FeatureLayer.Predicate.Parser
/-!
The grammar of predicates, beside the readers. A reader takes from the front of the tokens just what
the grammar has for it, so that a whole list of tokens is accepted if and only if it is a disjunction,
and then the predicate is the one of its derivation.
-/

namespace FeatureLayer

theorem ok_of_bind_eq_ok {α β ε : Type} {x : Except ε α} {f : α → Except ε β} {b : β}
    (h : (do f (← x)) = .ok b) : ∃ a, x = .ok a ∧ f a = .ok b := by
  cases x with
  | error e => cases h
  | ok a => exact ⟨a, rfl, h⟩

/-! ### The grammar -/

/-- What a name stands for: the first field of that name, or the identifier if no field has it. -/
inductive Vocabulary.Names (v : Vocabulary) (name : String) : Operand → Prop
  | field {i : Nat} {f : Field} (hf : v.fields[i]? = some f) (hname : Text.sameWord f.name name = true)
      (first : ∀ j < i, ∀ g, v.fields[j]? = some g → Text.sameWord g.name name = false) :
      v.Names name (.field i)
  | fid (hnone : ∀ f ∈ v.fields, Text.sameWord f.name name = false)
      (hname : Text.sameWord name "FID" = true ∨
        v.fidColumn ≠ "" ∧ Text.sameWord name v.fidColumn = true) : v.Names name .fid

namespace Predicate

/-- A token is a keyword, in any case and whether it is quoted or not. -/
def IsWord (word : String) (t : Token) : Prop := ∃ s, t = .name s ∧ Text.sameWord s word = true

inductive IsLiteral : Token → Scalar → Prop
  | number (n : Double) : IsLiteral (.number n) (.number n)
  | text (s : String) : IsLiteral (.text s) (.text s)
  | null {t : Token} (ht : IsWord "NULL" t) : IsLiteral t .null

inductive AreLiterals : List Token → List Scalar → Prop
  | one {t : Token} {s : Scalar} (ht : IsLiteral t s) : AreLiterals [t] [s]
  | more {t : Token} {s : Scalar} {ts : List Token} {ss : List Scalar} (ht : IsLiteral t s)
      (hts : AreLiterals ts ss) : AreLiterals (t :: .comma :: ts) (s :: ss)

inductive IsOperand (v : Vocabulary) : Token → Operand → Prop
  | literal {t : Token} {s : Scalar} (ht : IsLiteral t s) : IsOperand v t (.literal s)
  | named {s : String} {o : Operand} (hs : ¬IsWord "NULL" (.name s)) (ho : v.Names s o) :
      IsOperand v (.name s) o

inductive IsNegation : List Token → Bool → Prop
  | absent : IsNegation [] false
  | present {t : Token} (ht : IsWord "NOT" t) : IsNegation [t] true

inductive IsComparison (v : Vocabulary) : List Token → Predicate → Prop
  | isNull {x is null : Token} {ns : List Token} {o : Operand} {negated : Bool}
      (hx : IsOperand v x o) (his : IsWord "IS" is) (hns : IsNegation ns negated)
      (hnull : IsWord "NULL" null) : IsComparison v (x :: is :: (ns ++ [null])) (.isNull o negated)
  | like {x like : Token} {ns : List Token} {o : Operand} {negated : Bool} {pattern : String}
      (hx : IsOperand v x o) (hns : IsNegation ns negated) (hlike : IsWord "LIKE" like) :
      IsComparison v (x :: (ns ++ [like, .text pattern])) (.like o pattern negated)
  | among {x among : Token} {ns ts : List Token} {o : Operand} {negated : Bool} {ss : List Scalar}
      (hx : IsOperand v x o) (hns : IsNegation ns negated) (hamong : IsWord "IN" among)
      (hts : AreLiterals ts ss) :
      IsComparison v (x :: (ns ++ among :: .opening :: (ts ++ [.closing]))) (.among o ss negated)
  | compare {x y : Token} {o o' : Operand} {c : Comparison} (hx : IsOperand v x o)
      (hy : IsOperand v y o') : IsComparison v [x, .comparison c, y] (.compare o c o')

inductive Repeats (word : String) (Part : List Token → Predicate → Prop) :
    List Token → List Predicate → Prop
  | done : Repeats word Part [] []
  | again {t : Token} {ts us : List Token} {p : Predicate} {ps : List Predicate} (ht : IsWord word t)
      (hts : Part ts p) (hus : Repeats word Part us ps) :
      Repeats word Part (t :: (ts ++ us)) (p :: ps)

/-- One part or several with the word between them, joined to the left. -/
inductive IsChain (word : String) (join : Predicate → Predicate → Predicate)
    (Part : List Token → Predicate → Prop) : List Token → Predicate → Prop
  | intro {ts us : List Token} {p : Predicate} {ps : List Predicate} (hts : Part ts p)
      (hus : Repeats word Part us ps) : IsChain word join Part (ts ++ us) (ps.foldl join p)

/-- A negation, a disjunction in parentheses or a comparison that does not start with `NOT`. -/
inductive IsFactor (v : Vocabulary) : List Token → Predicate → Prop
  | negation {t : Token} {ts : List Token} {p : Predicate} (ht : IsWord "NOT" t)
      (hts : IsFactor v ts p) : IsFactor v (t :: ts) (.not p)
  | group {ts : List Token} {p : Predicate}
      (hts : IsChain "OR" .or (IsChain "AND" .and (IsFactor v)) ts p) :
      IsFactor v (.opening :: (ts ++ [.closing])) p
  | comparison {ts : List Token} {p : Predicate} (hts : IsComparison v ts p)
      (hnot : ∀ t ∈ ts.head?, ¬IsWord "NOT" t) : IsFactor v ts p

def IsConjunction (v : Vocabulary) : List Token → Predicate → Prop := IsChain "AND" .and (IsFactor v)

def IsDisjunction (v : Vocabulary) : List Token → Predicate → Prop :=
  IsChain "OR" .or (IsConjunction v)

/-! ### Words, names and operands -/

variable {v : Vocabulary} {word word' : String} {t : Token} {ts rest : List Token} {o : Operand}
  {p : Predicate}

theorem keyword?_eq_some_iff : keyword? word ts = some rest ↔ ∃ t, ts = t :: rest ∧ IsWord word t := by
  unfold keyword?
  constructor
  · intro h
    split at h
    · split at h
      next s _ hs =>
        cases h
        exact ⟨_, rfl, s, rfl, hs⟩
      · cases h
    · cases h
  · rintro ⟨t, rfl, s, rfl, hs⟩
    exact if_pos hs

theorem keyword?_cons (ht : IsWord word t) : keyword? word (t :: ts) = some ts :=
  keyword?_eq_some_iff.mpr ⟨t, rfl, ht⟩

theorem keyword?_cons_eq_none (ht : ¬IsWord word t) : keyword? word (t :: ts) = none := by
  rw [Option.eq_none_iff_forall_ne_some]
  intro us h
  obtain ⟨t, heq, hword⟩ := keyword?_eq_some_iff.mp h
  cases heq
  exact ht hword

theorem IsWord.ne (h : IsWord word t) (hne : Text.sameWord word word' = false) : ¬IsWord word' t := by
  rintro ⟨s, rfl, hs⟩
  obtain ⟨s, heq, hword⟩ := h
  cases heq
  simp only [Text.sameWord, decide_eq_true_eq, decide_eq_false_iff_not] at hs hword hne
  exact hne (hword.symm.trans hs)

theorem not_isWord {name : String} (h : Text.sameWord name word = false) :
    ¬IsWord word (.name name) := by
  rintro ⟨s, heq, hs⟩
  cases heq
  exact Bool.false_ne_true (h.symm.trans hs)

theorem resolve_of_names {name : String} (h : v.Names name o) : v.resolve name = .ok o := by
  unfold Vocabulary.resolve
  cases h with
  | @field i f hf hname hfirst =>
    obtain ⟨hi, rfl⟩ := List.getElem?_eq_some_iff.mp hf
    have hfind : (v.fields.findIdx? fun f => Text.sameWord f.name name) = some i := by
      refine List.findIdx?_eq_some_iff_getElem.mpr ⟨hi, hname, fun j hj => ?_⟩
      rw [hfirst j hj _ (List.getElem?_eq_getElem (Nat.lt_trans hj hi))]
      exact Bool.false_ne_true
    rw [hfind]
  | fid hnone hname =>
    rw [List.findIdx?_eq_none_iff.mpr hnone]
    exact if_pos (by simpa using hname)

theorem names_of_resolve {name : String} (h : v.resolve name = .ok o) : v.Names name o := by
  unfold Vocabulary.resolve at h
  split at h
  next i hfind =>
    obtain ⟨hi, hname, hfirst⟩ := List.findIdx?_eq_some_iff_getElem.mp hfind
    cases h
    refine .field (List.getElem?_eq_getElem hi) hname fun j hj g hg => ?_
    obtain ⟨-, rfl⟩ := List.getElem?_eq_some_iff.mp hg
    simpa using hfirst j hj
  next hfind =>
    split at h
    next hname =>
      cases h
      exact .fid (List.findIdx?_eq_none_iff.mp hfind) (by simpa using hname)
    · cases h

theorem exists_names {i : Nat} {f : Field} {name : String} (hf : v.fields[i]? = some f)
    (hname : Text.sameWord f.name name = true) : ∃ j ≤ i, v.Names name (.field j) := by
  cases hfind : v.fields.findIdx? fun f => Text.sameWord f.name name with
  | none =>
    have hnone := List.findIdx?_eq_none_iff.mp hfind f (List.mem_of_getElem? hf)
    exact absurd hname (Bool.eq_false_iff.mp hnone)
  | some j =>
    have hresolve : v.resolve name = .ok (.field j) := by rw [Vocabulary.resolve, hfind]
    refine ⟨j, Nat.le_of_not_lt fun hlt => ?_, names_of_resolve hresolve⟩
    obtain ⟨hj, -, hearlier⟩ := List.findIdx?_eq_some_iff_getElem.mp hfind
    obtain ⟨hi, rfl⟩ := List.getElem?_eq_some_iff.mp hf
    exact hearlier i hlt hname

theorem operand_eq_ok_iff :
    operand v ts = .ok (o, rest) ↔ ∃ t, ts = t :: rest ∧ IsOperand v t o := by
  constructor
  · intro h
    unfold operand at h
    split at h
    · cases h
      exact ⟨_, rfl, .literal (.number _)⟩
    · cases h
      exact ⟨_, rfl, .literal (.text _)⟩
    next s _ =>
      split at h
      next hs =>
        cases h
        exact ⟨_, rfl, .literal (.null ⟨s, rfl, hs⟩)⟩
      next hs =>
        cases hresolve : v.resolve s with
        | error e =>
          rw [hresolve] at h
          cases h
        | ok o =>
          rw [hresolve] at h
          cases h
          refine ⟨_, rfl, .named ?_ (names_of_resolve hresolve)⟩
          rintro ⟨_, heq, hword⟩
          cases heq
          exact hs hword
    · cases h
  · rintro ⟨t, rfl, ho⟩
    cases ho with
    | literal ht =>
      cases ht with
      | number n => rfl
      | text s => rfl
      | null ht =>
        obtain ⟨s, rfl, hs⟩ := ht
        exact if_pos hs
    | @named s _ hs ho =>
      have hword : ¬Text.sameWord s "NULL" = true := fun h => hs ⟨s, rfl, h⟩
      simp only [operand, if_neg hword, resolve_of_names ho]
      rfl

theorem IsOperand.ne_opening (h : IsOperand v t o) : t ≠ .opening := by
  rintro rfl
  cases h with
  | literal ht =>
    cases ht with
    | null ht =>
      obtain ⟨s, hs, -⟩ := ht
      cases hs

/-! ### Comparisons -/

theorem isOperand_literal_iff {s : Scalar} : IsOperand v t (.literal s) ↔ IsLiteral t s := by
  refine ⟨fun h => ?_, .literal⟩
  cases h with
  | literal ht => exact ht
  | named _ ho => cases ho

theorem areLiterals_of_literals {fuel : Nat} {ss : List Scalar}
    (h : literals v fuel ts = .ok (ss, rest)) :
    ∃ used, ts = used ++ .closing :: rest ∧ AreLiterals used ss := by
  induction fuel generalizing ts ss with
  | zero => cases h
  | succ fuel ih =>
    obtain ⟨⟨o, us⟩, ho, hmore⟩ := ok_of_bind_eq_ok h
    obtain ⟨t, rfl, ht⟩ := operand_eq_ok_iff.mp ho
    split at hmore
    next heq =>
      cases heq
      obtain ⟨⟨ss, vs⟩, hmore, heq⟩ := ok_of_bind_eq_ok hmore
      cases heq
      obtain ⟨used, rfl, hused⟩ := ih hmore
      exact ⟨_ :: _ :: used, rfl, .more (isOperand_literal_iff.mp ht) hused⟩
    next heq =>
      cases heq
      cases hmore
      exact ⟨[_], rfl, .one (isOperand_literal_iff.mp ht)⟩
    · cases hmore
    · cases hmore

theorem literals_of_areLiterals {used : List Token} {ss : List Scalar} (h : AreLiterals used ss)
    (rest : List Token) {fuel : Nat} (hfuel : used.length ≤ fuel) :
    literals v fuel (used ++ .closing :: rest) = .ok (ss, rest) := by
  induction h generalizing fuel with
  | @one t s ht =>
    cases fuel with
    | zero => cases hfuel
    | succ fuel =>
      have ho : operand v ([t] ++ .closing :: rest) = .ok (.literal s, .closing :: rest) :=
        operand_eq_ok_iff.mpr ⟨t, rfl, .literal ht⟩
      rw [literals, ho]
      rfl
  | @more t s ts ss ht _ ih =>
    cases fuel with
    | zero => cases hfuel
    | succ fuel =>
      have ho : operand v (t :: .comma :: ts ++ .closing :: rest) =
          .ok (.literal s, .comma :: (ts ++ .closing :: rest)) :=
        operand_eq_ok_iff.mpr ⟨t, rfl, .literal ht⟩
      have hmore : literals v fuel (ts ++ .closing :: rest) = .ok (ss, rest) :=
        ih (by simp only [List.length_cons] at hfuel; omega)
      simp only [literals, ho, bind, Except.bind, hmore]

theorem expect_eq_ok_iff : expect t ts = .ok ((), rest) ↔ ts = t :: rest := by
  unfold expect
  constructor
  · intro h
    split at h
    · split at h
      next heq =>
        cases h
        rw [heq]
      · cases h
    · cases h
  · rintro rfl
    exact if_pos rfl

section

variable {x : Token} {ns us : List Token} {negated : Bool}

theorem exists_negation (ts : List Token) : ∃ ns negated us, ts = ns ++ us ∧
    IsNegation ns negated ∧ (ns = [] → keyword? "NOT" us = none) := by
  cases h : keyword? "NOT" ts with
  | none => exact ⟨[], false, ts, rfl, .absent, fun _ => h⟩
  | some us =>
    obtain ⟨t, rfl, ht⟩ := keyword?_eq_some_iff.mp h
    exact ⟨[t], true, us, rfl, .present ht, nofun⟩

theorem nullTest_append (hns : IsNegation ns negated) (hnone : ns = [] → keyword? "NOT" us = none) :
    nullTest o (ns ++ us) = (keyword? "NULL" us).elim (.error .expectedNull)
      fun ts => .ok (.isNull o negated, ts) := by
  unfold nullTest
  cases hns with
  | absent =>
    simp only [List.nil_append, hnone rfl]
    cases keyword? "NULL" us <;> rfl
  | present ht =>
    simp only [List.singleton_append, keyword?_cons ht]
    cases keyword? "NULL" us <;> rfl

theorem comparison_append (hx : IsOperand v x o) (hns : IsNegation ns negated)
    (hnone : ns = [] → keyword? "NOT" us = none) (his : keyword? "IS" (ns ++ us) = none) :
    comparison v (x :: (ns ++ us)) = test v o negated us := by
  have ho : operand v (x :: (ns ++ us)) = .ok (o, ns ++ us) := operand_eq_ok_iff.mpr ⟨x, rfl, hx⟩
  unfold comparison
  rw [ho]
  simp only [bind, Except.bind, his]
  cases hns with
  | absent => rw [List.nil_append, hnone rfl]
  | present ht => rw [List.singleton_append, keyword?_cons ht]

theorem comparison_cons_is {is : Token} (hx : IsOperand v x o) (his : IsWord "IS" is) :
    comparison v (x :: is :: ts) = nullTest o ts := by
  have ho : operand v (x :: is :: ts) = .ok (o, is :: ts) := operand_eq_ok_iff.mpr ⟨x, rfl, hx⟩
  unfold comparison
  rw [ho]
  simp only [bind, Except.bind, keyword?_cons his]

theorem isComparison_of_test (hx : IsOperand v x o) (hns : IsNegation ns negated)
    (h : test v o negated us = .ok (p, rest)) :
    ∃ used, x :: (ns ++ us) = used ++ rest ∧ IsComparison v used p := by
  unfold test at h
  split at h
  next hlike =>
    obtain ⟨t, rfl, ht⟩ := keyword?_eq_some_iff.mp hlike
    obtain ⟨⟨s, us⟩, hpattern, heq⟩ := ok_of_bind_eq_ok h
    cases heq
    unfold pattern at hpattern
    split at hpattern
    · cases hpattern
      exact ⟨x :: (ns ++ [t, .text s]), by simp, .like hx hns ht⟩
    · cases hpattern
  next hin =>
    obtain ⟨t, rfl, ht⟩ := keyword?_eq_some_iff.mp hin
    obtain ⟨⟨u, us⟩, hopening, hlist⟩ := ok_of_bind_eq_ok h
    obtain ⟨⟨ss, vs⟩, hliterals, heq⟩ := ok_of_bind_eq_ok hlist
    cases heq
    obtain rfl := expect_eq_ok_iff.mp hopening
    obtain ⟨used, rfl, hused⟩ := areLiterals_of_literals hliterals
    exact ⟨x :: (ns ++ t :: .opening :: (used ++ [.closing])), by simp, .among hx hns ht hused⟩
  next =>
    split at h
    · cases h
    next hpositive =>
      split at h
      next c us _ _ =>
        obtain ⟨⟨o', us⟩, ho', heq⟩ := ok_of_bind_eq_ok h
        cases heq
        obtain ⟨y, rfl, hy⟩ := operand_eq_ok_iff.mp ho'
        cases hns with
        | absent => exact ⟨[x, .comparison c, y], rfl, .compare hx hy⟩
        | present => exact absurd rfl hpositive
      · cases h

end

theorem isComparison_of_comparison (h : comparison v ts = .ok (p, rest)) :
    ∃ used, ts = used ++ rest ∧ IsComparison v used p := by
  obtain ⟨⟨o, us⟩, ho, -⟩ := ok_of_bind_eq_ok h
  obtain ⟨x, rfl, hx⟩ := operand_eq_ok_iff.mp ho
  cases hword : keyword? "IS" us with
  | some us =>
    obtain ⟨is, rfl, his⟩ := keyword?_eq_some_iff.mp hword
    obtain ⟨ns, negated, us, rfl, hns, hnone⟩ := exists_negation us
    rw [comparison_cons_is hx his, nullTest_append hns hnone] at h
    cases hnull : keyword? "NULL" us with
    | none =>
      rw [hnull] at h
      cases h
    | some us =>
      rw [hnull] at h
      cases h
      obtain ⟨t, rfl, ht⟩ := keyword?_eq_some_iff.mp hnull
      exact ⟨x :: is :: (ns ++ [t]), by simp, .isNull hx his hns ht⟩
  | none =>
    obtain ⟨ns, negated, us, rfl, hns, hnone⟩ := exists_negation us
    rw [comparison_append hx hns hnone hword] at h
    exact isComparison_of_test hx hns h

theorem IsNegation.keyword?_is {ns : List Token} {negated : Bool} (h : IsNegation ns negated)
    (ht : ¬IsWord "IS" t) : keyword? "IS" (ns ++ t :: ts) = none := by
  cases h with
  | absent => exact keyword?_cons_eq_none ht
  | present hnot => exact keyword?_cons_eq_none (hnot.ne (by decide))

theorem comparison_of_isComparison {used : List Token} (h : IsComparison v used p)
    (rest : List Token) : comparison v (used ++ rest) = .ok (p, rest) := by
  -- no word of the grammar is another one, so that a reader leaves the words it is not for
  cases h with
  | @isNull x is null ns o negated hx his hns hnull =>
    have hnone : keyword? "NOT" (null :: rest) = none := keyword?_cons_eq_none (hnull.ne (by decide))
    have heq : x :: is :: (ns ++ [null]) ++ rest = x :: is :: (ns ++ null :: rest) := by simp
    rw [heq, comparison_cons_is hx his, nullTest_append hns fun _ => hnone, keyword?_cons hnull]
    rfl
  | @like x like ns o negated pattern hx hns hlike =>
    have hnone : keyword? "NOT" (like :: .text pattern :: rest) = none :=
      keyword?_cons_eq_none (hlike.ne (by decide))
    have heq : x :: (ns ++ [like, .text pattern]) ++ rest =
        x :: (ns ++ like :: .text pattern :: rest) := by simp
    rw [heq, comparison_append hx hns (fun _ => hnone) (hns.keyword?_is (hlike.ne (by decide)))]
    unfold test
    rw [keyword?_cons hlike]
    rfl
  | @among x among ns ts o negated ss hx hns hamong hts =>
    have hnone : keyword? "NOT" (among :: .opening :: (ts ++ .closing :: rest)) = none :=
      keyword?_cons_eq_none (hamong.ne (by decide))
    have heq : x :: (ns ++ among :: .opening :: (ts ++ [.closing])) ++ rest =
        x :: (ns ++ among :: .opening :: (ts ++ .closing :: rest)) := by simp
    have hlist : literals v ((ts ++ .closing :: rest).length + 1) (ts ++ .closing :: rest) =
        .ok (ss, rest) := literals_of_areLiterals hts rest (by simp; omega)
    rw [heq, comparison_append hx hns (fun _ => hnone) (hns.keyword?_is (hamong.ne (by decide)))]
    unfold test
    rw [keyword?_cons_eq_none (hamong.ne (by decide)), keyword?_cons hamong]
    simp only [expect, if_true, bind, Except.bind, hlist]
  | @compare x y o o' c hx hy =>
    have ho' : operand v (y :: rest) = .ok (o', rest) := operand_eq_ok_iff.mpr ⟨y, rfl, hy⟩
    have heq : [x, .comparison c, y] ++ rest = x :: ([] ++ .comparison c :: y :: rest) := rfl
    rw [heq, comparison_append hx .absent (fun _ => rfl) rfl]
    unfold test
    simp only [keyword?, Bool.false_eq_true, if_false, ho', bind, Except.bind]

theorem IsComparison.head (h : IsComparison v ts p) : ∃ x us o, ts = x :: us ∧ IsOperand v x o := by
  cases h with
  | isNull hx | like hx | among hx | compare hx => exact ⟨_, _, _, rfl, hx⟩

/-! ### Chains and factors -/

/-- From fewer than `n` tokens the reader takes just the parts of the grammar, and leaves what is as
told. -/
def ReadsBelow (n : Nat) (part : Reader Predicate) (Part : List Token → Predicate → Prop)
    (Left : List Token → Prop) : Prop :=
  ∀ ts p rest, ts.length < n →
    (part ts = .ok (p, rest) ↔ ∃ used, ts = used ++ rest ∧ Part used p ∧ Left rest)

section

variable {n fuel : Nat} {join : Predicate → Predicate → Predicate} {part : Reader Predicate}
  {Part : List Token → Predicate → Prop} {Left : List Token → Prop} {used : List Token}
  {ps : List Predicate}

/-- The length of the tokens bounds the number of parts, so that the fuel lasts. -/
theorem repeats_of_joined (hpart : ReadsBelow n part Part Left) {q : Predicate} (hn : ts.length < n)
    (hfuel : ts.length ≤ fuel) (hleft : Left ts) (h : joined word join part fuel p ts = .ok (q, rest)) :
    ∃ used ps, ts = used ++ rest ∧ Repeats word Part used ps ∧ q = ps.foldl join p ∧ Left rest ∧
      keyword? word rest = none := by
  induction fuel generalizing p ts with
  | zero =>
    obtain rfl := List.eq_nil_of_length_eq_zero (Nat.le_zero.mp hfuel)
    cases h
    exact ⟨[], [], rfl, .done, rfl, hleft, rfl⟩
  | succ fuel ih =>
    unfold joined at h
    split at h
    next hnone =>
      cases h
      exact ⟨[], [], rfl, .done, rfl, hleft, hnone⟩
    next us hword =>
      obtain ⟨t, rfl, ht⟩ := keyword?_eq_some_iff.mp hword
      obtain ⟨⟨p', vs⟩, hp', hothers⟩ := ok_of_bind_eq_ok h
      simp only [List.length_cons] at hn hfuel
      obtain ⟨used, rfl, hused, hleft⟩ := (hpart us p' vs (by omega)).mp hp'
      simp only [List.length_append] at hn hfuel
      obtain ⟨more, ps, rfl, hmore, rfl, hend⟩ := ih (by omega) (by omega) hleft hothers
      exact ⟨t :: (used ++ more), p' :: ps, by simp, .again ht hused hmore, rfl, hend⟩

theorem joined_of_repeats (hpart : ReadsBelow n part Part Left)
    (hword : ∀ t ts, IsWord word t → Left (t :: ts)) (h : Repeats word Part used ps)
    (hleft : Left rest) (hrest : keyword? word rest = none) (hn : (used ++ rest).length < n)
    (hfuel : used.length ≤ fuel) (p : Predicate) :
    joined word join part fuel p (used ++ rest) = .ok (ps.foldl join p, rest) := by
  induction h generalizing fuel p with
  | done =>
    cases fuel with
    | zero => rfl
    | succ fuel =>
      rw [List.nil_append, joined, hrest]
      rfl
  | @again t ts us p' ps ht hts hus ih =>
    simp only [List.length_append, List.length_cons] at hn hfuel
    cases fuel with
    | zero => omega
    | succ fuel =>
      have hnext : Left (us ++ rest) := by
        cases hus with
        | done => exact hleft
        | again ht => exact hword _ _ ht
      have hread : part (ts ++ (us ++ rest)) = .ok (p', us ++ rest) :=
        (hpart _ _ _ (by simp only [List.length_append]; omega)).mpr ⟨ts, rfl, hts, hnext⟩
      have hmore : joined word join part fuel (join p p') (us ++ rest) =
          .ok (ps.foldl join (join p p'), rest) :=
        ih (by simp only [List.length_append]; omega) (by omega) (join p p')
      rw [List.cons_append, List.append_assoc, joined, keyword?_cons ht]
      simp only [hread, bind, Except.bind, hmore, List.foldl_cons]

theorem ReadsBelow.chain (hpart : ReadsBelow n part Part Left)
    (hword : ∀ t ts, IsWord word t → Left (t :: ts)) :
    ReadsBelow n (chain word join part) (IsChain word join Part)
      fun rest => Left rest ∧ keyword? word rest = none := by
  intro ts p rest hn
  constructor
  · intro h
    obtain ⟨⟨p', us⟩, hp', hothers⟩ := ok_of_bind_eq_ok h
    obtain ⟨used, rfl, hused, hleft⟩ := (hpart ts p' us hn).mp hp'
    simp only [List.length_append] at hn
    obtain ⟨more, ps, rfl, hmore, rfl, hend⟩ :=
      repeats_of_joined hpart (by omega) (Nat.le_refl _) hleft hothers
    exact ⟨used ++ more, by simp, .intro hused hmore, hend⟩
  · rintro ⟨used, rfl, hused, hleft, hrest⟩
    cases hused with
    | @intro ts us p' ps hts hus =>
      have hnext : Left (us ++ rest) := by
        cases hus with
        | done => exact hleft
        | again ht => exact hword _ _ ht
      rw [List.append_assoc] at hn ⊢
      have hread := (hpart _ p' _ hn).mpr ⟨ts, rfl, hts, hnext⟩
      simp only [List.length_append] at hn
      have hmore : joined word join part (us ++ rest).length p' (us ++ rest) =
          .ok (ps.foldl join p', rest) :=
        joined_of_repeats hpart hword hus hleft hrest (by simp only [List.length_append]; omega)
          (by simp only [List.length_append]; omega) p'
      simp only [Predicate.chain, hread, bind, Except.bind, hmore]

theorem ReadsBelow.disjunction (hpart : ReadsBelow n part (IsFactor v) fun _ => True) :
    ReadsBelow n (disjunction part) (IsDisjunction v)
      fun rest => (True ∧ keyword? "AND" rest = none) ∧ keyword? "OR" rest = none :=
  (hpart.chain fun _ _ _ => trivial).chain
    fun _ _ ht => ⟨trivial, keyword?_cons_eq_none (ht.ne (by decide))⟩

end

theorem readsBelow_factor (v : Vocabulary) (n : Nat) :
    ReadsBelow n (factor v n) (IsFactor v) fun _ => True := by
  -- what is negated or stands in parentheses is read from fewer tokens, after one that is taken off
  induction n with
  | zero => exact fun ts p rest h => absurd h (Nat.not_lt_zero _)
  | succ n ih =>
    intro ts p rest hn
    constructor
    · intro h
      unfold factor at h
      split at h
      next us hnot =>
        obtain ⟨t, rfl, ht⟩ := keyword?_eq_some_iff.mp hnot
        obtain ⟨⟨p', vs⟩, hp', heq⟩ := ok_of_bind_eq_ok h
        cases heq
        obtain ⟨used, rfl, hused, -⟩ := (ih us p' rest (by simpa using hn)).mp hp'
        exact ⟨t :: used, rfl, .negation ht hused, trivial⟩
      next us hnot =>
        obtain ⟨⟨p', vs⟩, hp', hend⟩ := ok_of_bind_eq_ok h
        obtain ⟨⟨u, ws⟩, hclosing, heq⟩ := ok_of_bind_eq_ok hend
        cases heq
        obtain rfl := expect_eq_ok_iff.mp hclosing
        obtain ⟨used, rfl, hused, -⟩ := (ih.disjunction us p _ (by simpa using hn)).mp hp'
        exact ⟨.opening :: (used ++ [.closing]), by simp, .group hused, trivial⟩
      next _ hnot =>
        obtain ⟨used, rfl, hused⟩ := isComparison_of_comparison h
        refine ⟨used, rfl, .comparison hused fun t ht hword => ?_, trivial⟩
        obtain ⟨x, us, o, rfl, -⟩ := hused.head
        obtain rfl := Option.some.inj ht
        rw [List.cons_append, keyword?_cons hword] at hnot
        cases hnot
    · rintro ⟨used, rfl, hused, -⟩
      unfold factor
      cases hused with
      | @negation t ts p ht hts =>
        have hread := (ih (ts ++ rest) p rest (by simpa using hn)).mpr ⟨ts, rfl, hts, trivial⟩
        rw [List.cons_append, keyword?_cons ht]
        simp only [hread, bind, Except.bind]
      | @group ts _ hts =>
        have hread := (ih.disjunction (ts ++ .closing :: rest) p (.closing :: rest)
          (by simp at hn ⊢; omega)).mpr ⟨ts, rfl, hts, ⟨trivial, rfl⟩, rfl⟩
        have heq : Token.opening :: (ts ++ [.closing]) ++ rest = .opening :: (ts ++ .closing :: rest) := by
          simp
        rw [heq]
        simp only [keyword?, hread, bind, Except.bind, expect, if_true]
      | comparison hts hnot =>
        have hread := comparison_of_isComparison hts rest
        obtain ⟨x, us, o, rfl, hx⟩ := hts.head
        rw [List.cons_append] at hread ⊢
        rw [keyword?_cons_eq_none (hnot x rfl)]
        split
        next heq => cases heq
        next heq =>
          cases heq
          exact absurd rfl hx.ne_opening
        next => exact hread

theorem isDisjunction_of_ofTokens (h : ofTokens v ts = .ok p) : IsDisjunction v ts p := by
  unfold ofTokens at h
  split at h
  · cases h
  · obtain ⟨⟨q, us⟩, hq, hend⟩ := ok_of_bind_eq_ok h
    split at hend
    next heq =>
      cases heq
      cases hend
      obtain ⟨used, rfl, hused, -⟩ :=
        ((readsBelow_factor v (ts.length + 1)).disjunction ts p [] (Nat.lt_succ_self _)).mp hq
      rwa [List.append_nil]
    · cases hend

theorem ofTokens_of_isDisjunction (h : IsDisjunction v ts p) : ofTokens v ts = .ok p := by
  have hread : disjunction (factor v (ts.length + 1)) ts = .ok (p, []) :=
    ((readsBelow_factor v (ts.length + 1)).disjunction ts p [] (Nat.lt_succ_self _)).mpr
      ⟨ts, (List.append_nil ts).symm, h, ⟨trivial, rfl⟩, rfl⟩
  unfold ofTokens
  cases ts with
  | nil => cases hread
  | cons t ts =>
    rw [hread]
    rfl

theorem IsComparison.isDisjunction (h : IsComparison v ts p)
    (hnot : ∀ t ∈ ts.head?, ¬IsWord "NOT" t) : IsDisjunction v ts p := by
  have hchain : IsConjunction v (ts ++ []) p := .intro (.comparison h hnot) .done
  have hchains : IsDisjunction v (ts ++ [] ++ []) p := .intro hchain .done
  rwa [List.append_nil, List.append_nil] at hchains

/-- The tokens are accepted if and only if the grammar derives them as a disjunction, and the predicate
is the one of the derivation. -/
theorem ofTokens_eq_ok_iff (v : Vocabulary) (ts : List Token) (p : Predicate) :
    ofTokens v ts = .ok p ↔ IsDisjunction v ts p :=
  ⟨isDisjunction_of_ofTokens, ofTokens_of_isDisjunction⟩

end Predicate

end FeatureLayer
