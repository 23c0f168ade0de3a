import FeatureLayer.Proofs.Number.Rounding
import FeatureLayer.Proofs.Predicate.Grammar
import FeatureLayer.Proofs.Predicate.Spelling

namespace FeatureLayer

namespace Comparison

def Relates (a b : Int) : Comparison → Prop
  | eq => a = b
  | ne => a ≠ b
  | lt => a < b
  | le => a ≤ b
  | gt => b < a
  | ge => b ≤ a

theorem accepts_compare_iff (c : Comparison) (a b : Int) :
    c.accepts (compare a b) = true ↔ c.Relates a b := by
  rcases Int.lt_trichotomy a b with h | rfl | h
  · rw [Int.compare_eq_lt.mpr h]
    cases c <;> simp [accepts, Relates] <;> omega
  · rw [Std.compare_self]
    cases c <;> simp [accepts, Relates]
  · rw [Int.compare_eq_gt.mpr h]
    cases c <;> simp [accepts, Relates] <;> omega

def spellings : Comparison → List String
  | ne => ["<>", "!="]
  | c => [c.text]

end Comparison

def comparisonText (written sign : String) (n : Int) : String :=
  written ++ " " ++ sign ++ " " ++ toString n

section

variable {v : Vocabulary} {name written sign : String} {o : Operand} {c : Comparison}

theorem Token.spelled_comparison (h : sign ∈ c.spellings) : Spelled sign.toList (comparison c) := by
  -- no sign is part of a longer one when a space follows
  have hspace : ∀ others : List Char, (∀ d ∈ others.head?, d = ' ') →
      others = [] ∨ ∃ rest, others = ' ' :: rest := by
    intro others hothers
    cases others with
    | nil => exact .inl rfl
    | cons d rest => exact .inr ⟨rest, by rw [hothers d rfl]⟩
  cases c <;> simp only [Comparison.spellings, Comparison.text, List.mem_cons, List.not_mem_nil,
    or_false] at h
  case ne =>
    rcases h with rfl | rfl
    · exact ⟨'<', ['>'], rfl, by decide, fun _ _ => rfl⟩
    · exact ⟨'!', ['='], rfl, by decide, fun _ _ => rfl⟩
  case eq => exact h ▸ ⟨'=', [], rfl, by decide, fun _ _ => rfl⟩
  case le => exact h ▸ ⟨'<', ['='], rfl, by decide, fun _ _ => rfl⟩
  case ge => exact h ▸ ⟨'>', ['='], rfl, by decide, fun _ _ => rfl⟩
  case lt =>
    subst h
    refine ⟨'<', [], rfl, by decide, fun others hothers => ?_⟩
    obtain rfl | ⟨rest, rfl⟩ := hspace others hothers <;> rfl
  case gt =>
    subst h
    refine ⟨'>', [], rfl, by decide, fun others hothers => ?_⟩
    obtain rfl | ⟨rest, rfl⟩ := hspace others hothers <;> rfl

theorem Token.tokenize_comparison {literal : String} {t : Token} (h : Writes name written)
    (hs : sign ∈ c.spellings) (ht : Spelled literal.toList t) :
    tokenize (written ++ " " ++ sign ++ " " ++ literal).toList = .ok [.name name, .comparison c, t] := by
  apply tokenize_of_spelled
  have htext : (written ++ " " ++ sign ++ " " ++ literal).toList =
      written.toList ++ ' ' :: (sign.toList ++ ' ' :: literal.toList) := by
    simp [String.toList_append]
  rw [htext]
  exact .more h.spelled (.more (spelled_comparison hs) (.one ht))

theorem Predicate.parse_comparison {literal : String} {t : Token} {x : Scalar}
    (h : Token.Writes name written) (hs : sign ∈ c.spellings) (ht : Token.Spelled literal.toList t)
    (hx : IsLiteral t x) (ho : IsOperand v (.name name) o)
    (hnot : Text.sameWord name "NOT" = false) :
    parse v (written ++ " " ++ sign ++ " " ++ literal) = .ok (.compare o c (.literal x)) := by
  have hcompare : IsComparison v [.name name, .comparison c, t] (.compare o c (.literal x)) :=
    .compare ho (.literal hx)
  rw [parse, Token.tokenize_comparison h hs ht]
  refine ofTokens_of_isDisjunction (hcompare.isDisjunction fun u hu => ?_)
  obtain rfl := Option.some.inj hu
  exact not_isWord hnot

theorem Token.tokenize_comparisonText (h : Writes name written) (hs : sign ∈ c.spellings) (n : Int) :
    tokenize (comparisonText written sign n).toList =
      .ok [.name name, .comparison c, .number (Binary.ofInt n)] :=
  tokenize_comparison h hs (spelled_integer n)

theorem Predicate.parse_comparisonText (h : Token.Writes name written) (hs : sign ∈ c.spellings)
    (ho : IsOperand v (.name name) o) (hnot : Text.sameWord name "NOT" = false) (n : Int) :
    parse v (comparisonText written sign n) =
      .ok (.compare o c (.literal (.number (Binary.ofInt n)))) :=
  parse_comparison h hs (Token.spelled_integer n) (.number _) ho hnot

end

/-- The record has the integer as its identifier, or in a field of 64 bits. -/
inductive Operand.Shows (fid : Int) (data : List Datum) (n : Int) : Operand → Prop
  | fid (h : fid = n) : Shows fid data n .fid
  | field {i : Nat} (h : data[i]? = some (.integer64 n)) : Shows fid data n (.field i)

namespace Predicate

variable {fid a b : Int} {data : List Datum} {o : Operand}

theorem scalarOf_of_shows (h : o.Shows fid data a) :
    scalarOf fid data o = .number (Binary.ofInt a) := by
  cases h with
  | fid h => rw [scalarOf, h]
  | field h => rw [scalarOf, h]; rfl

theorem holds_compare_iff (h : o.Shows fid data a) (c : Comparison) (ha : a.natAbs ≤ 2 ^ 63)
    (hb : b.natAbs ≤ 2 ^ 63) :
    (compare o c (.literal (.number (Binary.ofInt b)))).holds fid data = true ↔
      if (Binary.ofInt a : Double) = Binary.ofInt b then c.Relates b b else c.Relates a b := by
  have hcompare := Binary.compare?_ofInt_eq ha hb
  rw [holds, decide_eq_true_eq, eval, scalarOf_of_shows h]
  simp only [scalarOf, Scalar.compare?, hcompare, Option.map_some, Option.some.injEq]
  split
  · rw [← Comparison.accepts_compare_iff, Std.compare_self]
  · exact Comparison.accepts_compare_iff c a b

/-- A comparison of a name with an integer is accepted, and holds of a record just as the integers
compare; but those that have one double count as equal, and this is so of no others than such beyond
`2 ^ 53`, at most `1024` apart. -/
theorem integers_compare_as_doubles {v : Vocabulary} {name written sign : String} {c : Comparison}
    (hwritten : Token.Writes name written) (hsign : sign ∈ c.spellings) (ho : v.Names name o)
    (hnot : Text.sameWord name "NOT" = false) (hnull : Text.sameWord name "NULL" = false)
    (ha : a.natAbs ≤ 2 ^ 63) (hb : b.natAbs ≤ 2 ^ 63) :
    (∃ p, parse v (comparisonText written sign b) = .ok p ∧
      ∀ fid data, o.Shows fid data a → (p.holds fid data = true ↔
        if (Binary.ofInt a : Double) = Binary.ofInt b then c.Relates b b else c.Relates a b)) ∧
      ((Binary.ofInt a : Double) = Binary.ofInt b →
        a = b ∨ 2 ^ 53 ≤ a.natAbs ∧ 2 ^ 53 ≤ b.natAbs ∧ (a - b).natAbs ≤ 1024) :=
  ⟨⟨_, parse_comparisonText hwritten hsign (.named (not_isWord hnull) ho) hnot b,
    fun _ _ h => holds_compare_iff h c ha hb⟩, Binary.near_of_ofInt_eq ha hb⟩

theorem integers_compare_as_doubles_below_limit :
    let v : Vocabulary :=
      ⟨[⟨"n", .integer64, .none, 0, 0, true, false, none, false, none⟩], ""⟩
    ∃ p, parse v (comparisonText "\"N\"" "!=" 9007199254740991) = .ok p ∧
      p.holds 1 [.integer64 9007199254740992] = true := by
  intro v
  have ho : v.Names "N" (.field 0) := .field rfl (by decide) (by intro j hj; omega)
  have hsign : "!=" ∈ Comparison.ne.spellings := by decide
  obtain ⟨⟨p, hp, hholds⟩, hnear⟩ := integers_compare_as_doubles (a := 9007199254740992)
    (b := 9007199254740991) (.quoted (by decide)) hsign ho (by decide) (by decide) (by decide)
    (by decide)
  have hne : (Binary.ofInt 9007199254740992 : Double) ≠ Binary.ofInt 9007199254740991 := fun h => by
    have := hnear h
    omega
  refine ⟨p, hp, (hholds 1 _ (.field rfl)).mpr ?_⟩
  rw [if_neg hne]
  show (9007199254740992 : Int) ≠ 9007199254740991
  decide

/-- The predicate for one identifier holds of the one before it. -/
theorem neighbours_compare_equal :
    ((parse ⟨[], ""⟩ "FID = 9007199254740993").toOption.map fun p =>
      p.holds 9007199254740992 []) = some true := by
  decide +kernel

end Predicate

end FeatureLayer
