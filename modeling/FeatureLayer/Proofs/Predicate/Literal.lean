import FeatureLayer.Proofs.Predicate.Spelling

namespace FeatureLayer

namespace Token

open Text

theorem length_of_readText {cs s rest : List Char} (h : readText cs = some (s, rest)) :
    rest.length ≤ cs.length := by
  fun_induction readText cs generalizing s with
  | case1 cs ih =>
    obtain ⟨⟨s', rest'⟩, hread, heq⟩ := Option.map_eq_some_iff.mp h
    cases heq
    exact Nat.le_succ_of_le (Nat.le_succ_of_le (ih hread))
  | case2 cs =>
    cases h
    exact Nat.le_succ _
  | case3 c cs _ _ ih =>
    obtain ⟨⟨s', rest'⟩, hread, heq⟩ := Option.map_eq_some_iff.mp h
    cases heq
    exact Nat.le_succ_of_le (ih hread)
  | case4 => cases h

theorem length_of_readName {cs s rest : List Char} (h : readName cs = some (s, rest)) :
    rest.length ≤ cs.length := by
  unfold readName at h
  split at h
  next => cases h
  next heq =>
    cases h
    have := (List.dropWhile_suffix (l := cs) fun c => c ≠ '"').length_le
    rw [heq, List.length_cons] at this
    omega

theorem length_readNumber_le (last : Char) (cs : List Char) :
    (readNumber last cs).2.length ≤ cs.length := by
  induction cs generalizing last with
  | nil => exact Nat.le_refl _
  | cons c cs ih =>
    unfold readNumber
    split
    · exact Nat.le_succ_of_le (ih c)
    · exact Nat.le_refl _

theorem length_of_read {c : Char} {cs rest : List Char} {t : Token} :
    read c cs = .ok (t, rest) → rest.length ≤ cs.length := by
  have hself : ∀ {t'}, (Except.ok (t', cs) : Except SyntaxError (Token × List Char)) = .ok (t, rest) →
      rest.length ≤ cs.length := by
    rintro _ ⟨⟩
    exact Nat.le_refl _
  fun_cases read c cs
  case case4 hread =>
    rintro ⟨⟩
    exact length_of_readText hread
  case case6 hread =>
    rintro ⟨⟩
    exact length_of_readName hread
  case case9 =>
    rintro ⟨⟩
    rw [List.length_tail]
    omega
  case case10 | case11 | case13 =>
    rintro ⟨⟩
    exact Nat.le_succ _
  case case15 hread =>
    rintro ⟨⟩
    have := length_readNumber_le c cs
    rwa [hread] at this
  case case17 =>
    rintro ⟨⟩
    exact (List.dropWhile_suffix _).length_le
  case case5 | case7 | case16 | case18 => nofun
  all_goals exact hself

theorem readAll_congr {m n : Nat} {cs : List Char} (hm : cs.length ≤ m) (hn : cs.length ≤ n) :
    readAll m cs = readAll n cs := by
  induction m generalizing n cs with
  | zero =>
    obtain rfl := List.length_eq_zero_iff.mp (Nat.le_zero.mp hm)
    simp only [readAll]
  | succ m ih =>
    cases cs with
    | nil => simp only [readAll]
    | cons c cs =>
      obtain ⟨n, rfl⟩ : ∃ k, n = k + 1 := ⟨n - 1, by rw [List.length_cons] at hn; omega⟩
      have hm' : cs.length ≤ m := Nat.le_of_succ_le_succ hm
      have hn' : cs.length ≤ n := Nat.le_of_succ_le_succ hn
      rw [readAll, readAll]
      split
      · exact ih hm' hn'
      · cases hread : read c cs with
        | error e => rfl
        | ok r =>
          have hrest := length_of_read hread
          have heq := ih (Nat.le_trans hrest hm') (Nat.le_trans hrest hn')
          simp only [bind, Except.bind, heq]

theorem tokenize_cons {c : Char} {cs rest : List Char} {t : Token} (hc : isWhiteSpace c = false)
    (hread : read c cs = .ok (t, rest)) :
    tokenize (c :: cs) = (tokenize rest).map (t :: ·) := by
  have hrest : readAll cs.length rest = tokenize rest :=
    readAll_congr (length_of_read hread) (Nat.le_refl _)
  have hcons : tokenize (c :: cs) = (readAll cs.length rest).bind fun ts => .ok (t :: ts) := by
    rw [tokenize, List.length_cons, readAll, hc, hread]
    rfl
  rw [hcons, hrest]
  cases tokenize rest <;> rfl

/-- Text as it stands in predicates: in quotes, with each quote in it written twice. -/
def literal (s : String) : String :=
  "'" ++ .ofList (s.toList.flatMap fun c => if c = '\'' then ['\'', '\''] else [c]) ++ "'"

/-- The text of a literal ends at its own closing quote, since no quote in it stands alone. -/
theorem readText_doubled (cs : List Char) {rest : List Char} (hrest : rest.head? ≠ some '\'') :
    readText ((cs.flatMap fun c => if c = '\'' then ['\'', '\''] else [c]) ++ '\'' :: rest) =
      some (cs, rest) := by
  induction cs with
  | nil => exact readText_quoted List.not_mem_nil hrest
  | cons c cs ih =>
    rw [List.flatMap_cons]
    by_cases hc : c = '\''
    · subst hc
      simp [readText, ih]
    · simp [readText, hc, ih]

/-- A literal is one token whatever text it holds, and takes nothing from what follows, unless that goes
on with a quote. -/
theorem tokenize_literal (s : String) {rest : String} (hrest : rest.toList.head? ≠ some '\'') :
    tokenize (literal s ++ rest).toList = (tokenize rest.toList).map (text s :: ·) := by
  have hread := readText_doubled s.toList hrest
  generalize hds : (s.toList.flatMap fun c => if c = '\'' then ['\'', '\''] else [c]) = ds at hread
  have hlist : (literal s ++ rest).toList = '\'' :: (ds ++ '\'' :: rest.toList) := by
    rw [literal, hds]
    simp [String.toList_append]
  have htoken : read '\'' (ds ++ '\'' :: rest.toList) = .ok (text s, rest.toList) := by
    simp [read, hread]
  rw [hlist]
  exact tokenize_cons (by decide) htoken

theorem tokenize_literal_of_quotes :
    " OR b".toList.head? ≠ some '\'' ∧ "?".toList.head? ≠ some '\'' ∧
      tokenize (literal "' OR '' = '" ++ " OR b").toList =
        .ok [text "' OR '' = '", name "OR", name "b"] ∧
      tokenize (literal "' OR '' = '" ++ "?").toList = .error (.badCharacter '?') := by
  have hword : " OR b".toList.head? ≠ some '\'' := by decide
  have hcharacter : "?".toList.head? ≠ some '\'' := by decide
  refine ⟨hword, hcharacter, ?_, ?_⟩
  · rw [tokenize_literal _ hword]
    decide +kernel
  · rw [tokenize_literal _ hcharacter]
    decide +kernel

end Token

end FeatureLayer
