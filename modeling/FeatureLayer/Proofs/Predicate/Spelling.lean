import FeatureLayer.Predicate.Token
import FeatureLayer.Proofs.Number
import FeatureLayer.Proofs.Text

namespace FeatureLayer

namespace Token

open Text

theorem readAll_skip {c : Char} (hc : isWhiteSpace c = true) (fuel : Nat) (cs : List Char) :
    readAll (fuel + 1) (c :: cs) = readAll fuel cs := by
  simp [readAll, hc]

theorem readAll_cons {c : Char} {cs rest : List Char} {t : Token} {ts : List Token} {fuel : Nat}
    (hc : isWhiteSpace c = false) (hr : read c cs = .ok (t, rest))
    (hts : readAll fuel rest = .ok ts) : readAll (fuel + 1) (c :: cs) = .ok (t :: ts) := by
  simp [readAll, hc, hr, hts, bind, Except.bind]

theorem read_word {c : Char} {cs rest : List Char} (hc : (isAlphabetic c || c = '_') = true)
    (hcs : ∀ d ∈ cs, continuesWord d = true) (hrest : ∀ d ∈ rest.head?, d = ' ') :
    read c (cs ++ rest) = .ok (name (.ofList (c :: cs)), rest) := by
  have hspecial : ∀ d : Char, (isAlphabetic d || d = '_') = false → c ≠ d := by
    rintro d hd rfl
    exact Bool.false_ne_true (hd.symm.trans hc)
  have hdigit : c.isDigit = false := by
    rw [Bool.eq_false_iff]
    intro hd
    have hrange := toNat_of_isDigit hd
    rw [Bool.or_eq_true, decide_eq_true_eq, isAlphabetic, if_pos (by omega)] at hc
    rcases hc with hc | rfl
    · have := toNat_of_isAlpha hc
      omega
    · exact absurd hrange.2 (by decide)
  have hnumber : startsNumber c (cs ++ rest) = false := by
    simp [startsNumber, hdigit, hspecial '.' (by decide), hspecial '-' (by decide)]
  have htake : (cs ++ rest).takeWhile continuesWord = cs ∧
      (cs ++ rest).dropWhile continuesWord = rest := by
    rw [List.takeWhile_append_of_pos hcs, List.dropWhile_append_of_pos hcs]
    cases rest with
    | nil => exact ⟨List.append_nil cs, rfl⟩
    | cons d rest =>
      obtain rfl := hrest d rfl
      exact ⟨List.append_nil cs, rfl⟩
  unfold read
  simp only [hspecial '(' (by decide), hspecial ')' (by decide), hspecial ',' (by decide),
    hspecial '\'' (by decide), hspecial '"' (by decide), hspecial '=' (by decide),
    hspecial '!' (by decide), hspecial '<' (by decide), hspecial '>' (by decide), hnumber]
  simp [hc, htake]

theorem readNumber_digits (last : Char) {cs rest : List Char} (h : ∀ c ∈ cs, c.isDigit = true)
    (hrest : ∀ d ∈ rest.head?, d = ' ') : readNumber last (cs ++ rest) = (cs, rest) := by
  induction cs generalizing last with
  | nil =>
    cases rest with
    | nil => rfl
    | cons d rest =>
      obtain rfl := hrest d rfl
      rfl
  | cons c cs ih =>
    obtain ⟨hc, hcs⟩ := List.forall_mem_cons.mp h
    simp [readNumber, continuesNumber, hc, ih c hcs]

/-- The characters are read as the token wherever they end or a space follows. -/
def Spelled (cs : List Char) (t : Token) : Prop :=
  ∃ c rest, cs = c :: rest ∧ isWhiteSpace c = false ∧
    ∀ others, (∀ d ∈ others.head?, d = ' ') → read c (rest ++ others) = .ok (t, others)

inductive AllSpelled : List Char → List Token → Prop
  | one {cs : List Char} {t : Token} (h : Spelled cs t) : AllSpelled cs [t]
  | more {cs rest : List Char} {t : Token} {ts : List Token} (h : Spelled cs t)
      (hrest : AllSpelled rest ts) : AllSpelled (cs ++ ' ' :: rest) (t :: ts)

theorem readAll_of_spelled {cs : List Char} {ts : List Token} (h : AllSpelled cs ts) {fuel : Nat}
    (hfuel : cs.length ≤ fuel) : readAll fuel cs = .ok ts := by
  induction h generalizing fuel with
  | @one cs t h =>
    obtain ⟨c, rest, rfl, hspace, hread⟩ := h
    rw [List.length_cons] at hfuel
    obtain ⟨fuel, rfl⟩ : ∃ n, fuel = n + 1 := ⟨fuel - 1, by omega⟩
    have hend : read c rest = .ok (t, []) := by simpa using hread [] nofun
    exact readAll_cons hspace hend (by rw [readAll])
  | @more cs others t ts h _ ih =>
    obtain ⟨c, rest, rfl, hspace, hread⟩ := h
    simp only [List.cons_append, List.length_cons, List.length_append] at hfuel ⊢
    obtain ⟨fuel, rfl⟩ : ∃ n, fuel = n + 2 := ⟨fuel - 2, by omega⟩
    refine readAll_cons hspace (hread _ fun d hd => (Option.some.inj hd).symm) ?_
    rw [readAll_skip (by decide)]
    exact ih (by omega)

theorem tokenize_of_spelled {cs : List Char} {ts : List Token} (h : AllSpelled cs ts) :
    tokenize cs = .ok ts :=
  readAll_of_spelled h (Nat.le_refl _)

def isWord : List Char → Bool
  | c :: cs => (isAlphabetic c || c = '_') && cs.all continuesWord
  | [] => false

/-- How a name may be written: as it is if it is a word, or in quotes if there are none in it. -/
inductive Writes (s : String) : String → Prop
  | word (h : isWord s.toList = true) : Writes s s
  | quoted (h : '"' ∉ s.toList) : Writes s ("\"" ++ s ++ "\"")

theorem spelled_word {s : String} (h : isWord s.toList = true) : Spelled s.toList (name s) := by
  unfold isWord at h
  split at h
  next c cs hs =>
    rw [Bool.and_eq_true] at h
    refine ⟨c, cs, hs, ?_, fun others hothers => ?_⟩
    · obtain ⟨hc, -⟩ := h
      rw [Bool.or_eq_true, decide_eq_true_eq] at hc
      rcases hc with hc | rfl
      · exact isWhiteSpace_eq_false_of_isAlphabetic hc
      · decide
    · rw [read_word h.1 (List.all_eq_true.mp h.2) hothers, ← hs, String.ofList_toList]
  · cases h

theorem readName_quoted {cs rest : List Char} (h : '"' ∉ cs) :
    readName (cs ++ '"' :: rest) = some (cs, rest) := by
  have hname : ∀ d ∈ cs, decide (d ≠ '"') = true := fun d hd =>
    decide_eq_true fun heq => h (heq ▸ hd)
  rw [readName, List.dropWhile_append_of_pos hname, List.takeWhile_append_of_pos hname]
  simp

theorem spelled_quoted {s : String} (h : '"' ∉ s.toList) :
    Spelled ("\"" ++ s ++ "\"").toList (name s) := by
  refine ⟨'"', s.toList ++ ['"'], ?_, by decide, fun others _ => ?_⟩
  · rw [String.toList_append, String.toList_append]
    rfl
  · have htail : s.toList ++ ['"'] ++ others = s.toList ++ '"' :: others := by simp
    rw [htail]
    simp [read, readName_quoted h]

theorem Writes.spelled {s written : String} (h : Writes s written) :
    Spelled written.toList (name s) := by
  cases h with
  | word h => exact spelled_word h
  | quoted h => exact spelled_quoted h

theorem readText_quoted {cs rest : List Char} (h : '\'' ∉ cs) (hrest : rest.head? ≠ some '\'') :
    readText (cs ++ '\'' :: rest) = some (cs, rest) := by
  induction cs with
  | nil =>
    cases rest with
    | nil => rfl
    | cons d rest =>
      have hd : d ≠ '\'' := fun heq => hrest (congrArg some heq)
      simp [readText, hd]
  | cons c cs ih =>
    obtain ⟨hc, hcs⟩ := List.ne_and_not_mem_of_not_mem_cons h
    simp [readText, hc.symm, ih hcs]

theorem spelled_text {s : String} (h : '\'' ∉ s.toList) :
    Spelled ("'" ++ s ++ "'").toList (text s) := by
  refine ⟨'\'', s.toList ++ ['\''], ?_, by decide, fun others hothers => ?_⟩
  · rw [String.toList_append, String.toList_append]
    rfl
  · have hrest : others.head? ≠ some '\'' := fun heq => absurd (hothers _ heq) (by decide)
    have htail : s.toList ++ ['\''] ++ others = s.toList ++ '\'' :: others := by simp
    rw [htail]
    simp [read, readText_quoted h hrest]

theorem exists_digits (n : Int) : ∃ c ds, (toString n).toList = c :: ds ∧
    (c = '-' ∧ ds ≠ [] ∨ c.isDigit = true) ∧ ∀ d ∈ ds, d.isDigit = true := by
  have hdigits : ∀ d ∈ Nat.toDigits 10 n.natAbs, d.isDigit = true := fun d => isDigit_of_mem_digits
  have hne := Nat.toDigits_ne_nil (n := n.natAbs) (b := 10)
  rw [toList_toString]
  by_cases hn : n < 0
  · rw [if_pos hn]
    exact ⟨'-', _, rfl, .inl ⟨rfl, hne⟩, hdigits⟩
  · obtain ⟨d, ds, hds⟩ := List.exists_cons_of_ne_nil hne
    rw [hds] at hdigits
    obtain ⟨hd, hrest⟩ := List.forall_mem_cons.mp hdigits
    exact ⟨d, ds, by rw [if_neg hn, hds]; rfl, .inr hd, hrest⟩

theorem spelled_integer (n : Int) : Spelled (toString n).toList (number (Binary.ofInt n)) := by
  obtain ⟨c, ds, hcs, hc, hds⟩ := exists_digits n
  have hparse : (Binary.parse? (c :: ds) : Option Double) = some (Binary.ofInt n) :=
    hcs ▸ Binary.parse?_toString n
  have hspecial : ∀ x : Char, x ≠ '-' → x.isDigit = false → c ≠ x := by
    rintro x hx hxd rfl
    simp [hx, hxd] at hc
  have hspace : isWhiteSpace c = false := by
    rcases hc with ⟨rfl, -⟩ | hc
    · decide
    · have := toNat_of_isDigit hc
      exact isWhiteSpace_eq_false (by omega)
  refine ⟨c, ds, hcs, hspace, fun others hothers => ?_⟩
  have hstarts : startsNumber c (ds ++ others) = true := by
    rcases hc with ⟨rfl, hne⟩ | hc
    · obtain ⟨d, ds, rfl⟩ := List.exists_cons_of_ne_nil hne
      simp [startsNumber, hds d List.mem_cons_self]
    · simp [startsNumber, hc]
  unfold read
  simp [hspecial '(' (by decide) (by decide), hspecial ')' (by decide) (by decide),
    hspecial ',' (by decide) (by decide), hspecial '\'' (by decide) (by decide),
    hspecial '"' (by decide) (by decide), hspecial '=' (by decide) (by decide),
    hspecial '!' (by decide) (by decide), hspecial '<' (by decide) (by decide),
    hspecial '>' (by decide) (by decide), hstarts, readNumber_digits c hds hothers, hparse]

end Token

end FeatureLayer
