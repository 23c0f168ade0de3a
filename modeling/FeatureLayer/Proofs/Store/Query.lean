import Mathlib.Data.List.TakeWhile
import FeatureLayer.Proofs.Store.Work

namespace FeatureLayer

namespace Text

variable {xs cs : List Char} {c : Char}

def trimEnd (cs : List Char) : List Char := (cs.reverse.dropWhile isWhiteSpace).reverse

theorem trimEnd_append (ys : List Char) (h : xs.getLast? = some c) (hc : isWhiteSpace c = false) :
    trimEnd (xs ++ ys) = xs ++ trimEnd ys := by
  have hkept : xs.reverse.dropWhile isWhiteSpace = xs.reverse := by
    rw [← List.head?_reverse] at h
    obtain ⟨cs, hcs⟩ := List.head?_eq_some_iff.mp h
    rw [hcs, List.dropWhile_cons_of_neg (by simp [hc])]
  rw [trimEnd, List.reverse_append, List.dropWhile_append, hkept]
  split
  next hblank => simp [trimEnd, List.isEmpty_iff.mp hblank]
  next => simp [trimEnd]

theorem trimEnd_of_getLast? (h : cs.getLast? = some c) (hc : isWhiteSpace c = false) :
    trimEnd cs = cs := by
  have happend := trimEnd_append [] h hc
  rwa [List.append_nil, show trimEnd [] = [] from rfl, List.append_nil] at happend

theorem getLast?_trim {cs : List Char} (h : trim cs ≠ []) : ∃ c, (trim cs).getLast? = some c ∧ isWhiteSpace c = false := by
  have hne : (cs.dropWhile isWhiteSpace).reverse.dropWhile isWhiteSpace ≠ [] := by
    simpa [trim] using h
  refine ⟨_, ?_, List.head_dropWhile_not isWhiteSpace hne⟩
  rw [trim, List.getLast?_reverse, List.head?_eq_some_head hne]

theorem trimEnd_eq (cs : List Char) :
    ∃ before, trimEnd cs = before ++ trim cs ∧ (∀ c ∈ before, isWhiteSpace c = true) ∧
      (trim cs = [] → before = []) := by
  by_cases h : trim cs = []
  · refine ⟨[], ?_, nofun, fun _ => rfl⟩
    have hnone : (cs.dropWhile isWhiteSpace).reverse.dropWhile isWhiteSpace = [] := by
      simpa [trim] using h
    rw [h, List.append_nil, trimEnd, ← List.takeWhile_append_dropWhile (p := isWhiteSpace) (l := cs),
      List.reverse_append, List.dropWhile_append, hnone, List.isEmpty_nil, if_pos rfl,
      List.reverse_eq_nil_iff, List.dropWhile_eq_nil_iff]
    exact fun c hc => List.mem_takeWhile_imp (List.mem_reverse.mp hc)
  · refine ⟨cs.takeWhile isWhiteSpace, ?_, fun c hc => List.mem_takeWhile_imp hc, fun h' => absurd h' h⟩
    have hsome : ((cs.dropWhile isWhiteSpace).reverse.dropWhile isWhiteSpace).isEmpty = false := by
      simpa [trim] using h
    rw [trimEnd]
    conv => lhs; rw [← List.takeWhile_append_dropWhile (p := isWhiteSpace) (l := cs)]
    rw [List.reverse_append, List.dropWhile_append, hsome]
    simp [trim]

theorem trim_eq_self {d : Char} (hc : isWhiteSpace c = false) (hlast : (c :: cs).getLast? = some d)
    (hd : isWhiteSpace d = false) : trim (c :: cs) = c :: cs := by
  rw [trim, List.dropWhile_cons_of_neg (by simp [hc])]
  exact trimEnd_of_getLast? hlast hd

theorem trim_append_of_blank {before : List Char} (h : ∀ c ∈ before, isWhiteSpace c = true)
    (cs : List Char) : trim (before ++ cs) = trim cs := by
  rw [trim, List.dropWhile_append_of_pos h]
  rfl

theorem trim_trim (cs : List Char) : trim (trim cs) = trim cs := by
  have hhead : cs.dropWhile isWhiteSpace = [] ∨
      ∃ c rest, cs.dropWhile isWhiteSpace = c :: rest ∧ isWhiteSpace c = false := by
    cases hd : cs.dropWhile isWhiteSpace with
    | nil => exact .inl rfl
    | cons c rest =>
      have hc := List.head_dropWhile_not isWhiteSpace (l := cs) (by rw [hd]; exact List.cons_ne_nil _ _)
      exact .inr ⟨c, rest, rfl, by simpa [hd] using hc⟩
  rcases hhead with hnil | ⟨c, rest, hcons, hc⟩
  · have hnone : trim cs = [] := by rw [trim, hnil]; rfl
    rw [hnone]
    rfl
  · have htrim : trim cs = c :: trimEnd rest := by
      show trimEnd (cs.dropWhile isWhiteSpace) = _
      rw [hcons]
      exact trimEnd_append rest (List.getLast?_singleton : [c].getLast? = some c) hc
    obtain ⟨d, hd, hspace⟩ := getLast?_trim (by rw [htrim]; exact List.cons_ne_nil _ _)
    rw [htrim] at hd ⊢
    exact trim_eq_self hc hd hspace

end Text

namespace Query

variable {w rest cs : List Char} {c : Char}

theorem word_append (hw : w.all (!Text.isWhiteSpace ·) = true) (hc : Text.isWhiteSpace c = true) :
    word (w ++ c :: rest) = (w, some rest) := by
  have hpos := List.all_eq_true.mp hw
  have hdrop : (w ++ c :: rest).dropWhile (!Text.isWhiteSpace ·) = c :: rest := by
    rw [List.dropWhile_append_of_pos hpos, List.dropWhile_cons_of_neg (by simp [hc])]
  have htake : (w ++ c :: rest).takeWhile (!Text.isWhiteSpace ·) = w := by
    rw [List.takeWhile_append_of_pos hpos, List.takeWhile_cons_of_neg (by simp [hc]),
      List.append_nil]
  rw [word, hdrop, htake]

theorem strip_of_notMem {p : Char → Bool} (h : ∀ x ∈ cs, p x = false) : strip p cs = cs := by
  have hnone : ∀ cs : List Char, (∀ x ∈ cs, p x = false) → cs.dropWhile p = cs := by
    intro cs h
    cases cs with
    | nil => rfl
    | cons x cs => exact List.dropWhile_cons_of_neg (by simp [h x List.mem_cons_self])
  rw [strip, hnone cs h, hnone _ fun x hx => h x (List.mem_reverse.mp hx), List.reverse_reverse]

end Query

def Query.selectText (table predicate : String) : String :=
  "SELECT * FROM " ++ table ++ " WHERE " ++ predicate

/-- A name of a table that stands for itself in a query. -/
structure Query.PlainTable (name : String) : Prop where
  ne_nil : name.toList ≠ []
  plain : ∀ c ∈ name.toList, Text.isWhiteSpace c = false ∧ c ≠ '"'

namespace Query

variable {name predicate : String}

theorem selectText_toList (name predicate : String) :
    (selectText name predicate).toList = "SELECT".toList ++ ' ' :: (['*'] ++ ' ' :: ("FROM".toList ++
      ' ' :: (name.toList ++ ' ' :: ("WHERE".toList ++ ' ' :: predicate.toList)))) := by
  show ("SELECT * FROM " ++ name ++ " WHERE " ++ predicate).toList = _
  simp [String.toList_append]

theorem dropWhile_semicolons {cs : List Char} (h : cs.getLast? ≠ some ';') :
    (cs.reverse.dropWhile (· = ';')).reverse = cs := by
  rw [← List.head?_reverse] at h
  cases hcs : cs.reverse with
  | nil => exact (List.reverse_eq_nil_iff.mp hcs).symm
  | cons c rest =>
    rw [hcs, List.head?_cons] at h
    rw [List.dropWhile_cons_of_neg (by simpa using fun hc => h (congrArg some hc)), ← hcs,
      List.reverse_reverse]

/-- The query for the records that meet a predicate is read as that, whatever white space is around the
predicate. -/
theorem parse?_selectText (ht : PlainTable name)
    (hp : (Text.trim predicate.toList).getLast? ≠ some ';') :
    parse? (selectText name predicate) =
      some ⟨name, some (.ofList (Text.trim predicate.toList))⟩ := by
  obtain ⟨before, hend, hblank, hnone⟩ := Text.trimEnd_eq (' ' :: predicate.toList)
  rw [show Text.trim (' ' :: predicate.toList) = Text.trim predicate.toList from rfl] at hend hnone
  have hlast := fun h => Text.getLast?_trim (h : Text.trim predicate.toList ≠ [])
  have htwice := (Text.trim_append_of_blank hblank _).trans (Text.trim_trim predicate.toList)
  generalize htext : Text.trim predicate.toList = text at hp hend hnone hlast htwice ⊢
  generalize htail : "WHERE".toList ++ (before ++ text) = tail
  -- what ends the statement is no white space and no semicolon
  obtain ⟨d, hd, hspace, hsemicolon⟩ : ∃ d, tail.getLast? = some d ∧
      Text.isWhiteSpace d = false ∧ d ≠ ';' := by
    rw [← htail, List.getLast?_append, List.getLast?_append]
    by_cases hnil : text = []
    · rw [hnone hnil, hnil]
      exact ⟨'E', rfl, by decide, by decide⟩
    · obtain ⟨d, hd, hspace⟩ := hlast hnil
      exact ⟨d, by rw [hd]; rfl, hspace, fun h => hp (h ▸ hd)⟩
  have hends : ∀ cs, (cs ++ ' ' :: tail).getLast? = some d := fun cs => by
    rw [List.getLast?_append, List.getLast?_cons, hd]
    rfl
  have hstatement : Text.trim (selectText name predicate).toList =
      "SELECT".toList ++ ' ' :: (['*'] ++ ' ' :: ("FROM".toList ++ ' ' :: (name.toList ++ ' ' :: tail))) := by
    let start := "SELECT".toList ++ ' ' :: (['*'] ++ ' ' ::
      ("FROM".toList ++ ' ' :: (name.toList ++ ' ' :: "WHERE".toList)))
    have hsplit : (selectText name predicate).toList = start ++ ' ' :: predicate.toList := by
      simp [selectText_toList, start]
    have hstart : start.getLast? = some 'E' := by
      simp only [start, List.getLast?_append, List.getLast?_cons]
      rfl
    rw [hsplit]
    refine (Text.trimEnd_append _ hstart (by decide)).trans ?_
    rw [hend, ← htail]
    simp [start]
  have htable : Text.trim (name.toList ++ ' ' :: tail) = name.toList ++ ' ' :: tail := by
    obtain ⟨c, cs, hcs⟩ := List.exists_cons_of_ne_nil ht.ne_nil
    have hc := (ht.plain c (by rw [hcs]; exact List.mem_cons_self)).1
    have hname := hends name.toList
    rw [hcs] at hname ⊢
    exact Text.trim_eq_self hc hname hspace
  have hquotes : strip (· = '"') name.toList = name.toList :=
    strip_of_notMem fun x hx => decide_eq_false (ht.plain x hx).2
  have hwhere : tail.dropWhile Text.isWhiteSpace = tail := by rw [← htail]; rfl
  have htake : tail.take 5 = "WHERE".toList := by rw [← htail]; rfl
  have hdrop : tail.drop 5 = before ++ text := by rw [← htail]; rfl
  have hsemicolons : ∀ cs : List Char, cs.getLast? = some d →
      (cs.reverse.dropWhile (· = ';')).reverse = cs := fun cs h =>
    dropWhile_semicolons (by rw [h]; exact fun h => hsemicolon (Option.some.inj h))
  have hword : ∀ w rest : List Char, w.all (!Text.isWhiteSpace ·) = true →
      word (w ++ ' ' :: rest) = (w, some rest) := fun _ _ h => word_append h (by decide)
  have hselect := fun rest => hword "SELECT".toList rest rfl
  have hstar := fun rest => hword ['*'] rest rfl
  have hfrom := fun rest => hword "FROM".toList rest rfl
  have hname := hword name.toList tail
    (List.all_eq_true.mpr fun x hx => by rw [(ht.plain x hx).1]; rfl)
  have hwords : (!isWord "SELECT".toList "SELECT" || decide (['*'] ≠ ['*']) ||
      !isWord "FROM".toList "FROM") = false := by decide +kernel
  have hkeyword : isWord "WHERE".toList "WHERE" = true := by decide +kernel
  unfold parse?
  rw [hstatement, hsemicolons _ (by simp only [List.getLast?_append, List.getLast?_cons, hd]; rfl)]
  simp only [hselect, hstar, hfrom, Option.bind_eq_bind, Option.bind_some, hwords, Bool.false_eq_true,
    if_false, htable, hname, hwhere, htake, hkeyword, if_true, hdrop, htwice, hquotes, String.ofList_toList]

end Query

namespace LayerSource

variable {name : String}

theorem detect_selectText (name predicate : String) :
    detect (Query.selectText name predicate) = .query (Query.selectText name predicate) := by
  rw [detect, Query.selectText_toList]
  rfl

theorem detect_plain (h : Query.PlainTable name) : detect name = .name name := by
  have hnone : (name.toList.drop 6).head?.any Text.isWhiteSpace = false := by
    cases hc : (name.toList.drop 6).head? with
    | none => rfl
    | some c => exact (h.plain c (List.mem_of_mem_drop (List.mem_of_head? hc))).1
  have hkept : name.toList.dropWhile Text.isWhiteSpace = name.toList := by
    obtain ⟨c, cs, hcs⟩ := List.exists_cons_of_ne_nil h.ne_nil
    rw [hcs]
    exact List.dropWhile_cons_of_neg (by simp [(h.plain c (by rw [hcs]; exact List.mem_cons_self)).1])
  simp only [detect, hkept, hnone, Bool.and_false, Bool.false_eq_true, if_false]

end LayerSource

end FeatureLayer
