import FeatureLayer.Predicate.Basic
import Mathlib.Data.List.Forall2
/-!
The texts that a pattern matches are those that fall into pieces, one for each character of the pattern
and in their order.
-/

namespace FeatureLayer

namespace Pattern

variable {κ : Type} {lower : Char → κ} {p : Char} {ps qs text : List Char}

/-- The pieces of text that a character of a pattern takes. -/
inductive Takes (lower : Char → κ) : Char → List Char → Prop
  | any (piece : List Char) : Takes lower '%' piece
  | one (c : Char) : Takes lower '_' [c]
  | same {p c : Char} (hany : p ≠ '%') (hone : p ≠ '_') (h : lower c = lower p) : Takes lower p [c]

/-- The text falls into pieces that the characters of the pattern take in turn. -/
def Matches (lower : Char → κ) (pattern text : List Char) : Prop :=
  ∃ pieces, List.Forall₂ (Takes lower) pattern pieces ∧ pieces.flatten = text

theorem matches_nil_iff : Matches lower [] text ↔ text = [] := by
  constructor
  · rintro ⟨pieces, hpieces, rfl⟩
    cases hpieces
    rfl
  · rintro rfl
    exact ⟨[], .nil, rfl⟩

theorem matches_cons_iff :
    Matches lower (p :: ps) text ↔
      ∃ piece rest, text = piece ++ rest ∧ Takes lower p piece ∧ Matches lower ps rest := by
  constructor
  · rintro ⟨pieces, hpieces, rfl⟩
    cases hpieces with
    | cons htakes hpieces => exact ⟨_, _, List.flatten_cons, htakes, _, hpieces, rfl⟩
  · rintro ⟨piece, rest, rfl, htakes, pieces, hpieces, rfl⟩
    exact ⟨piece :: pieces, .cons htakes hpieces, List.flatten_cons⟩

theorem matches_append_iff :
    Matches lower (ps ++ qs) text ↔
      ∃ u v, text = u ++ v ∧ Matches lower ps u ∧ Matches lower qs v := by
  induction ps generalizing text with
  | nil =>
    constructor
    · exact fun h => ⟨[], text, rfl, matches_nil_iff.mpr rfl, h⟩
    · rintro ⟨u, v, rfl, hu, hv⟩
      obtain rfl := matches_nil_iff.mp hu
      exact hv
  | cons p ps ih =>
    rw [List.cons_append, matches_cons_iff]
    constructor
    · rintro ⟨piece, rest, rfl, htakes, hrest⟩
      obtain ⟨u, v, rfl, hu, hv⟩ := ih.mp hrest
      exact ⟨piece ++ u, v, (List.append_assoc _ _ _).symm,
        matches_cons_iff.mpr ⟨piece, u, rfl, htakes, hu⟩, hv⟩
    · rintro ⟨u, v, rfl, hu, hv⟩
      obtain ⟨piece, rest, rfl, htakes, hrest⟩ := matches_cons_iff.mp hu
      exact ⟨piece, rest ++ v, List.append_assoc _ _ _, htakes, ih.mpr ⟨rest, v, rfl, hrest, hv⟩⟩

theorem matches_run (n : Nat) (text : List Char) :
    Matches lower (List.replicate (n + 1) '%') text := by
  induction n with
  | zero => exact ⟨[text], .cons (.any text) .nil, List.append_nil text⟩
  | succ n ih => exact matches_cons_iff.mpr ⟨[], text, rfl, .any [], ih⟩

theorem matches_run_iff (n : Nat) :
    Matches lower (ps ++ List.replicate (n + 1) '%' ++ qs) text ↔
      Matches lower (ps ++ '%' :: qs) text := by
  have hrun : ∀ t, Matches lower (List.replicate (n + 1) '%') t ↔ Matches lower ['%'] t := fun t =>
    iff_of_true (matches_run n t) (matches_run 0 t)
  rw [List.append_cons]
  simp only [matches_append_iff, hrun]

end Pattern

section

open Pattern

variable {κ : Type} [DecidableEq κ] {lower : Char → κ} {p c : Char} {ps text : List Char}

theorem anyRest_eq_true_iff {α : Type} {q : List α → Bool} {as : List α} :
    anyRest q as = true ↔ ∃ piece rest, as = piece ++ rest ∧ q rest = true := by
  induction as with
  | nil =>
    constructor
    · exact fun h => ⟨[], [], rfl, h⟩
    · rintro ⟨piece, rest, hsplit, h⟩
      obtain ⟨-, rfl⟩ := List.append_eq_nil_iff.mp hsplit.symm
      exact h
  | cons a as ih =>
    rw [anyRest, Bool.or_eq_true, ih]
    constructor
    · rintro (h | ⟨piece, rest, rfl, h⟩)
      · exact ⟨[], a :: as, rfl, h⟩
      · exact ⟨a :: piece, rest, rfl, h⟩
    · rintro ⟨piece, rest, hsplit, h⟩
      cases piece with
      | nil => exact .inl (hsplit ▸ h)
      | cons b piece => exact .inr ⟨piece, rest, (List.cons.inj hsplit).2, h⟩

theorem like_nil_of_ne (hany : p ≠ '%') : like lower (p :: ps) [] = false := by
  by_cases hone : p = '_'
  · subst hone
    rfl
  · rw [like]
    · exact hany
    · exact hone

theorem like_cons_of_ne (hany : p ≠ '%') (hone : p ≠ '_') :
    like lower (p :: ps) (c :: text) = (decide (lower c = lower p) && like lower ps text) := by
  rw [like]
  · exact hany
  · exact hone

/-- The first character of a pattern takes a piece at the front, and the other characters the rest. -/
theorem like_cons_iff :
    like lower (p :: ps) text = true ↔
      ∃ piece rest, text = piece ++ rest ∧ Takes lower p piece ∧ like lower ps rest = true := by
  by_cases hany : p = '%'
  · subst hany
    rw [like, anyRest_eq_true_iff]
    exact ⟨fun ⟨piece, rest, hsplit, h⟩ => ⟨piece, rest, hsplit, .any piece, h⟩,
      fun ⟨piece, rest, hsplit, _, h⟩ => ⟨piece, rest, hsplit, h⟩⟩
  · cases text with
    | nil =>
      rw [like_nil_of_ne hany]
      refine iff_of_false Bool.false_ne_true ?_
      rintro ⟨piece, rest, hsplit, htakes, -⟩
      obtain ⟨rfl, -⟩ := List.append_eq_nil_iff.mp hsplit.symm
      cases htakes
      exact hany rfl
    | cons c text =>
      by_cases hone : p = '_'
      · subst hone
        constructor
        · exact fun h => ⟨[c], text, rfl, .one c, h⟩
        · rintro ⟨piece, rest, hsplit, htakes, h⟩
          cases htakes with
          | one d => exact (List.cons.inj hsplit).2 ▸ h
          | same _ hone => exact absurd rfl hone
      · rw [like_cons_of_ne hany hone, Bool.and_eq_true, decide_eq_true_eq]
        constructor
        · exact fun ⟨hc, h⟩ => ⟨[c], text, rfl, .same hany hone hc, h⟩
        · rintro ⟨piece, rest, hsplit, htakes, h⟩
          cases htakes with
          | any => exact absurd rfl hany
          | one => exact absurd rfl hone
          | same _ _ hd =>
            obtain ⟨rfl, rfl⟩ := List.cons.inj hsplit
            exact ⟨hd, h⟩

theorem like_eq_true_iff : like lower ps text = true ↔ Matches lower ps text := by
  induction ps generalizing text with
  | nil => rw [like, List.isEmpty_iff, matches_nil_iff]
  | cons p ps ih => simp only [like_cons_iff, matches_cons_iff, ih]

end

def Scalar.shown? : Scalar → Option String
  | .null => none
  | .text s => some s
  | .number v => some v.text

namespace Predicate

theorem eval_like_eq (fid : Int) (data : List Datum) (x : Operand) (pattern : String)
    (negated : Bool) :
    (like x pattern negated).eval fid data =
      (scalarOf fid data x).shown?.map fun s => likeText s pattern != negated := by
  rw [eval]
  cases scalarOf fid data x <;> rfl

theorem holds_like_iff (fid : Int) (data : List Datum) (x : Operand) (pattern : String)
    (negated : Bool) :
    (like x pattern negated).holds fid data = true ↔
      ∃ s, (scalarOf fid data x).shown? = some s ∧
        (Pattern.Matches Text.lower pattern.toList s.toList ↔ negated = false) := by
  rw [holds, decide_eq_true_eq, eval_like_eq, Option.map_eq_some_iff]
  refine exists_congr fun s => and_congr_right fun _ => ?_
  rw [← like_eq_true_iff, likeText]
  cases FeatureLayer.like Text.lower pattern.toList s.toList <;> cases negated <;> simp

end Predicate

/-- A text matches a pattern just when it falls into pieces that the characters of the pattern take: any
piece for `%`, one character for `_`, and for each other character one that is the same in lower case.
So what matches a pattern in two parts falls into what matches the parts, and a run of `%` is as good as
one. A predicate holds of a record by this for the text that the record shows. -/
theorem matching_splits_into_pieces {κ : Type} [DecidableEq κ] (lower : Char → κ) :
    (∀ pattern text, like lower pattern text = true ↔
      ∃ pieces, List.Forall₂ (Pattern.Takes lower) pattern pieces ∧ pieces.flatten = text) ∧
    (∀ ps qs text, like lower (ps ++ qs) text = true ↔
      ∃ u v, text = u ++ v ∧ like lower ps u = true ∧ like lower qs v = true) ∧
    (∀ ps qs n text, like lower (ps ++ List.replicate (n + 1) '%' ++ qs) text =
      like lower (ps ++ '%' :: qs) text) ∧
    ∀ fid data x pattern negated, (Predicate.like x pattern negated).holds fid data = true ↔
      ∃ s, (Predicate.scalarOf fid data x).shown? = some s ∧
        ((∃ pieces, List.Forall₂ (Pattern.Takes Text.lower) pattern.toList pieces ∧
          pieces.flatten = s.toList) ↔ negated = false) := by
  refine ⟨fun _ _ => like_eq_true_iff, fun ps qs text => ?_, fun ps qs n text => ?_,
    Predicate.holds_like_iff⟩
  · simp only [like_eq_true_iff]
    exact Pattern.matches_append_iff
  · rw [Bool.eq_iff_iff, like_eq_true_iff, like_eq_true_iff]
    exact Pattern.matches_run_iff n

end FeatureLayer
