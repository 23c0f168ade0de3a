import FeatureLayer.Predicate.Basic

namespace FeatureLayer

namespace Kleene

variable {a b c : Option Bool}

theorem or_false (a : Option Bool) : or a (some false) = a := by
  rcases a with _ | _ | _ <;> rfl

theorem or_assoc (a b c : Option Bool) : or (or a b) c = or a (or b c) := by
  rcases a with _ | _ | _ <;> rcases b with _ | _ | _ <;> rcases c with _ | _ | _ <;> rfl

theorem not_and (a b : Option Bool) : (and a b).map (!·) = or (a.map (!·)) (b.map (!·)) := by
  rcases a with _ | _ | _ <;> rcases b with _ | _ | _ <;> rfl

theorem map_or {α : Type} (x : Option α) (p q : α → Bool) :
    or (x.map p) (x.map q) = x.map fun a => p a || q a := by
  cases x with
  | none => rfl
  | some a =>
    simp only [Option.map_some]
    cases p a <;> cases q a <;> rfl

end Kleene

theorem Binary.compare?_swap {F : Format} (x y : Binary F) :
    y.compare? x = (x.compare? y).map (·.swap) := by
  unfold compare?
  rw [Bool.or_comm]
  split
  · rfl
  · rw [Option.map_some, ← Std.OrientedCmp.eq_swap]

theorem compareTexts_swap (as bs : List Char) : compareTexts bs as = (compareTexts as bs).swap := by
  induction as generalizing bs with
  | nil => cases bs <;> rfl
  | cons a as ih =>
    cases bs with
    | nil => rfl
    | cons b bs =>
      rw [compareTexts, compareTexts]
      rcases Nat.lt_trichotomy a.toNat b.toNat with h | h | h
      · rw [if_neg (Nat.lt_asymm h), if_pos h, if_pos h]
        rfl
      · rw [h, if_neg (Nat.lt_irrefl _), if_neg (Nat.lt_irrefl _), ih]
        simp only [if_neg (Nat.lt_irrefl _)]
      · rw [if_pos h, if_neg (Nat.lt_asymm h), if_pos h]
        rfl

namespace Scalar

theorem compare?_swap (x y : Scalar) : y.compare? x = (x.compare? y).map (·.swap) := by
  have htwice : ∀ c : Option Ordering, (c.map (·.swap)).map (·.swap) = c := fun c => by
    simp only [Option.map_map, Function.comp_def, Ordering.swap_swap, Option.map_id']
  cases x with
  | null => cases y <;> rfl
  | number a =>
    cases y with
    | null => rfl
    | number b => exact Binary.compare?_swap a b
    | text b =>
      simp only [compare?]
      cases numberOf? b with
      | none => rfl
      | some n => exact (htwice (n.compare? a)).symm
  | text a =>
    cases y with
    | null => rfl
    | number b =>
      simp only [compare?]
      cases numberOf? a <;> rfl
    | text b => exact congrArg some (compareTexts_swap a.toList b.toList)

end Scalar

namespace Predicate

theorem isAmong_cons (s v : Scalar) (vs : List Scalar) :
    isAmong s (v :: vs) = Kleene.or ((s.compare? v).map Comparison.eq.accepts) (isAmong s vs) := by
  unfold isAmong
  rw [List.any_cons, List.any_cons]
  generalize vs.any (fun v => s.compare? v == some .eq) = equal
  generalize vs.any (fun v => (s.compare? v).isNone) = unknown
  rcases s.compare? v with _ | _ | _ | _ <;> cases equal <;> cases unknown <;> rfl

theorem isAmong_null (v : Scalar) (vs : List Scalar) : isAmong .null (v :: vs) = none := by
  induction vs generalizing v with
  | nil => rfl
  | cons w ws ih =>
    rw [isAmong_cons, ih]
    rfl

/-- The alternatives, joined to the left, that an operand equals one of the values. -/
def equalsOneOf (x : Operand) (v : Scalar) (vs : List Scalar) : Predicate :=
  vs.foldl (fun p w => .or p (.compare x .eq (.literal w))) (.compare x .eq (.literal v))

variable {fid : Int} {data : List Datum}

theorem eval_compare (x : Operand) (c : Comparison) (y : Operand) :
    (compare x c y).eval fid data =
      ((scalarOf fid data x).compare? (scalarOf fid data y)).map c.accepts :=
  rfl

theorem eval_like (x : Operand) (pattern : String) (negated : Bool) :
    (like x pattern negated).eval fid data =
      match scalarOf fid data x with
      | .null => none
      | .text s => some (likeText s pattern != negated)
      | .number v => some (likeText v.text pattern != negated) :=
  rfl

theorem eval_among (x : Operand) (vs : List Scalar) (negated : Bool) :
    (among x vs negated).eval fid data =
      if (scalarOf fid data x).isNull then none
      else (isAmong (scalarOf fid data x) vs).map (· != negated) :=
  rfl

theorem eval_not (p : Predicate) : (not p).eval fid data = (p.eval fid data).map (!·) := rfl

theorem eval_or (p q : Predicate) :
    (or p q).eval fid data = Kleene.or (p.eval fid data) (q.eval fid data) :=
  rfl

theorem eval_foldl_or (x : Operand) (p : Predicate) (vs : List Scalar) :
    (vs.foldl (fun p w => .or p (.compare x .eq (.literal w))) p).eval fid data =
      Kleene.or (p.eval fid data) (isAmong (scalarOf fid data x) vs) := by
  induction vs generalizing p with
  | nil => exact (Kleene.or_false _).symm
  | cons v vs ih =>
    rw [List.foldl_cons, ih, isAmong_cons, ← Kleene.or_assoc]
    rfl

theorem eval_equalsOneOf (x : Operand) (v : Scalar) (vs : List Scalar) :
    (equalsOneOf x v vs).eval fid data = isAmong (scalarOf fid data x) (v :: vs) := by
  rw [equalsOneOf, eval_foldl_or, isAmong_cons]
  rfl

theorem eval_among_cons (x : Operand) (v : Scalar) (vs : List Scalar) :
    (among x (v :: vs) false).eval fid data = isAmong (scalarOf fid data x) (v :: vs) := by
  rw [eval_among]
  split
  next hnull =>
    cases hs : scalarOf fid data x with
    | null => exact (isAmong_null v vs).symm
    | number n =>
      rw [hs] at hnull
      cases hnull
    | text s =>
      rw [hs] at hnull
      cases hnull
  next => simp only [Bool.bne_false, Option.map_id']

/-- Two predicates have the same truth for every record. -/
def Agrees (p q : Predicate) : Prop := ∀ fid data, p.eval fid data = q.eval fid data

theorem agrees_not_among (x : Operand) (vs : List Scalar) :
    Agrees (.among x vs true) (.not (.among x vs false)) := by
  intro fid data
  rw [eval_not, eval_among, eval_among]
  split
  · rfl
  · rw [Option.map_map]
    congr 1
    funext b
    cases b <;> rfl

theorem agrees_not_like (x : Operand) (pattern : String) :
    Agrees (.like x pattern true) (.not (.like x pattern false)) := by
  intro fid data
  rw [eval_not, eval_like, eval_like]
  cases scalarOf fid data x with
  | null => rfl
  | number n => simp
  | text s => simp

theorem agrees_not_isNull (x : Operand) : Agrees (.isNull x true) (.not (.isNull x false)) := by
  intro fid data
  show some _ = some _
  rw [Bool.bne_false, Bool.bne_true]

theorem agrees_ne (x y : Operand) : Agrees (.compare x .ne y) (.not (.compare x .eq y)) := by
  intro fid data
  rw [eval_not, eval_compare, eval_compare, Option.map_map]
  rfl

theorem agrees_le (x y : Operand) :
    Agrees (.compare x .le y) (.or (.compare x .lt y) (.compare x .eq y)) := by
  intro fid data
  rw [eval_or, eval_compare, eval_compare, eval_compare, Kleene.map_or]
  congr 1
  funext o
  cases o <;> rfl

theorem agrees_lt (x y : Operand) : Agrees (.compare x .lt y) (.compare y .gt x) := by
  intro fid data
  rw [eval_compare, eval_compare, Scalar.compare?_swap (scalarOf fid data x), Option.map_map]
  congr 1
  funext o
  cases o <;> rfl

theorem agrees_not_and (p q : Predicate) : Agrees (.not (.and p q)) (.or (.not p) (.not q)) :=
  fun fid data => Kleene.not_and (p.eval fid data) (q.eval fid data)

/-- The operators that could be done without have the truth, unknown included, of what they stand for. -/
theorem derived_operators_agree :
    (∀ x v vs, Agrees (.among x (v :: vs) false) (equalsOneOf x v vs)) ∧
      (∀ x vs, Agrees (.among x vs true) (.not (.among x vs false))) ∧
      (∀ x pattern, Agrees (.like x pattern true) (.not (.like x pattern false))) ∧
      (∀ x, Agrees (.isNull x true) (.not (.isNull x false))) ∧
      (∀ x y, Agrees (.compare x .ne y) (.not (.compare x .eq y))) ∧
      (∀ x y, Agrees (.compare x .le y) (.or (.compare x .lt y) (.compare x .eq y))) ∧
      (∀ x y, Agrees (.compare x .lt y) (.compare y .gt x)) ∧
      ∀ p q, Agrees (.not (.and p q)) (.or (.not p) (.not q)) :=
  ⟨fun x v vs _ _ => (eval_among_cons x v vs).trans (eval_equalsOneOf x v vs).symm, agrees_not_among,
    agrees_not_like, agrees_not_isNull, agrees_ne, agrees_le, agrees_lt, agrees_not_and⟩

end Predicate

end FeatureLayer
