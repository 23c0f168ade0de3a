import FeatureLayer.Proofs.Layer.Queries
import FeatureLayer.Proofs.Predicate.Grammar
import FeatureLayer.Proofs.Predicate.Spelling
import FeatureLayer.Proofs.Store.Typing
import FeatureLayer.Proofs.Workspace.Step
/-!
Filters on whether a field is null. What predicates do not see they take for null, so that binary data
and lists are selected with the absent values.
-/

namespace FeatureLayer

/-- There is a value, but predicates do not see it. -/
def Datum.isOpaque : Datum → Bool
  | binary _ | integers _ | integers64 _ | reals _ | texts _ => true
  | _ => false

theorem Datum.isNull_scalar (d : Datum) : d.scalar.isNull = (d.isAbsent || d.isOpaque) := by
  cases d <;> rfl

def FieldKind.isOpaque (kind : FieldKind) : Bool := kind = .binary || kind.isList

theorem FieldKind.Stores.isOpaque_eq_false {kind : FieldKind} {d : Datum} (h : kind.Stores d)
    (hk : kind.isOpaque = false) : d.isOpaque = false := by
  cases h with
  | binary | integers | integers64 | reals | texts => cases hk
  | unset | null | integer | integer64 | real | text | date | time | dateTime => rfl

def nullTestText (written : String) (negated : Bool) : String :=
  written ++ if negated then " IS NOT NULL" else " IS NULL"

section

variable {v : Vocabulary} {name written : String} {o : Operand}

theorem Token.tokenize_nullTestText (h : Token.Writes name written) (negated : Bool) :
    tokenize (nullTestText written negated).toList = .ok (.name name :: .name "IS" ::
      ((if negated then [.name "NOT"] else []) ++ [.name "NULL"])) := by
  have his : Spelled "IS".toList (.name "IS") := spelled_word (by decide)
  have hnot : Spelled "NOT".toList (.name "NOT") := spelled_word (by decide)
  have hnull : Spelled "NULL".toList (.name "NULL") := spelled_word (by decide)
  apply tokenize_of_spelled
  rw [nullTestText, String.toList_append]
  cases negated with
  | false => exact .more h.spelled (.more his (.one hnull))
  | true => exact .more h.spelled (.more his (.more hnot (.one hnull)))

theorem Predicate.parse_nullTestText (h : Token.Writes name written) (ho : v.Names name o)
    (hnot : Text.sameWord name "NOT" = false) (hnull : Text.sameWord name "NULL" = false)
    (negated : Bool) : parse v (nullTestText written negated) = .ok (.isNull o negated) := by
  have hns : IsNegation (if negated then [.name "NOT"] else []) negated := by
    cases negated with
    | false => exact .absent
    | true => exact .present ⟨"NOT", rfl, by decide⟩
  have htest : IsComparison v (.name name :: .name "IS" ::
      ((if negated then [.name "NOT"] else []) ++ [.name "NULL"])) (.isNull o negated) :=
    .isNull (.named (not_isWord hnull) ho) ⟨"IS", rfl, by decide⟩ hns ⟨"NULL", rfl, by decide⟩
  rw [parse, Token.tokenize_nullTestText h]
  refine ofTokens_of_isDisjunction (htest.isDisjunction fun t ht => ?_)
  obtain rfl := Option.some.inj ht
  exact not_isWord hnot

theorem Query.condition?_nullTestText (h : Token.Writes name written) (negated : Bool) :
    condition? (nullTestText written negated) = some (nullTestText written negated) := by
  obtain ⟨c, rest, hwritten, hspace, -⟩ := h.spelled
  have htext : (nullTestText written negated).toList =
      c :: (rest ++ (if negated then " IS NOT NULL" else " IS NULL").toList) := by
    rw [nullTestText, String.toList_append, hwritten, List.cons_append]
  have hlast : (nullTestText written negated).toList.getLast? = some 'L' := by
    rw [nullTestText, String.toList_append, List.getLast?_append]
    cases negated <;> rfl
  exact condition?_eq_self htext hspace hlast (by decide)

end

def Record.datum (r : Record) (j : Nat) : Datum := r.data[j]?.getD .unset

theorem Predicate.scalarOf_field (r : Record) (j : Nat) (fid : Int) :
    scalarOf fid r.data (.field j) = (r.datum j).scalar := by
  rw [scalarOf, Record.datum]
  cases r.data[j]? <;> rfl

theorem Predicate.holds_isNull (r : Record) (j : Nat) (negated : Bool) (fid : Int) :
    (isNull (.field j) negated).holds fid r.data =
      (((r.datum j).isAbsent || (r.datum j).isOpaque) != negated) := by
  rw [← Datum.isNull_scalar, ← scalarOf_field r j fid, holds, eval]
  cases (scalarOf fid r.data (.field j)).isNull <;> cases negated <;> rfl

theorem View.selected_isNull (t : FeatureTable) (v : View) (j : Nat) (negated : Bool) :
    { v.rewind with predicate := some (.isNull (.field j) negated) }.selected t =
      ({ v with predicate := none }.selected t).filter
        fun r => ((r.datum j).isAbsent || (r.datum j).isOpaque) != negated := by
  rw [selected_predicate]
  congr 1
  funext r
  exact Predicate.holds_isNull r j negated _

theorem FeatureTable.Typed.isOpaque_eq_false {t : FeatureTable} (h : t.Typed) {j : Nat} {f : Field}
    (hf : t.schema.fields[j]? = some f) (hk : f.kind.isOpaque = false) {r : Record}
    (hr : r ∈ t.records.values) : (r.datum j).isOpaque = false := by
  obtain ⟨e, he, rfl⟩ := List.mem_map.mp hr
  rw [Record.datum]
  cases hd : e.2.data[j]? with
  | none => rfl
  | some d => exact ((h e he).stores j f d hf hd).isOpaque_eq_false hk

namespace Layer

/-- Filtering by whether a field is null selects the records without a value there and those with one
that predicates do not see; filtering by whether it is not null selects the others. The field is the
first of that name. If predicates see the values of its kind, and the table is typed, the former are
just the records without a value. -/
theorem null_tests_select {s : Store} {l : Layer} {o : OpenLayer} (ho : l.state = some o) {i : Nat}
    {f : Field} (hf : (s.table o.view.table).schema.fields[i]? = some f) {name written : String}
    (hname : Text.sameWord f.name name = true) (hwritten : Token.Writes name written)
    (hnot : Text.sameWord name "NOT" = false) (hnull : Text.sameWord name "NULL" = false) :
    let t := s.table o.view.table
    let unfiltered := { o.view with predicate := none }.selected t
    ∃ j ≤ i, (View.vocabulary t).Names name (.field j) ∧ ∀ negated, ∃ o',
      l.setPredicate .none s (nullTestText written negated) = (.ok (), [], l.withState o') ∧
        o'.view.selected t = unfiltered.filter
          (fun r => ((r.datum j).isAbsent || (r.datum j).isOpaque) != negated) ∧
        (t.Typed → (∀ g, t.schema.fields[j]? = some g → g.kind.isOpaque = false) →
          o'.view.selected t = unfiltered.filter fun r => (r.datum j).isAbsent != negated) := by
  intro t unfiltered
  obtain ⟨j, hj, hnames⟩ : ∃ j ≤ i, (View.vocabulary t).Names name (.field j) :=
    Predicate.exists_names hf hname
  refine ⟨j, hj, hnames, fun negated => ?_⟩
  have hparse : t.parse (nullTestText written negated) = .ok (some (.isNull (.field j) negated)) := by
    rw [FeatureTable.parse, Query.condition?_nullTestText hwritten]
    simp only [Option.mapM_some, Predicate.parse_nullTestText hwritten hnames hnot hnull]
    rfl
  have hselected := View.selected_isNull t o.view j negated
  refine ⟨_, setPredicate_of_parsed ho hparse, hselected, fun htyped hkind => ?_⟩
  rw [hselected]
  refine List.filter_congr fun r hr => ?_
  cases hnames with
  | field hg =>
    rw [htyped.isOpaque_eq_false hg (hkind _ hg) (List.mem_of_mem_filter hr), Bool.or_false]

end Layer

namespace Workspace

def binaryField : List Operation :=
  [.create "d" (some "c"),
    .createLayer "c" "t" ⟨[⟨"b", .binary, .none, 0, 0, true, false, none, false, none⟩], []⟩ (some "u"),
    .view "u" (.create ⟨none, [.binary [1]], []⟩), .view "u" (.create ⟨none, [.null], []⟩),
    .openLayer "d" (.name "t") ⟨.readOnly, .empty, none, none⟩ "l"]

theorem null_tests_select_in_binary_field :
    let w := empty.run .none .exact binaryField
    ∃ l o o', w.layer? "l" = some l ∧ l.state = some o ∧
      l.setPredicate .none w.store "\"B\" IS NULL" = (.ok (), [], l.withState o') ∧
      o'.view.selected (w.store.table o.view.table) =
        ({ o.view with predicate := none }.selected (w.store.table o.view.table)).filter
          fun r => ((r.datum 0).isAbsent || (r.datum 0).isOpaque) != false := by
  intro w
  have hopen : (w.openLayer? "l").any (fun e =>
      ((w.store.table e.2.view.table).schema.fields[0]?).any (Text.sameWord ·.name "B")) = true := by
    decide +kernel
  obtain ⟨l, o, hl, ho, hfacts⟩ := exists_of_openLayer?_any hopen
  obtain ⟨f, hf, hname⟩ := (Option.any_eq_true _ _).mp hfacts
  obtain ⟨j, hj, -, hselect⟩ := Layer.null_tests_select ho hf hname (.quoted (by decide))
    (by decide) (by decide)
  obtain rfl := Nat.le_zero.mp hj
  obtain ⟨o', hset, hselected, -⟩ := hselect false
  exact ⟨l, o, o', hl, ho, hset, hselected⟩

/-- The record with a value in the field is selected with the other when the field is to be null, and
none is when it is not to be. -/
theorem null_test_takes_binary :
    let selected text :=
      let w := empty.run .none .exact (binaryField ++ [.layer "l" (.setPredicate text)])
      (w.openLayer? "l").map fun e =>
        (e.2.view.selected (w.store.table e.2.view.table)).map (·.data)
    selected "b IS NULL" = some [[.binary [1]], [.null]] ∧ selected "b IS NOT NULL" = some [] := by
  decide +kernel

end Workspace

end FeatureLayer
