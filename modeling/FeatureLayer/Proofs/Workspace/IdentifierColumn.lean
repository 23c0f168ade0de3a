import FeatureLayer.Proofs.Workspace.Lookup
/-!
Lookups by the identifier of a table whose column has any name. The name is quoted where it is no plain
word, but quotes in it and keywords are not kept apart from those of the predicate.
-/

namespace FeatureLayer

namespace Layer

variable {s : Store} {l : Layer} {o : OpenLayer} {fid : Int}

theorem lookup_of_parse_eq_error (ho : l.state = some o) {e : SyntaxError}
    (h : Predicate.parse (View.vocabulary (s.table o.view.table))
      (fidPredicate (s.table o.view.table).fidColumn fid) = .error e) :
    (l.lookup .none s fid).1 =
      .error (.filterSyntax (fidPredicate (s.table o.view.table).fidColumn fid) e.message) := by
  obtain ⟨view, hset⟩ : ∃ view, Faults.none.setPredicate s 0 (o.view.setSpatial none)
      (some (fidPredicate (s.table o.view.table).fidColumn fid)) =
        (.error (.refused .corruptData "OGR_L_SetAttributeFilter" e.message), view) := by
    unfold Faults.setPredicate View.setPredicate
    simp only [Faults.none, View.setSpatial, View.rewind, filter_fidPredicate, h]
    exact ⟨_, rfl⟩
  unfold lookup
  rw [ho]
  simp only [hset]
  rfl

theorem interrupted_of_fetch_one_eq_error (ho : l.state = some o) {f : Table → Option Row} {e : Error}
    (h : (l.fetch .none s (.rows 1)).1.map f = .error e) : ∃ n, e = .interrupted n := by
  cases hfetch : (l.fetch .none s (.rows 1)).1 with
  | ok table =>
    rw [hfetch] at h
    cases h
  | error e' =>
    rw [hfetch] at h
    cases h
    rw [fetch_rows .none s ho] at hfetch
    exact interrupted_of_fetchFrom_eq_error (ReadPlan.fits_one _) hfetch

theorem interrupted_of_lookup_eq_error (ho : l.state = some o) {p : Predicate}
    (h : Predicate.parse (View.vocabulary (s.table o.view.table))
      (fidPredicate (s.table o.view.table).fidColumn fid) = .ok p) {e : Error}
    (he : (l.lookup .none s fid).1 = .error e) : ∃ n, e = .interrupted n := by
  rw [lookup_eq ho (setPredicate_of_parse_fidPredicate h)] at he
  exact interrupted_of_fetch_one_eq_error rfl he

/-- A lookup states its predicate, with the column of the identifier compared, if and only if there is
no quote in the name of the column and the name is neither `NOT` nor `NULL`. Such a lookup is never
rejected, and its predicate is known for every record. For a column named `NOT` the lookup is rejected;
for one named `NULL` it is unknown for every record. -/
theorem identifier_compared_if_legible (ho : l.state = some o) (fid : Int)
    (hcolumn : (s.table o.view.table).fidColumn ≠ "")
    (hfield : ∀ f ∈ (s.table o.view.table).schema.fields,
      Text.sameWord f.name (s.table o.view.table).fidColumn = false) :
    let column := (s.table o.view.table).fidColumn
    let parsed := Predicate.parse (View.vocabulary (s.table o.view.table)) (fidPredicate column fid)
    let compared : Predicate := .compare .fid .eq (.literal (.number (Binary.ofInt fid)))
    (parsed = .ok compared ↔ Token.Legible column) ∧ (∀ k data, (compared.eval k data).isSome = true) ∧
      (Token.Legible column → ∀ e, (l.lookup .none s fid).1 = .error e → ∃ n, e = .interrupted n) ∧
      (Text.sameWord column "NOT" = true → (l.lookup .none s fid).1 =
        .error (.filterSyntax (fidPredicate column fid)
          (SyntaxError.expected "an operand" (some (.comparison .eq))).message)) ∧
      (Text.sameWord column "NULL" = true → ∃ p, parsed = .ok p ∧ ∀ k data, p.eval k data = none) := by
  intro column parsed compared
  have hname : (View.vocabulary (s.table o.view.table)).identifier = column := by
    rw [Vocabulary.identifier, if_neg]
    · rfl
    · exact fun hempty => hcolumn (String.isEmpty_iff.mp hempty)
  have hfield' : ∀ f ∈ (View.vocabulary (s.table o.view.table)).fields,
      Text.sameWord f.name (View.vocabulary (s.table o.view.table)).identifier = false := by
    rw [hname]
    exact hfield
  have hiff := Predicate.parse_fidPredicate_iff hfield' fid
  rw [hname] at hiff
  refine ⟨hiff, Predicate.eval_fid_isSome fid, fun hlegible e he => ?_, fun hnot => ?_, fun hnull => ?_⟩
  · exact interrupted_of_lookup_eq_error ho (hiff.mpr hlegible) he
  · rw [← hname] at hnot
    exact lookup_of_parse_eq_error ho (Predicate.parse_fidPredicate_of_not hnot fid)
  · rw [← hname] at hnull
    exact ⟨_, Predicate.parse_fidPredicate_of_null hnull fid, fun _ _ => rfl⟩

end Layer

namespace Workspace

def identifierColumn (column : String) : List Operation :=
  [.create "d" (some "c"), .createLayer "c" "t" .empty (some "u"),
    .view "u" (.setFidColumn column), .view "u" (.create ⟨some 5, [], []⟩),
    .openLayer "d" (.name "t") ⟨.readOnly, .empty, none, none⟩ "l"]

theorem identifier_compared_in_quotes :
    let w := empty.run .none .exact (identifierColumn "a b")
    ∃ l o, w.layer? "l" = some l ∧ l.state = some o ∧
      Predicate.parse (View.vocabulary (w.store.table o.view.table))
        (Layer.fidPredicate (w.store.table o.view.table).fidColumn 5) =
          .ok (.compare .fid .eq (.literal (.number (Binary.ofInt 5)))) := by
  intro w
  have hopen : (w.openLayer? "l").any (fun e =>
      (w.store.table e.2.view.table).schema.fields.isEmpty &&
        (w.store.table e.2.view.table).fidColumn = "a b") = true := by decide +kernel
  obtain ⟨l, o, hl, ho, hfacts⟩ := exists_of_openLayer?_any hopen
  rw [Bool.and_eq_true, decide_eq_true_eq, List.isEmpty_iff] at hfacts
  obtain ⟨hfields, hcolumn⟩ := hfacts
  clear_value w
  have hne : (w.store.table o.view.table).fidColumn ≠ "" := by
    rw [hcolumn]
    decide
  have hfield : ∀ f ∈ (w.store.table o.view.table).schema.fields,
      Text.sameWord f.name (w.store.table o.view.table).fidColumn = false := by
    simp [hfields]
  have hlegible : Token.Legible (w.store.table o.view.table).fidColumn := by
    rw [hcolumn]
    exact ⟨by decide, by decide, by decide⟩
  have hread := Layer.identifier_compared_if_legible ho 5 hne hfield
  exact ⟨l, o, hl, ho, hread.1.mpr hlegible⟩

/-- With a quote in the name the lookup of the record is rejected. -/
theorem quote_in_column_rejected :
    let w := empty.run .none .exact (identifierColumn "a\"b")
    (w.layer? "l").any (fun l => match (l.lookup .none w.store 5).1 with
      | .error (.filterSyntax _ _) => true
      | _ => false) = true := by
  decide +kernel

end Workspace

end FeatureLayer
