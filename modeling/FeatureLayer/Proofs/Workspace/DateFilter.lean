import FeatureLayer.Proofs.Predicate.Dates
import FeatureLayer.Proofs.Workspace.NullTest

namespace FeatureLayer

theorem Value.ofDatum_absent {d : Datum} (h : d.isAbsent = true) (subkind : Subkind) :
    ofDatum .date subkind d = .null :=
  if_pos h

theorem Query.condition?_dateComparisonText {name written : String} (h : Token.Writes name written)
    (sign : String) (d : Date) :
    condition? (dateComparisonText written sign d) = some (dateComparisonText written sign d) := by
  obtain ⟨c, rest, hwritten, hspace, -⟩ := h.spelled
  have htext : (dateComparisonText written sign d).toList =
      c :: (rest ++ ' ' :: (sign.toList ++ ' ' :: '\'' :: (d.isoText.toList ++ ['\'']))) := by
    simp [dateComparisonText, String.toList_append, hwritten]
  have hlast : (dateComparisonText written sign d).toList.getLast? = some '\'' := by
    rw [dateComparisonText, String.toList_append, @String.toList_append ("'" ++ d.isoText),
      List.getLast?_append, List.getLast?_append]
    rfl
  exact condition?_eq_self htext hspace hlast (by decide)

/-- There is no value at the place, or else it is a date of the calendar in a year that has no more than
four digits. -/
inductive Record.DatedAt (r : Record) (j : Nat) : Prop
  | absent (h : (r.datum j).isAbsent = true)
  | date {t : Stamp} {d : Date} (h : r.datum j = .date t) (ht : t.date? = some d) (hd : d.FourDigit)

namespace Predicate

variable {r : Record} {j : Nat}

theorem holds_compare_date_iff_read (h : r.DatedAt j) {e : Date} (he : e.FourDigit) (c : Comparison)
    (subkind : Subkind) (fid : Int) :
    (compare (.field j) c (.literal (.text e.isoText))).holds fid r.data = true ↔
      ∃ n, Value.ofDatum .date subkind (r.datum j) = .date n ∧ c.Relates n e.dayNumber := by
  cases h with
  | absent habsent =>
    have hscalar : (r.datum j).scalar = .null := by
      generalize r.datum j = d at habsent ⊢
      cases d <;> first | rfl | cases habsent
    rw [Value.ofDatum_absent habsent, holds, eval, scalarOf_field, hscalar]
    simp [Scalar.compare?]
  | @date t d hdatum ht hd =>
    have hscalar : scalarOf fid r.data (.field j) = .text d.isoText := by
      rw [scalarOf_field, hdatum, ← Stamp.isoDate_eq ht hd]
      rfl
    rw [holds_compare_date_iff hscalar hd he, hdatum, Value.ofDatum_date ht]
    simp

end Predicate

namespace Layer

/-- A filter that compares a field with a date, both in years of no more than four digits, is accepted,
and selects the records whose day in the field, as reads give it, is so related to the day of that
date; records without a value there are not selected. The field is the first of its name. -/
theorem date_filters_follow_days {s : Store} {l : Layer} {o : OpenLayer} (ho : l.state = some o)
    {i : Nat} {f : Field} (hf : (s.table o.view.table).schema.fields[i]? = some f)
    {name written : String} (hname : Text.sameWord f.name name = true)
    (hfirst : ∀ j < i, ∀ g, (s.table o.view.table).schema.fields[j]? = some g →
      Text.sameWord g.name name = false)
    (hwritten : Token.Writes name written) (hnot : Text.sameWord name "NOT" = false)
    (hnull : Text.sameWord name "NULL" = false) :
    let t := s.table o.view.table
    let unfiltered := { o.view with predicate := none }.selected t
    ∀ (c : Comparison) (sign : String) (e : Date), sign ∈ c.spellings → e.FourDigit →
      ∃ (o' : OpenLayer) (picks : Record → Bool),
        l.setPredicate .none s (dateComparisonText written sign e) = (.ok (), [], l.withState o') ∧
          o'.view.selected t = unfiltered.filter picks ∧
          (∀ (r : Record) stamp d, r.datum i = .date stamp → stamp.date? = some d → d.FourDigit →
            (picks r = true ↔ c.Relates d.dayNumber e.dayNumber)) ∧
          ∀ (r : Record) subkind, r.DatedAt i → (picks r = true ↔ ∃ n,
            Value.ofDatum .date subkind (r.datum i) = .date n ∧ c.Relates n e.dayNumber) := by
  intro t unfiltered c sign e hsign he
  have hnames : (View.vocabulary t).Names name (.field i) := .field hf hname hfirst
  let p : Predicate := .compare (.field i) c (.literal (.text e.isoText))
  have hparse : t.parse (dateComparisonText written sign e) = .ok (some p) := by
    rw [FeatureTable.parse, Query.condition?_dateComparisonText hwritten]
    simp only [Option.mapM_some, Predicate.parse_dateComparisonText hwritten hsign
      (.named (Predicate.not_isWord hnull) hnames) hnot]
    rfl
  have hread : ∀ (r : Record) (subkind : Subkind), r.DatedAt i →
      (p.holds (r.fid.getD Record.missingFid) r.data = true ↔
        ∃ n, Value.ofDatum .date subkind (r.datum i) = .date n ∧ c.Relates n e.dayNumber) :=
    fun r subkind h => Predicate.holds_compare_date_iff_read h he c subkind _
  refine ⟨_, fun r => p.holds (r.fid.getD Record.missingFid) r.data, setPredicate_of_parsed ho hparse,
    ?_, fun r stamp d hr ht hd => ?_, hread⟩
  · exact View.selected_predicate t o.view p
  · rw [hread r .none (.date hr ht hd), hr, Value.ofDatum_date ht]
    simp

end Layer

namespace Workspace

def dateField : List Operation :=
  [.create "d" (some "c"),
    .createLayer "c" "t" ⟨[⟨"day", .date, .none, 0, 0, true, false, none, false, none⟩], []⟩ (some "u"),
    .view "u" (.create ⟨none, [.date (.ofDate ⟨999, 12, 31⟩)], []⟩),
    .view "u" (.create ⟨none, [.date (.ofDate ⟨1000, 1, 1⟩)], []⟩),
    .view "u" (.create ⟨none, [.null], []⟩),
    .openLayer "d" (.name "t") ⟨.readOnly, .empty, none, none⟩ "l"]

theorem date_filters_follow_days_of_year_999 :
    let w := empty.run .none .exact dateField
    ∃ l o o', w.layer? "l" = some l ∧ l.state = some o ∧
      l.setPredicate .none w.store "day < '1000-01-01'" = (.ok (), [], l.withState o') ∧
      (o'.view.selected (w.store.table o.view.table)).map (·.fid) = [some 1] := by
  intro w
  have hopen : (w.openLayer? "l").any (fun e =>
      ((w.store.table e.2.view.table).schema.fields[0]?).any (Text.sameWord ·.name "day") &&
        ({ e.2.view with predicate := none }.selected (w.store.table e.2.view.table)).map
            (fun r : Record => (r.fid, r.datum 0)) =
          [(some 1, .date (.ofDate ⟨999, 12, 31⟩)), (some 2, .date (.ofDate ⟨1000, 1, 1⟩)),
            (some 3, .null)]) = true := by
    decide +kernel
  obtain ⟨l, o, hl, ho, hfacts⟩ := exists_of_openLayer?_any hopen
  rw [Bool.and_eq_true, decide_eq_true_eq] at hfacts
  obtain ⟨f, hf, hname⟩ := (Option.any_eq_true _ _).mp hfacts.1
  have hselect := Layer.date_filters_follow_days ho hf hname (fun j hj => absurd hj (Nat.not_lt_zero j))
    (.word (by decide)) (by decide) (by decide)
  have hbefore : (⟨999, 12, 31⟩ : Date).FourDigit := ⟨by decide, by decide, by decide⟩
  have hyear : (⟨1000, 1, 1⟩ : Date).FourDigit := ⟨by decide, by decide, by decide⟩
  have hdays : (⟨999, 12, 31⟩ : Date).dayNumber < (⟨1000, 1, 1⟩ : Date).dayNumber := by decide
  obtain ⟨o', picks, hset, hselected, hpicks, hread⟩ := hselect .lt "<" ⟨1000, 1, 1⟩ (by decide) hyear
  refine ⟨l, o, o', hl, ho, hset, ?_⟩
  have hrecords := hfacts.2
  rw [hselected]
  generalize View.selected (w.store.table o.view.table) _ = records at hrecords
  simp only [List.map_eq_cons_iff, List.map_eq_nil_iff, Prod.mk.injEq] at hrecords
  obtain ⟨a, _, rfl, ⟨ha, hday⟩, b, _, rfl, ⟨-, hday'⟩, c, _, rfl, ⟨-, hnull⟩, rfl⟩ := hrecords
  have hpa : picks a = true := (hpicks a _ ⟨999, 12, 31⟩ hday (by decide) hbefore).mpr hdays
  have hpb : picks b = false := by
    rw [Bool.eq_false_iff]
    exact fun h => absurd ((hpicks b _ ⟨1000, 1, 1⟩ hday' (by decide) hyear).mp h) (Int.lt_irrefl _)
  have hpc : picks c = false := by
    rw [Bool.eq_false_iff]
    intro h
    obtain ⟨n, hn, -⟩ := (hread c .none (.absent (by rw [hnull]; rfl))).mp h
    rw [hnull] at hn
    cases hn
  simp [hpa, hpb, hpc, ha]

/-- The name of a field may be a keyword: the null, with which no day compares, or a negation. And the
name of the last field is that of the one before it, whose day is compared. -/
theorem date_filters_miss_keywords_and_later_fields :
    let field (name : String) : Field := ⟨name, .date, .none, 0, 0, true, false, none, false, none⟩
    let first : Date := ⟨2024, 3, 1⟩
    let second : Date := ⟨2024, 3, 2⟩
    let w := empty.run .none .exact
      [.create "d" (some "c"),
        .createLayer "c" "t" ⟨[field "NULL", field "NOT", field "day", field "DAY"], []⟩ (some "u"),
        .view "u" (.create ⟨none, [first, first, first, second].map (.date ∘ .ofDate), []⟩),
        .openLayer "d" (.name "t") ⟨.readOnly, .empty, none, none⟩ "l"]
    let answer (text : String) := (w.perform .none .exact (.layer "l" (.setPredicate text))).bind
      fun out => (out.2.openLayer? "l").map fun e =>
        (out.1.value.isOk, (e.2.view.selected (w.store.table e.2.view.table)).map (·.fid))
    Value.ofDatum .date .none (.date (.ofDate first)) = .date first.dayNumber ∧
      Value.ofDatum .date .none (.date (.ofDate second)) = .date second.dayNumber ∧
      answer "NULL = '2024-03-01'" = some (true, []) ∧
      answer "\"NULL\" = '2024-03-01'" = some (true, []) ∧
      answer "NOT = '2024-03-01'" = some (false, [some 1]) ∧
      answer "\"NOT\" = '2024-03-01'" = some (false, [some 1]) ∧
      answer "day = '2024-03-01'" = some (true, [some 1]) ∧
      answer "DAY = '2024-03-02'" = some (true, []) := by
  decide +kernel

end Workspace

end FeatureLayer
