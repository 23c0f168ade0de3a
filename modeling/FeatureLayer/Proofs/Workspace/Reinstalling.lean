import FeatureLayer.Proofs.Layer.Reinstalling
import FeatureLayer.Proofs.Workspace.OpeningFilter

namespace FeatureLayer

namespace Layer

variable {l : Layer} {o : OpenLayer}

/-- Whatever comes of a look for a record, the layer keeps its filters and is put back to its start. If
the store takes the kept predicate again, both filters are installed. If it rejects it, the view stays
without a spatial filter and under the predicate that it was left with, and a warning says so. -/
theorem lookup_puts_back (f : Faults) (s : Store) (ho : l.state = some o) (fid : Int) :
    let back := f.setPredicate s 1 o.view o.filters.predicate?
    let out := l.lookup f s fid
    ∃ o' asked, out.2.2 = { l.withState o' with interrupt := asked } ∧
      (back.1 = .ok () → o.PutBack back.2.predicate o.filters.spatial o') ∧
      ∀ e, back.1 = .error e → o.PutBack (looking f s o fid).predicate none o' ∧
        ∃ ws, out.2.1 = ws ++ l.report [.filtersNotRestored e] := by
  intro back out
  obtain ⟨place, scan, asked, ws, l₁, hl₁, hout⟩ := lookup_reaches f s ho fid
  obtain ⟨p, d, hlooking⟩ := looking_eq f s o fid
  have hws : out.2.1 = _ := congrArg Prod.fst hout
  have hlayer : out.2.2 = _ := congrArg Prod.snd hout
  rw [hlooking] at hl₁ ⊢
  have ho₁ : l₁.state = some { o with
      view := { o.view with predicate := p, spatial := none, position := place, lastError := d },
      scan } := by rw [hl₁]; rfl
  -- the store answers the same for the view before the lookup and the one after it
  rcases f.setPredicate_uniform s 1 o.view.table o.filters.predicate? with ⟨q, hset⟩ | ⟨e, hset⟩
  · have hback : back = _ := hset o.view rfl
    obtain ⟨o', hrestored, hput⟩ := restoreFilters_of_taken ho₁ hset
    rw [hrestored] at hlayer
    refine ⟨o', asked, by rw [hlayer, hl₁]; rfl, fun _ => ?_, fun e he => ?_⟩
    · rw [hback]
      exact ⟨hput.kept, hput.view⟩
    · rw [hback] at he
      cases he
  · obtain ⟨_, _, hback⟩ := hset o.view rfl
    have hback : back = _ := hback
    obtain ⟨o', hrestored, hput⟩ := restoreFilters_of_rejected ho₁ hset
    rw [hrestored] at hlayer hws
    refine ⟨o', asked, by rw [hlayer, hl₁]; rfl, fun he => ?_, fun e' he => ?_⟩
    · rw [hback] at he
      cases he
    · rw [hback] at he
      cases he
      exact ⟨⟨hput.kept, hput.view⟩, ws, by rw [hws, hl₁]; rfl⟩

end Layer

namespace Workspace

def filteredInSquare : List Operation :=
  insideAndOutside ++
    [.view "v" (.setFidColumn "id"), .openLayer "d" (.name "t") ⟨.readOnly, .empty, none, none⟩ "l",
      .layer "l" (.setPredicate "id > 0"),
      .layer "l" (.setSpatialRect ⟨Binary.ofInt 0, Binary.ofInt 0, Binary.ofInt 2, Binary.ofInt 2⟩)]

theorem lookup_puts_back_square :
    let w := empty.run .none .exact filteredInSquare
    ∃ l o o', w.layer? "l" = some l ∧ l.state = some o ∧
      (l.lookup .none w.store 2).2.2.state = some o' ∧ o'.filters = o.filters ∧ o'.scan = .idle ∧
      o'.view.spatial = o.filters.spatial ∧ o'.view.predicate = o.view.predicate := by
  intro w
  have hopen : (w.openLayer? "l").any (fun e =>
      let back := Faults.none.setPredicate w.store 1 e.2.view e.2.filters.predicate?
      back.1.toOption.isSome && back.2.predicate = e.2.view.predicate) = true := by decide +kernel
  obtain ⟨l, o, hl, ho, hfacts⟩ := exists_of_openLayer?_any hopen
  rw [Bool.and_eq_true, decide_eq_true_eq] at hfacts
  obtain ⟨htaken, hpredicate⟩ := hfacts
  have hback : (Faults.none.setPredicate w.store 1 o.view o.filters.predicate?).1 = .ok () := by
    generalize (Faults.none.setPredicate w.store 1 o.view o.filters.predicate?).1 = answer at htaken
    cases answer with
    | error e => cases htaken
    | ok u => rfl
  obtain ⟨o', asked, hlayer, hput, -⟩ := Layer.lookup_puts_back .none w.store ho 2
  obtain ⟨hkept, hview⟩ := hput hback
  refine ⟨l, o, o', hl, ho, by rw [hlayer]; rfl, by rw [hkept], by rw [hkept], by rw [hview], ?_⟩
  rw [hview]
  exact hpredicate

/-- The column of the identifier gets another name, so that the store does not take the predicate
again. The layer still keeps its square, and reads the record out of it. -/
theorem square_lost_by_lookup :
    let fetched (w : Workspace) := (w.openLayer? "l").bind fun e =>
      (e.1.fetch .none w.store .all).1.toOption.map fun t => (e.2.filters.spatial.isSome, t.fids)
    let w := empty.run .none .exact (filteredInSquare ++ [.view "v" (.setFidColumn "other")])
    fetched w = some (true, [some 1]) ∧
      fetched (w.step .none .exact (.layer "l" (.lookup 2))) = some (true, [some 2]) := by
  decide +kernel

end Workspace

end FeatureLayer
