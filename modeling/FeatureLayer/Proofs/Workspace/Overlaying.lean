import FeatureLayer.Proofs.OverlayFields
import FeatureLayer.Proofs.Workspace.Typing

namespace FeatureLayer

open Overlay in
theorem Layer.overlay_joins (f : Faults) (A : RegionAlgebra) (s : Store)
    {li lm lr : Layer} {i m r : OpenLayer} (hi : li.state = some i) (hm : lm.state = some m)
    (hr : lr.state = some r) (hproper : r.view.Proper s) {kind : OverlayKind}
    (hkind : kind.joinsAttributes = true) (hinput : Distinct (s.table i.view.table).schema.fields)
    (hmethod : Distinct (s.table m.view.table).schema.fields)
    (hresult : (s.table r.view.table).schema.fields = []) (o : Options) (answer : Nat → Bool) :
    let out := overlay f A kind s li lm lr o answer
    out.store = s ∧ out.value ≠ .ok () ∨ ∃ inputs methods fids,
      collect kind o.skipFailures (i.view.selected (s.table i.view.table)) = .ok inputs ∧
      collect kind o.skipFailures (m.view.selected (s.table m.view.table)) = .ok methods ∧
      Joined A kind o (s.table i.view.table).schema.fields (s.table m.view.table).schema.fields
        inputs methods (s.table r.view.table) (out.store.table r.view.table) fids ∧
      (out.value = .ok () → fids.length = (Overlay.written A kind inputs methods).length) := by
  intro out
  have hcounted : r.view.writable = true → (s.table r.view.table).Counted := fun hw =>
    hproper.counted.resolve_right fun h => by
      rw [h.2] at hw
      cases hw
  rcases overlay_cases f A kind s hi hm hr o answer with h | ⟨hstore, hvalue⟩
  · exact .inl h
  · rcases run_joins hcounted hproper.lt hkind hinput hmethod hresult A o answer with
      ⟨hsame, herror⟩ | ⟨inputs, methods, fids, hinputs, hmethods, hjoined, hlength⟩
    · exact .inl ⟨hstore.trans hsame, fun hok => herror (hvalue hok)⟩
    · rw [← hstore] at hjoined
      exact .inr ⟨inputs, methods, fids, hinputs, hmethods, hjoined, fun hok => hlength (hvalue hok)⟩

namespace Workspace

open Overlay in
/-- An overlay that joins attributes into a layer without fields, of layers each of which has fields with
distinct names, fails and changes nothing, or gives the result the fields of the input and those of the
method whose names are free. The records that it adds are of pieces, in order, and if it succeeds of all
of them. Each field of the input has there the value of the input's record, unless the method's record
has a value in a field of the same name, which then stands in its place. -/
theorem overlay_joins_attributes (f : Faults) (A : RegionAlgebra) (ops : List Operation) :
    let w := empty.run f A ops
    ∀ (input method result : String) (li lm lr : Layer) (i m r : OpenLayer),
      w.layer? input = some li → li.state = some i → w.layer? method = some lm → lm.state = some m →
      w.layer? result = some lr → lr.state = some r →
      let ti := w.store.table i.view.table
      let tm := w.store.table m.view.table
      let before := w.store.table r.view.table
      Distinct ti.schema.fields → Distinct tm.schema.fields → before.schema.fields = [] →
      ∀ kind : OverlayKind, kind.joinsAttributes = true → ∀ o answer,
        let out := Layer.overlay f A kind w.store li lm lr o answer
        out.store = w.store ∧ out.value ≠ .ok () ∨
          ∃ inputs methods fids,
            collect kind o.skipFailures (i.view.selected ti) = .ok inputs ∧
            collect kind o.skipFailures (m.view.selected tm) = .ok methods ∧
            Joined A kind o ti.schema.fields tm.schema.fields inputs methods before
              (out.store.table r.view.table) fids ∧
            (out.value = .ok () → fids.length = (Overlay.written A kind inputs methods).length) := by
  intro w input method result li lm lr i m r hi hio hm hmo hr hro ti tm before hti htm hbefore kind hkind
    o answer
  have hsound : w.Sound := sound_empty.run ops
  have hproper := hsound.held r.view (.inr ⟨result, lr, r, hr, hro, rfl⟩)
  exact Layer.overlay_joins f A w.store hio hmo hro hproper hkind hti htm hbefore o answer

def twoSquares (name : String) : List Operation :=
  let square : Geometry := .rect ⟨Binary.ofInt 0, Binary.ofInt 0⟩ ⟨Binary.ofInt 2, Binary.ofInt 2⟩
  let numbers (name : String) : Schema :=
    ⟨[⟨name, .integer, .none, 0, 0, true, false, none, false, none⟩],
      [⟨"", "Polygon", true, false, none⟩]⟩
  let table (n : String) (s : Schema) : List Operation :=
    [.createLayer "c" n s (some n), .openLayer "d" (.name n) ⟨.readWrite, .empty, none, none⟩ n]
  .create "d" (some "c") :: table "i" (numbers "a") ++ table "m" (numbers name) ++ table "r" .empty ++
    [.view "i" (.create ⟨none, [.integer 1], [some square]⟩),
      .view "m" (.create ⟨none, [.integer 2], [some square]⟩)]

def intersect (s : Store) (input method result : Layer) : Layer.OverlayOutcome :=
  Layer.overlay .none .exact .intersection s input method result (.ofList .empty) fun _ => true

theorem overlay_joins_attributes_of_squares :
    let w := empty.run .none .exact (twoSquares "b")
    ∃ li lm lr, w.layer? "i" = some li ∧ w.layer? "m" = some lm ∧ w.layer? "r" = some lr ∧
      let out := intersect w.store li lm lr
      out.value = .ok () ∧
        (out.store.table 2).records.values.map (·.data) = [[.integer 1, .integer 2]] ∧
        ∃ inputs methods fids,
          fids.length = (Overlay.written .exact .intersection inputs methods).length ∧
            Overlay.Joined .exact .intersection (.ofList .empty) (w.store.table 0).schema.fields
              (w.store.table 1).schema.fields inputs methods (w.store.table 2) (out.store.table 2)
              fids := by
  intro w
  have hopen : (w.openLayer? "i").any (fun i => (w.openLayer? "m").any fun m => (w.openLayer? "r").any
      fun r => i.2.view.table = 0 && m.2.view.table = 1 && r.2.view.table = 2 &&
        (intersect w.store i.1 m.1 r.1).value.toOption.isSome &&
        ((intersect w.store i.1 m.1 r.1).store.table 2).records.values.map (·.data) =
          [[.integer 1, .integer 2]]) = true := by decide +kernel
  obtain ⟨li, i, hi, hio, hopen⟩ := exists_of_openLayer?_any hopen
  obtain ⟨lm, m, hm, hmo, hopen⟩ := exists_of_openLayer?_any hopen
  obtain ⟨lr, r, hr, hro, hfacts⟩ := exists_of_openLayer?_any hopen
  simp only [Bool.and_eq_true, decide_eq_true_eq] at hfacts
  obtain ⟨⟨⟨⟨hti, htm⟩, htr⟩, hsome⟩, hdata⟩ := hfacts
  have hdone : (intersect w.store li lm lr).value = .ok () := by
    generalize (intersect w.store li lm lr).value = value at hsome
    cases value with
    | ok => rfl
    | error => cases hsome
  have hjoined := overlay_joins_attributes .none .exact (twoSquares "b") "i" "m" "r" li lm lr i m r hi hio
    hm hmo hr hro (by rw [hti]; decide +kernel) (by rw [htm]; decide +kernel)
    (by rw [htr]; decide +kernel) .intersection rfl (.ofList .empty) fun _ => true
  rw [hti, htm, htr] at hjoined
  rcases hjoined with ⟨-, herror⟩ | ⟨inputs, methods, fids, -, -, hjoined, hlength⟩
  · exact absurd hdone herror
  · exact ⟨li, lm, lr, hi, hm, hr, hdone, hdata, inputs, methods, fids, hlength hdone, hjoined⟩

/-- Under one name the number of the method takes the place of the input's. -/
theorem overlay_overwrites_attribute :
    let w := empty.run .none .exact (twoSquares "a")
    let w' := w.step .none .exact (.overlay .intersection "i" "m" "r" (.ofList .empty) fun _ => true)
    (w.store.table 0).records.values.map (·.data) = [[.integer 1]] ∧
      (w'.store.table 2).schema.fields.map (·.name) = ["a"] ∧
      (w'.store.table 2).records.values.map (·.data) = [[.integer 2]] := by
  decide +kernel

end Workspace

end FeatureLayer
