import FeatureLayer.Proofs.Layer.Level
import FeatureLayer.Proofs.Layer.Reinstalling
import FeatureLayer.Proofs.Workspace.Filters
/-!
A predicate that is rejected leaves the filters and the state of a layer as they are. The view is put
back to its start all the same, and the kept predicate is read again.
-/

namespace FeatureLayer

/-- If the store takes the kept predicate, it reads it as the one that is in force. -/
def OpenLayer.Rereads (s : Store) (o : OpenLayer) : Prop :=
  ∀ v, Faults.none.setPredicate s 1 o.view o.filters.predicate? = (.ok (), v) →
    v.predicate = o.view.predicate

theorem Filters.Stated.rereads {s : Store} {o : OpenLayer}
    (h : o.filters.Stated (View.vocabulary (s.table o.view.table)) o.view) : o.Rereads s := by
  intro v hv
  rcases View.setPredicate_cases (s.table o.view.table) o.view h.worded with
    ⟨p, hp, hset⟩ | ⟨-, e, d, hset⟩
  · cases hset.symm.trans hv
    cases h.parsed.symm.trans hp
    rfl
  · cases hset.symm.trans hv

namespace Layer

variable {s : Store} {l : Layer} {o : OpenLayer}

/-- What is left of an open layer after a predicate was rejected: all but the place and what the view
runs under, which is as before or what the kept predicate is read as. -/
theorem setPredicate_of_rejected (ho : l.state = some o) {text : String} {e : Error}
    (h : (l.setPredicate .none s text).1 = .error e) :
    (∃ detail, e = .filterSyntax (.ofList (Text.trim text.toList)) detail) ∧
      ∃ p d, (l.setPredicate .none s text).2.2 = l.withState { o with
          view := { o.view with predicate := p, position := none, lastError := d } } ∧
        (o.Rereads s → p = o.view.predicate) := by
  unfold setPredicate at h ⊢
  rw [ho] at h ⊢
  simp only at h ⊢
  generalize (String.ofList (Text.trim text.toList)) = word at h ⊢
  rcases View.setPredicate_uniform (s.table o.view.table)
    (if word.isEmpty then none else some word) with ⟨p, hset⟩ | ⟨e₁, d₁, hset⟩
  · simp only [Faults.none_setPredicate, hset] at h
    cases h
  · simp only [Faults.none_setPredicate, hset] at h ⊢
    cases h
    refine ⟨⟨_, rfl⟩, ?_⟩
    have htable : o.view.rewind.table = o.view.table := rfl
    rcases View.setPredicate_uniform (s.table o.view.table) o.filters.predicate? with
      ⟨p, hback⟩ | ⟨e₂, d₂, hback⟩
    · simp only [htable, hback]
      exact ⟨p, d₁, rfl, fun hr => hr _ (hback o.view)⟩
    · simp only [htable, hback]
      exact ⟨o.view.predicate, d₂, rfl, fun _ => rfl⟩

theorem level_reset (ho : l.state = some o) (d : String) :
    Level s l.reset.2
      (l.withState { o with view := { o.view with position := none, lastError := d } })
      { o with view := o.view.rewind, scan := .idle }
      { o with view := { o.view with position := none, lastError := d } } where
  state := by rw [reset, ho]; rfl
  state' := rfl
  reading := by rw [reset, ho]; rfl
  interrupt := by rw [reset, ho]; rfl
  schema := rfl
  ignored := rfl
  view := ⟨rfl, rfl⟩

/-- A layer whose view went back to its start reads on as before if no selected record lay behind. -/
theorem level_start (ho : l.state = some o) (d : String)
    (h : o.view.pending (s.table o.view.table) = o.view.selected (s.table o.view.table)) :
    Level s l (l.withState { o with view := { o.view with position := none, lastError := d } }) o
      { o with view := { o.view with position := none, lastError := d } } where
  state := ho
  state' := rfl
  reading := rfl
  interrupt := rfl
  schema := rfl
  ignored := rfl
  view := ⟨rfl, (View.pending_eq_selected rfl).trans h.symm⟩

end Layer

namespace Workspace

/-- A predicate that is rejected changes neither what a layer says about its filters nor its state of
scan. If the kept predicate is read again as the one in force, reads go on from the first record that
passes the filters, which is as before if the layer was at its start or no such record was passed.
It is read so where no operation has changed the names in the table. -/
theorem rejected_predicate_rewinds (A : RegionAlgebra) (ops : List Operation) :
    let w := empty.run .none A ops
    ∀ n l o, w.layer? n = some l → l.state = some o →
      ∀ text e, (l.setPredicate .none w.store text).1 = .error e →
        let t := w.store.table o.view.table
        ∃ o', (l.setPredicate .none w.store text).2.2 = l.withState o' ∧
          (∃ word detail, e = .filterSyntax word detail) ∧
          o' = { o with view := o'.view } ∧ o'.view.spatial = o.view.spatial ∧
          (o.Rereads w.store → o'.view.predicate = o.view.predicate ∧
            ∀ cs, (l.withState o').reads .none w.store cs = l.reset.2.reads .none w.store cs ∧
              (o.scan = .idle ∨ o.view.pending t = o.view.selected t →
                (l.withState o').reads .none w.store cs = l.reads .none w.store cs)) ∧
          (empty.Steady A n ops → o.Rereads w.store) := by
  have hsound : (empty.run .none A ops).Sound := sound_empty.run ops
  have hstated : ∀ n, empty.Steady A n ops → (empty.run .none A ops).Stated n :=
    fun n hs => Stated.run (fun l hl => by cases hl) hs
  intro w n l o hl ho text e he t
  obtain ⟨⟨detail, rfl⟩, p, d, hlayer, hrereads⟩ := Layer.setPredicate_of_rejected ho he
  refine ⟨_, hlayer, ⟨_, detail, rfl⟩, rfl, rfl, fun hr => ?_, fun hs => ?_⟩
  · obtain rfl := hrereads hr
    refine ⟨rfl, fun cs => ⟨(Layer.level_reset ho d).reads cs, fun hstart => ?_⟩⟩
    refine (Layer.level_start ho d ?_).reads cs
    rcases hstart with hidle | hpending
    · exact View.pending_eq_selected (hsound.atStart n l o hl ho hidle)
    · exact hpending
  · exact (hstated n hs l hl o ho).rereads

def firstRead : List Operation :=
  [.create "d" (some "c"), .createLayer "c" "t" .empty (some "v"),
    .view "v" (.create ⟨none, [], []⟩), .view "v" (.create ⟨none, [], []⟩),
    .openLayer "d" (.name "t") ⟨.readOnly, .empty, none, none⟩ "l",
    .layer "l" (.setPredicate "FID > 0"), .layer "l" .next]

theorem rejected_predicate_spares_start :
    let w := empty.run .none .exact (firstRead ++ [.layer "l" .reset])
    ∃ l, w.layer? "l" = some l ∧ ∀ cs, (l.setPredicate .none w.store "FID >").2.2.reads .none w.store cs =
      l.reads .none w.store cs := by
  intro w
  have hopen : (w.openLayer? "l").any (fun e =>
      e.2.scan = .idle && (e.1.setPredicate .none w.store "FID >").1.toOption.isNone &&
        (Faults.none.setPredicate w.store 1 e.2.view e.2.filters.predicate?).2.predicate =
          e.2.view.predicate) = true := by decide +kernel
  obtain ⟨l, o, hl, ho, hfacts⟩ := exists_of_openLayer?_any hopen
  simp only [Bool.and_eq_true, decide_eq_true_eq] at hfacts
  obtain ⟨⟨hidle, hrejected⟩, hagain⟩ := hfacts
  obtain ⟨e, he⟩ : ∃ e, (l.setPredicate .none w.store "FID >").1 = .error e := by
    generalize (l.setPredicate .none w.store "FID >").1 = answer at hrejected
    cases answer with
    | error e => exact ⟨e, rfl⟩
    | ok u => cases hrejected
  obtain ⟨o', hlayer, -, -, -, hreads, -⟩ :=
    rejected_predicate_rewinds .exact _ "l" l o hl ho "FID >" e he
  refine ⟨l, hl, fun cs => ?_⟩
  rw [hlayer]
  exact ((hreads fun v hv => by rw [hv] at hagain; exact hagain).2 cs).2 (.inl hidle)

def namedLater : List Operation :=
  let square : Geometry := .rect ⟨Binary.ofInt 0, Binary.ofInt 0⟩ ⟨Binary.ofInt 2, Binary.ofInt 2⟩
  let schema (fields : List Field) : Schema := ⟨fields, [⟨"", "Polygon", true, false, none⟩]⟩
  [.create "d" (some "c"),
    .createLayer "c" "i" (schema [⟨"fid", .integer, .none, 0, 0, true, false, none, false, none⟩])
      (some "i"),
    .createLayer "c" "m" (schema []) (some "m"), .createLayer "c" "t" .empty (some "t"),
    .view "i" (.create ⟨none, [.integer 7], [some square]⟩), .view "m" (.create ⟨none, [], [some square]⟩),
    .openLayer "d" (.name "t") ⟨.readOnly, .empty, none, none⟩ "l",
    .layer "l" (.setPredicate "FID > 1"), .overlayViews .intersection "i" "m" "t" (.ofList .empty)]

/-- After the first record comes the second, but the first again if a predicate is rejected between. And
a record that the kept predicate does not select is read once a predicate was rejected, for a name has
got another meaning. -/
theorem rejected_predicate_changes_reads :
    let page (w : Workspace) := (w.layer? "l").bind fun l =>
      (l.fetch .none w.store (.rows 1)).1.toOption.map (·.fids)
    let rejected (w : Workspace) := w.step .none .exact (.layer "l" (.setPredicate "FID >"))
    let w := empty.run .none .exact firstRead
    let w' := empty.run .none .exact namedLater
    page w = some [some 2] ∧ page (rejected w) = some [some 1] ∧
      page w' = some [] ∧ page (rejected w') = some [some 1] := by
  decide +kernel

end Workspace

end FeatureLayer
