import FeatureLayer.Proofs.Workspace.Conformity
import FeatureLayer.Proofs.Workspace.Rollback

namespace FeatureLayer

/-- Whether an overlay into a table of that schema adds to its definitions. -/
def Schema.lacking (s : Schema) : Bool := s.fields.isEmpty || s.geometryFields.isEmpty

theorem Schema.Grows.eq_of_lacking {s s' : Schema} (h : s.Grows s') (hs : s.lacking = false) :
    s' = s := by
  simp only [lacking, Bool.or_eq_false_iff, List.isEmpty_eq_false_iff] at hs
  exact h.eq_of_defined hs.1 hs.2

theorem Overlay.schema_run (A : RegionAlgebra) (kind : OverlayKind) (s : Store)
    (input method result : View) (o : Options) (answer : Nat → Bool) {i : Nat}
    (h : result.writable = true → result.table = i → (s.table i).schema.lacking = false) :
    ((run A kind s input method result o answer).store.table i).schema = (s.table i).schema := by
  rcases run_cases A kind s input method result o answer with
    ⟨hs, -⟩ | ⟨hw, _, _, records, -, -, -, hs, -⟩
  · rw [hs]
  · rw [hs, Store.table_setTable]
    split
    next hi =>
      rw [← hi.1]
      have hchanges := (writeAll_spec (prepare kind o (s.table input.table).schema.fields
        (s.table method.table).schema.fields (s.table result.table)) result records).2
      have hgrows := FeatureTable.Changes.grows
        ((Relation.ReflTransGen.single (.define kind o _ _)).trans hchanges)
      exact hgrows.eq_of_lacking (hi.1 ▸ h hw hi.1)
    next => rfl

namespace Workspace

def defines (w : Workspace) (i : Nat) : Operation → Bool
  | .overlay _ _ _ result _ _ => (w.layerView? result).any fun v =>
    v.writable && v.table = i && (w.store.table i).schema.lacking
  | .overlayViews _ _ _ result _ => (w.view? result).any fun v =>
    v.writable && v.table = i && (w.store.table i).schema.lacking
  | _ => false

def definesNone (f : Faults) (A : RegionAlgebra) (i : Nat) : Workspace → List Operation → Bool
  | _, [] => true
  | w, op :: ops => !w.defines i op && definesNone f A i (w.step f A op) ops

variable {f : Faults} {A : RegionAlgebra} {w w' : Workspace} {op : Operation} {a : Answer} {i : Nat}

theorem Effect.schema_eq (he : Effect f A w op a w') (hc : op.control? = none) (hw : w.Sound)
    (ht : w.Tracks) (hi : i < w.store.tables.length) (hop : w.defines i op = false) :
    (w'.store.table i).schema = (w.store.table i).schema := by
  have hlacks : ∀ {v : View}, (v.writable && decide (v.table = i) &&
      (w.store.table i).schema.lacking) = false →
      v.writable = true → v.table = i → (w.store.table i).schema.lacking = false := by
    intro v hv hwrite htable
    simpa [hwrite, htable] using hv
  cases op with
  | view n r =>
    cases he with
    | refused => rfl
    | @view _ _ v => exact w.store.schema_askView v r i
  | overlay kind input method result o answer =>
    cases he with
    | refused => rfl
    | @overlay _ _ _ _ _ _ l m r _ _ _ hr hout =>
      subst hout
      show ((Layer.overlay f A kind w.store l m r o answer).store.table i).schema = _
      rcases Layer.overlay_store f A kind w.store l m r o answer with
        hs | ⟨ol, om, or, -, -, hor, hs⟩
      · rw [hs]
      · rw [hs]
        refine Overlay.schema_run A kind w.store ol.view om.view or.view o answer (hlacks ?_)
        simpa [defines, layerView?_eq_some hr hor] using hop
  | overlayViews kind input method result o =>
    cases he with
    | refused => rfl
    | @overlayViews _ _ _ _ _ l m r _ _ _ hr hout =>
      subst hout
      refine Overlay.schema_run A kind w.store l m r o _ (hlacks ?_)
      simpa [defines, hr] using hop
  | _ => exact ((he.staysTyped hc hw (fun n l hl => ht.fits hl) id).old hi).schema

theorem schema_step (hw : w.Sound) (ht : w.Tracks) (hi : i < w.store.tables.length)
    (hop : w.defines i op = false) :
    ((w.step f A op).store.table i).schema = (w.store.table i).schema := by
  rcases w.store_step_cases f A op with hs | ⟨a, hc, he⟩ | ⟨c, d, -, -, hturn⟩
  · rw [hs]
  · exact he.schema_eq hc hw ht hi hop
  · exact hturn.schema_eq i

theorem schema_run {ops : List Operation} (hw : w.Sound) (ht : w.Tracks)
    (hi : i < w.store.tables.length) (hops : w.definesNone f A i ops = true) :
    ((w.run f A ops).store.table i).schema = (w.store.table i).schema := by
  induction ops generalizing w with
  | nil => rfl
  | cons op ops ih =>
    rw [definesNone, Bool.and_eq_true, Bool.not_eq_true'] at hops
    have hlt := Nat.lt_of_lt_of_le hi (w.length_le_step f A op)
    exact (ih (hw.step op) (ht.step op) hlt hops.2).trans (schema_step hw ht hi hops.1)

theorem grows_run (ops : List Operation) (i : Nat) :
    (w.store.table i).schema.Grows ((w.run f A ops).store.table i).schema := by
  induction ops generalizing w with
  | nil => exact .refl _
  | cons op ops ih => exact (w.grows_step f A op i).trans ih

/-- A rollback leaves the definitions of the tables as it finds them. Those of the start are there
again, field by field: all fields if there were any, all geometry fields if there were any, and the
whole of them if no overlay in between has given definitions to the table. -/
theorem rollback_restores_definitions (f : Faults) (A : RegionAlgebra) (earlier : List Operation) :
    let w := empty.run f A earlier
    ∀ d start force during finish,
      start.control? = some (.begin force) → w.addressed? start = some d →
      w.grants f A start = true → (w.step f A start).LeavesOpen f A d during →
      let w' := (w.step f A start).run f A during
      finish.control? = some .rollback → w'.addressed? finish = some d →
      w'.grants f A finish = true →
      let w'' := w'.step f A finish
      (w''.store.source d).tables = (w.store.source d).tables ∧
        ∀ i ∈ (w.store.source d).tables,
          (w''.store.table i).schema = (w'.store.table i).schema ∧
          (w.store.table i).schema.Grows (w''.store.table i).schema ∧
          ((w.step f A start).definesNone f A i during = true →
            (w''.store.table i).schema = (w.store.table i).schema) := by
  have hw : (empty.run f A earlier).Sound := sound_empty.run earlier
  have ht : (empty.run f A earlier).Tracks := tracks_empty.run earlier
  generalize empty.run f A earlier = w at hw ht ⊢
  intro w d start force during finish hstart hds hg hduring w' hfinish hdf hgf w''
  have hbegin := turn_of_grants hstart hds hg
  have hundo := turn_of_grants hfinish hdf hgf
  have hcontents : w''.store.contents d = w.store.contents d :=
    (underway_run hbegin.underway hduring).rollback ((hw.step start).run during).store hundo
  have htables : ∀ s : Store, (s.source d).tables = (s.contents d).map (·.1) := by
    intro s
    simp [Store.contents, Function.comp_def]
  refine ⟨?_, fun i hi => ?_⟩
  · rw [htables, hcontents, ← htables]
  · have hkept := hundo.schema_eq i
    refine ⟨hkept, ?_, fun hnone => ?_⟩
    · rw [hkept]
      exact (hbegin.grows i).trans (grows_run during i)
    · have hlt := Nat.lt_of_lt_of_le (hw.store.listed d i hi) (w.length_le_step f A start)
      rw [hkept, schema_run (hw.step start) (ht.step start) hlt hnone, hbegin.schema_eq i]

theorem rollback_restores_definitions_of_result :
    let w := empty.run .none .exact
      (squares "b" ++ [.connection "c" (.setTransactions .native)])
    let during : List Operation := [.overlay .union "i" "r" "m" (.ofList .empty) fun _ => true]
    let w' := (w.step .none .exact (.layer "m" (.begin false))).run .none .exact during
    let w'' := w'.step .none .exact (.layer "i" .rollback)
    (w'.store.table 1).records.fids = [1, 2] ∧ (w''.store.table 1).records.fids = [1] ∧
      (w''.store.table 1).schema = (w.store.table 1).schema := by
  intro w during w' w''
  have h := rollback_restores_definitions .none .exact
    (squares "b" ++ [.connection "c" (.setTransactions .native)]) 0 (.layer "m" (.begin false)) false
    during (.layer "i" .rollback) rfl (by decide +kernel) (by decide +kernel) ⟨nofun, trivial⟩ rfl
    (by decide +kernel) (by decide +kernel)
  exact ⟨by decide +kernel, by decide +kernel, (h.2 1 (by decide +kernel)).2.2 (by decide +kernel)⟩

/-- An overlay gives definitions to a table that has none, and they outlast the rollback. -/
theorem definitions_outlast_rollback :
    let w := empty.run .none .exact
      (squares "b" ++ [.connection "c" (.setTransactions .native)])
    let during : List Operation := [.overlay .clip "i" "m" "r" (.ofList .empty) fun _ => true]
    let w' := (w.step .none .exact (.layer "r" (.begin false))).run .none .exact during
    let w'' := w'.step .none .exact (.layer "r" .rollback)
    w.grants .none .exact (.layer "r" (.begin false)) = true ∧
      w'.grants .none .exact (.layer "r" .rollback) = true ∧
      (w.store.table 2).schema.fields = [] ∧ (w.store.table 2).schema.geometryFields = [] ∧
      (w'.store.table 2).records.fids = [1] ∧ (w''.store.table 2).records.fids = [] ∧
      (w''.store.table 2).schema.fields.map (·.name) = ["a"] ∧
      (w''.store.table 2).schema.geometryFields.map (·.kind) = ["Unknown"] := by
  decide +kernel

end Workspace

end FeatureLayer
