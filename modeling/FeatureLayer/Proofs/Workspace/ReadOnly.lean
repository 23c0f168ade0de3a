import FeatureLayer.Proofs.Layer.Deeds
import FeatureLayer.Proofs.Workspace.Rollback
import FeatureLayer.Proofs.Workspace.Typing
/-!
What can become of stored records by the calls of a layer that can only be read. It is refused to write,
but transactions know of no access, and an overlay asks of its result alone whether it may write.
-/

namespace FeatureLayer

/-- Whether nothing can be written through the layer: it is on a query, or not open for writing. -/
def Layer.readsOnly (l : Layer) : Bool := l.source.isQuery || l.state.all (·.access = .readOnly)

def Operation.through (n : String) : Operation → Bool
  | .drop m | .layer m _ => m = n
  | .overlay _ input method result _ _ => input = n || method = n || result = n
  | _ => false

/-- What a rollback gives back of a table. -/
def FeatureTable.contents (t : FeatureTable) : FidMap Record × Int := (t.records, t.nextFid)

namespace Layer

variable {s s' : Store} {l : Layer} {r : LayerRequest} {i d : Nat}

/-- A request to a layer that may not write changes contents only by a rollback. -/
theorem Deed.contents_eq (h : l.Deed s r s') (hi : i < s.tables.length)
    (hw : ∀ o, l.state = some o → o.view.writable = false) (hr : r.control? ≠ some .rollback) :
    (s'.table i).contents = (s.table i).contents := by
  cases h with
  | nothing => rfl
  | labels =>
    rw [Store.change, Store.table_setTable]
    split
    next h => exact h.1 ▸ rfl
    next => rfl
  | writes ho hwrite => exact absurd ((hw _ ho).symm.trans hwrite) Bool.false_ne_true
  | closes => rw [table_close]
  | queries _ c text spatial dialect => rw [table_query_close hi]
  | turns _ hk ht =>
    cases ht with
    | begin | commit => rfl
    | rollback => exact absurd hk hr

theorem Deed.listed_eq (h : l.Deed s r s') (hr : r.control? ≠ some .rollback) :
    (s'.source d).tables = (s.source d).tables := by
  cases h with
  | nothing | labels | writes => rfl
  | closes => exact listed_close l s d
  | queries _ c text spatial dialect =>
    exact ((l.close s).2.listed_query c text spatial dialect d).trans (listed_close l s d)
  | turns _ hk ht =>
    cases ht with
    | begin | commit => exact (s.source_withSnapshot _ _ d).1
    | rollback => exact absurd hk hr

end Layer

namespace Workspace

variable {f : Faults} {A : RegionAlgebra} {w w' : Workspace} {n : String} {op : Operation} {a : Answer}
  {i d : Nat}

def OverlaysInto (w : Workspace) (op : Operation) (i : Nat) : Prop :=
  ∃ m l o, op.result? = some m ∧ w.layer? m = some l ∧ l.readsOnly = false ∧ l.state = some o ∧
    o.view.table = i

def RollsBack (f : Faults) (A : RegionAlgebra) (w : Workspace) (op : Operation) (d : Nat) : Prop :=
  op.control? = some .rollback ∧ w.addressed? op = some d ∧ w.grants f A op = true

def Permitted (w : Workspace) : Prop :=
  ∀ n l o, w.layer? n = some l → l.state = some o → o.view.writable = true →
    l.source.isQuery = false ∧ o.access = .readWrite

theorem permitted_empty : empty.Permitted := fun _ _ _ hl => by cases hl

theorem Permitted.step (h : w.Permitted) (op : Operation) : (w.step f A op).Permitted := by
  refine open_step
    (P := fun source o => o.view.writable = true → source.isQuery = false ∧ o.access = .readWrite)
    (fun _ _ _ h hst hw => ?_) (fun _ _ source _ hf hw => ⟨?_, hf.permitted hw⟩) h op
  · rw [hst.access]
    exact h (hst.writable.symm.trans hw)
  · cases hq : source.isQuery with
    | false => rfl
    | true => exact absurd ((hf.readOnly hq).symm.trans hw) Bool.false_ne_true

theorem Permitted.run (h : w.Permitted) (ops : List Operation) : (w.run f A ops).Permitted := by
  induction ops generalizing w with
  | nil => exact h
  | cons op ops ih => exact ih (h.step op)

theorem Permitted.readsOnly_eq_false (h : w.Permitted) {l : Layer} {o : OpenLayer}
    (hl : w.layer? n = some l) (ho : l.state = some o) (hw : o.view.writable = true) :
    l.readsOnly = false := by
  obtain ⟨hq, haccess⟩ := h n l o hl ho hw
  simp [Layer.readsOnly, hq, ho, haccess]

theorem Permitted.writable_eq_false (h : w.Permitted) {l : Layer} (hl : w.layer? n = some l)
    (hr : l.readsOnly = true) (o : OpenLayer) (ho : l.state = some o) : o.view.writable = false := by
  cases hw : o.view.writable with
  | false => rfl
  | true => exact absurd ((h.readsOnly_eq_false hl ho hw).symm.trans hr) Bool.false_ne_true

/-- An overlay writes to the table of its result alone, and only if the result may be written to. -/
theorem Permitted.overlay_spares (h : w.Permitted) {input method result : String} {i m r : Layer}
    (hr : w.layer? result = some r) (kind : OverlayKind) (o : Overlay.Options) (answer : Nat → Bool) :
    let s' := (Layer.overlay f A kind w.store i m r o answer).store
    (∀ d, (s'.source d).tables = (w.store.source d).tables) ∧
      ∀ j, ¬w.OverlaysInto (.overlay kind input method result o answer) j →
        (s'.table j).contents = (w.store.table j).contents := by
  intro s'
  rcases Layer.overlay_store f A kind w.store i m r o answer with hs | ⟨oi, om, or, -, -, hor, hs⟩
  · rw [show s' = w.store from hs]
    exact ⟨fun _ => rfl, fun _ _ => rfl⟩
  · rcases Overlay.run_cases A kind w.store oi.view om.view or.view o answer with
      ⟨hrun, -⟩ | ⟨hw, _, _, records, -, -, -, hrun, -⟩
    · rw [show s' = w.store from hs.trans hrun]
      exact ⟨fun _ => rfl, fun _ _ => rfl⟩
    · rw [show s' = _ from hs.trans hrun]
      refine ⟨fun _ => rfl, fun j hj => ?_⟩
      rw [Store.table_setTable, if_neg]
      rintro ⟨rfl, -⟩
      exact hj ⟨result, r, or, rfl, hr, h.readsOnly_eq_false hr hor hw, hor, rfl⟩

theorem rollback_spares (hc : op.control? = some .rollback) :
    (∀ d, ¬w.RollsBack f A op d →
      ((w.step f A op).store.source d).tables = (w.store.source d).tables) ∧
      ∀ i, (∀ d, w.RollsBack f A op d → i ∉ (w.store.source d).tables) →
        ((w.step f A op).store.table i).contents = (w.store.table i).contents := by
  rcases w.control_cases f A hc with ⟨hg, j, hj, ht⟩ | ⟨-, hs, -⟩
  · refine ⟨fun d hd => ?_, fun i hi => ?_⟩
    · rw [ht.source_eq fun hjd => hd ⟨hc, hj.trans (congrArg some hjd), hg⟩]
    · rw [ht.table_eq (hi j ⟨hc, hj, hg⟩)]
  · rw [hs]
    exact ⟨fun _ _ => rfl, fun _ _ => rfl⟩

theorem Effect.spares (he : Effect f A w op a w') (h : w.Permitted) {l : Layer}
    (hl : w.layer? n = some l) (hreads : l.readsOnly = true) (hop : op.through n = true)
    (hc : op.control? ≠ some .rollback) :
    (∀ d, (w'.store.source d).tables = (w.store.source d).tables) ∧
      ∀ i < w.store.tables.length, ¬w.OverlaysInto op i →
        (w'.store.table i).contents = (w.store.table i).contents := by
  cases op with
  | drop m =>
    cases he with
    | refused => exact ⟨fun _ => rfl, fun _ _ _ => rfl⟩
    | drop =>
      refine ⟨listed_closeLayer w m, fun i _ _ => ?_⟩
      show ((w.closeLayer m).store.table i).contents = _
      rw [Store.table, tables_closeLayer]
      rfl
  | layer m r =>
    cases he with
    | refused => exact ⟨fun _ => rfl, fun _ _ _ => rfl⟩
    | @layer _ _ l₀ hl₀ =>
      obtain rfl : m = n := of_decide_eq_true hop
      obtain rfl := Option.some.inj (hl₀.symm.trans hl)
      have hdeed := l₀.ask_deed f w.store r
      exact ⟨fun d => hdeed.listed_eq hc,
        fun i hi _ => hdeed.contents_eq hi (h.writable_eq_false hl hreads) hc⟩
  | overlay kind input method result o answer =>
    cases he with
    | refused => exact ⟨fun _ => rfl, fun _ _ _ => rfl⟩
    | overlay _ _ hr hout =>
      subst hout
      obtain ⟨hlists, hcontents⟩ := h.overlay_spares (f := f) (A := A) hr kind o answer
      exact ⟨hlists, fun i _ => hcontents i⟩
  | _ => cases hop

/-- Whatever has been done, no operation with a layer that is open for reading only, or on a query,
changes the records of any table or the tables of any source, but two: a rollback, which gives the
tables of its data source what they held at the start of the transaction, whoever started it, and an
overlay into a layer that may be written to. -/
theorem reading_layers_spare_records (f : Faults) (A : RegionAlgebra) (earlier : List Operation) :
    let w := empty.run f A earlier
    (∀ n l op, w.layer? n = some l → l.readsOnly = true → op.through n = true →
      let w' := w.step f A op
      (∀ d, ¬w.RollsBack f A op d → (w'.store.source d).tables = (w.store.source d).tables) ∧
        ∀ i < w.store.tables.length, ¬w.OverlaysInto op i →
          (∀ d, w.RollsBack f A op d → i ∉ (w.store.source d).tables) →
          (w'.store.table i).contents = (w.store.table i).contents) ∧
      ∀ d start force during n l,
        start.control? = some (.begin force) → w.addressed? start = some d →
        w.grants f A start = true → (w.step f A start).LeavesOpen f A d during →
        let w' := (w.step f A start).run f A during
        let undo := Operation.layer n .rollback
        w'.layer? n = some l → l.readsOnly = true → w'.addressed? undo = some d →
        w'.grants f A undo = true → (w'.step f A undo).store.contents d = w.store.contents d := by
  have hw : (empty.run f A earlier).Sound := sound_empty.run earlier
  have hp : (empty.run f A earlier).Permitted := permitted_empty.run earlier
  generalize empty.run f A earlier = w at hw hp ⊢
  refine ⟨fun n l op hl hreads hop => ?_, fun d start force during n l hstart hds hg hduring => ?_⟩
  · intro w'
    by_cases hc : op.control? = some .rollback
    · obtain ⟨hlists, hcontents⟩ := rollback_spares (w := w) (f := f) (A := A) hc
      exact ⟨hlists, fun i _ _ => hcontents i⟩
    · rcases w.step_cases f A op with hs | ⟨a, he⟩
      · rw [show w' = w from hs]
        exact ⟨fun _ _ => rfl, fun _ _ _ _ => rfl⟩
      · obtain ⟨hlists, hcontents⟩ := he.spares hp hl hreads hop hc
        exact ⟨fun d _ => hlists d, fun i hi ho _ => hcontents i hi ho⟩
  · intro w' undo _ _ hdu hgu
    have hunder := underway_run (turn_of_grants hstart hds hg).underway hduring
    have hsound : w'.Sound := (hw.step start).run during
    exact hunder.rollback hsound.store (turn_of_grants (c := .rollback) rfl hdu hgu)

def readAndWritten : List Operation :=
  [.create "d" (some "c"), .connection "c" (.setTransactions .native),
    .createLayer "c" "t" .empty (some "u"), .view "u" (.create ⟨none, [], []⟩),
    .openLayer "d" (.name "t") ⟨.readWrite, .empty, none, none⟩ "v",
    .openLayer "d" (.name "t") ⟨.readOnly, .empty, none, none⟩ "r"]

theorem reading_layers_spare_records_but_undo :
    let w := empty.run .none .exact readAndWritten
    let during : List Operation := [.layer "v" (.create ⟨[]⟩)]
    let w' := (w.step .none .exact (.layer "v" (.begin false))).run .none .exact during
    ((w.step .none .exact (.layer "r" (.delete 1))).store.table 0).contents =
        (w.store.table 0).contents ∧
      (w'.store.contents 0).map (·.2.1.fids) = [[1, 2]] ∧
      (w'.step .none .exact (.layer "r" .rollback)).store.contents 0 = w.store.contents 0 := by
  intro w during w'
  have h := reading_layers_spare_records .none .exact readAndWritten
  have hreads : ∀ w : Workspace, (w.layer? "r").any (·.readsOnly) = true →
      ∃ l, w.layer? "r" = some l ∧ l.readsOnly = true := fun w => (Option.any_eq_true _ _).mp
  obtain ⟨l, hl, hreads₁⟩ := hreads w (by decide)
  obtain ⟨l', hl', hreads₂⟩ := hreads w' (by decide)
  refine ⟨(h.1 "r" l (.layer "r" (.delete 1)) hl hreads₁ rfl).2 0 (by decide) ?_ ?_, by decide, ?_⟩
  · rintro ⟨m, _, _, hm, -⟩
    cases hm
  · rintro d ⟨hc, -⟩
    cases hc
  · exact h.2 0 (.layer "v" (.begin false)) false during "r" l' rfl (by decide) (by decide)
      ⟨nofun, trivial⟩ hl' hreads₂ (by decide) (by decide)

/-- Through a layer for reading the transaction of another layer is undone. With it as input, and as
method another layer for reading that has a square, a record comes to the table. -/
theorem reading_layers_undo_and_overlay :
    (let w := empty.run .none .exact (readAndWritten ++
        [.layer "v" (.begin false), .layer "v" (.create ⟨[]⟩)])
      let undone := w.step .none .exact (.layer "r" .rollback)
      Option.any (·.readsOnly) (w.layer? "r") = true ∧ (w.store.table 0).records.fids = [1, 2] ∧
        (undone.store.table 0).records.fids = [1]) ∧
      let w := empty.run .none .exact (readAndWritten ++
        [.createLayer "c" "s" ⟨[], [⟨"", "Polygon", true, false, none⟩]⟩ none,
          .openLayer "d" (.name "s") ⟨.readWrite, .empty, none, none⟩ "s",
          .layer "s"
            (.create ⟨[("geometry", .geometry (.wkt "POLYGON((0 0,2 0,2 2,0 2,0 0))"))]⟩),
          .layer "s" (.reopen .readOnly)])
      let overlaid := w.step .none .exact (.overlay .update "r" "s" "v" (.ofList .empty) fun _ => true)
      Option.any (·.readsOnly) (w.layer? "r") = true ∧
        Option.any (·.readsOnly) (w.layer? "s") = true ∧
        (w.store.table 0).records.fids = [1] ∧ (overlaid.store.table 0).records.fids = [1, 2] := by
  decide +kernel

end Workspace

end FeatureLayer
