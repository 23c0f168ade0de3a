import FeatureLayer.Proofs.Layer.Candid
import FeatureLayer.Proofs.Layer.Typing
import FeatureLayer.Proofs.Workspace.Soundness

namespace FeatureLayer.Workspace

/-- Whether an operation stores records in the table of that number other than rows of a layer: as
they are given to a view, or as an overlay makes them. -/
def Bypasses (w : Workspace) (i : Nat) : Operation → Prop
  | .view n r => r.stores = true ∧ ∃ v, w.view? n = some v ∧ v.table = i
  | .overlay _ _ _ result _ _ =>
    ∃ l o, w.layer? result = some l ∧ l.state = some o ∧ o.view.table = i
  | .overlayViews _ _ _ result _ => ∃ v, w.view? result = some v ∧ v.table = i
  | _ => False

def RowsOnly (f : Faults) (A : RegionAlgebra) (i : Nat) : Workspace → List Operation → Prop
  | _, [] => True
  | w, op :: ops => ¬w.Bypasses i op ∧ RowsOnly f A i (w.step f A op) ops

/-- The table of that number is typed where a source lists it or a view may write to it, and the
layers on it know its fields. -/
structure Typed (w : Workspace) (i : Nat) : Prop where
  store : w.store.Typed i
  writable : ∀ v, w.Holds v → v.table = i → v.writable = true → (w.store.table i).Typed
  known : ∀ n l, w.layer? n = some l → l.Knows w.store i

variable {f : Faults} {A : RegionAlgebra} {w w' : Workspace} {i : Nat} {op : Operation} {a : Answer}

theorem typed_empty (i : Nat) : empty.Typed i where
  store := Store.typed_empty i
  writable v hv := by
    rcases hv with ⟨n, h⟩ | ⟨n, l, o, h, -, -⟩
    · cases h
    · cases h
  known _ _ h := by cases h

theorem listed_closeLayer (w : Workspace) (n : String) (d : Nat) :
    ((w.closeLayer n).store.source d).tables = (w.store.source d).tables := by
  unfold closeLayer
  split
  · exact Layer.listed_close ..
  · rfl

theorem Effect.staysTyped (h : Effect f A w op a w') (hc : op.control? = none) (hw : w.Sound)
    (hfits : ∀ n l, w.layer? n = some l → l.Fits w.store i) (hop : ¬w.Bypasses i op) :
    w.store.StaysTyped w'.store i := by
  cases h with
  | refused | connect | layerByName => exact .refl _ i
  | @create source n c s h =>
    have htables : s.tables = w.store.tables := by
      unfold Store.create at h
      split at h
      · cases h
      · cases h
        rfl
    cases n <;> exact .of_tables_eq htables
  | remove | release => exact .of_tables_eq rfl
  | openFails h => exact Layer.staysTyped_openOn f hw.store h
  | @opens _ n _ _ _ _ s h =>
    exact (Layer.staysTyped_openOn f hw.store h).congr
      (tables_closeLayer { w with store := s } n) (listed_closeLayer { w with store := s } n)
  | drop n => exact .of_tables_eq (tables_closeLayer w n)
  | @createLayer _ name schema n c _ _ _ h =>
    obtain ⟨-, rfl⟩ := Store.createLayer_ok h
    cases n <;> exact .withTable w.store c.source name schema i
  | @queryFails _ text _ spatial dialect c _ _ _ _ h | @query _ text _ spatial dialect c _ _ _ _ h =>
    have hq := Store.staysTyped_query (i := i) hw.store c text spatial dialect
    rw [h] at hq
    exact hq
  | @connection _ r c =>
    cases r with
    | begin | commit | rollback => cases hc
    | setTransactions | addDomain => exact .of_tables_eq rfl
  | @view n r v hv =>
    refine w.store.staysTyped_askView v fun hi => ?_
    by_contra hr
    exact hop ⟨by simpa using hr, v, hv, hi⟩
  | @layer n r l hl =>
    exact l.staysTyped_ask f hw.store (hfits n l hl) hc
  | @overlay kind _ _ result o answer i m r _ _ _ hr h =>
    subst h
    refine Layer.staysTyped_overlay f A kind w.store i m r o answer fun q hq hi => ?_
    exact hop ⟨r, q, hr, hq, hi⟩
  | @overlayViews kind _ _ result o i m r _ _ _ hr h =>
    subst h
    obtain ⟨t, hout⟩ := Overlay.run_store A kind w.store i m r o fun _ => true
    show w.store.StaysTyped (Overlay.run A kind w.store i m r o fun _ => true).store _
    rw [hout]
    exact .setTable fun hi => absurd ⟨r, hr, hi⟩ hop

theorem Typed.store_step (ht : w.Typed i) (hw : w.Sound) (hop : ¬w.Bypasses i op) :
    (w.step f A op).store.Typed i ∧ w.store.StaysTyped (w.step f A op).store i := by
  rcases w.store_step_cases f A op with hs | ⟨a, hc, he⟩ | ⟨c, d, -, -, hturn⟩
  · rw [hs]
    exact ⟨ht.store, .refl _ i⟩
  · have hstays := he.staysTyped hc hw (fun n l hl => (ht.known n l hl).fits) hop
    exact ⟨ht.store.works hw.store (he.works hc) hstays, hstays⟩
  · exact ht.store.turn hturn

theorem Typed.held (ht : w.Typed i) (hw : w.Sound) (hstays : w.store.StaysTyped w'.store i)
    {v v₀ : View} (hv₀ : w.Holds v₀) (hh : v.handle = v₀.handle) (hi : v.table = i) :
    v₀.table = i ∧ (w.store.table i).StaysTyped (w'.store.table i) ∧
      (v.writable = true → (w'.store.table i).Typed) := by
  obtain ⟨htable, -, hwritable, -⟩ : v.table = v₀.table ∧ v.source = v₀.source ∧
      v.writable = v₀.writable ∧ v.isResultSet = v₀.isResultSet := by
    simpa [View.handle] using hh
  have hi₀ : v₀.table = i := htable.symm.trans hi
  have hold := hstays.old (hi₀ ▸ (hw.held v₀ hv₀).lt)
  exact ⟨hi₀, hold, fun h => hold.typed (ht.writable v₀ hv₀ hi₀ (hwritable.symm.trans h))⟩

theorem Effect.writable_typed (he : Effect f A w op a w') (ht : w.Typed i) (hw : w.Sound)
    (hstays : w.store.StaysTyped w'.store i) (hstore : w'.store.Typed i) {v : View}
    (hv : w'.Holds v) (hi : v.table = i) (hwrite : v.writable = true) :
    (w'.store.table i).Typed := by
  rcases he.held hv with ⟨v₀, hv₀, hh⟩ | hnew
  · exact (ht.held hw hstays hv₀ hh hi).2.2 hwrite
  · subst hi
    rcases hnew.listed hwrite with ⟨d, hd⟩ | ⟨name, schema, htable⟩
    · exact hstore.listed d hd
    · rw [htable]
      exact FeatureTable.typed_make name schema

theorem Effect.knows (he : Effect f A w op a w') (ht : w.Typed i) (hw : w.Sound)
    (hstays : w.store.StaysTyped w'.store i) (hop : ¬w.Bypasses i op) {n : String} {l : Layer}
    (hl : w'.layer? n = some l) : l.Knows w'.store i := by
  intro o ho hi
  -- what was known of the table is still true of it
  have hknown : ∀ {told : Bool} {l₀ : Layer} {o₀ : OpenLayer}, w.layer? n = some l₀ →
      l₀.state = some o₀ → o₀.Moves told o → o.schema.bare = (w'.store.table i).schema.bare ∧ o.Whole := by
    intro _ l₀ o₀ hl₀ ho₀ hm
    obtain ⟨hi₀, hold, -⟩ := ht.held hw hstays (.inr ⟨n, _, o₀, hl₀, ho₀, rfl⟩) hm.handle hi
    obtain ⟨hbare, hw₀⟩ := ht.known n l₀ hl₀ o₀ ho₀ hi₀
    rw [hm.schema, hold.schema]
    exact ⟨hbare, hm.whole hw₀⟩
  cases he.layerOrigin hl with
  | kept hl₀ hk =>
    obtain ⟨o₀, ho₀, hk⟩ := hk.state o ho
    exact hknown hl₀ ho₀ hk.toMoves
  | @refreshed l₀ _ hl₀ hk hresult =>
    obtain ⟨o₁, _, ho₁, rfl⟩ := Layer.refreshSchema_state f _ ho
    obtain ⟨o₀, ho₀, hk⟩ := hk.state o₁ ho₁
    have hi₀ := (ht.held hw hstays (.inr ⟨n, _, o₀, hl₀, ho₀, rfl⟩) hk.handle hi).1
    cases op with
    | overlay kind input method result options answer =>
      obtain rfl := Option.some.inj hresult
      exact absurd ⟨l₀, o₀, hl₀, ho₀, hi₀⟩ hop
    | _ => cases hresult
  | @asked l₀ r hl₀ _ _ hs =>
    rcases l₀.ask_state f w.store ho with ⟨o₀, ho₀, hm⟩ | hf
    · exact hknown hl₀ ho₀ hm
    · subst hi
      rw [hs]
      exact ⟨hf.schema, fun _ => hf.isNew.ignored⟩
  | @opened _ _ _ _ _ s₁ _ _ heq _ htables =>
    have hf := Layer.openOn_state f w.store heq ho
    have htable : w'.store.table i = s₁.table i := by rw [Store.table, htables]; rfl
    subst hi
    rw [htable]
    exact ⟨hf.schema, fun _ => hf.isNew.ignored⟩

theorem Typed.step (ht : w.Typed i) (hw : w.Sound) (hop : ¬w.Bypasses i op) :
    (w.step f A op).Typed i := by
  have hstore := ht.store_step (f := f) (A := A) hw hop
  rcases w.step_cases f A op with hs | ⟨a, he⟩
  · rw [hs]
    exact ht
  · obtain ⟨hstore, hstays⟩ := hstore
    exact ⟨hstore, fun v => he.writable_typed ht hw hstays hstore,
      fun n l => he.knows ht hw hstays hop⟩

theorem Typed.run (ht : w.Typed i) (hw : w.Sound) {ops : List Operation}
    (hops : w.RowsOnly f A i ops) : (w.run f A ops).Typed i := by
  induction ops generalizing w with
  | nil => exact ht
  | cons op ops ih => exact ih (ht.step hw hops.1) (hw.step op) hops.2

end FeatureLayer.Workspace
