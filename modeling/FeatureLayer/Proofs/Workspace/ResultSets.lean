import FeatureLayer.Proofs.Layer.Browsing
import FeatureLayer.Proofs.Layer.Deeds
import FeatureLayer.Proofs.Workspace.Soundness

namespace FeatureLayer

def Operation.browsesAt (n : String) : Operation → Bool
  | .openLayer _ _ _ m | .drop m => m ≠ n
  | .layer m r => m ≠ n || r.browses
  | .overlay _ input method result _ _ => input ≠ n && method ≠ n && result ≠ n
  | _ => true

def Operation.requestTo? (n : String) : Operation → Option LayerRequest
  | .layer m r => if m = n then some r else none
  | _ => none

theorem Operation.eq_of_requestTo? {n : String} {op : Operation} {r : LayerRequest}
    (h : op.requestTo? n = some r) : op = .layer n r := by
  cases op with
  | layer m r' =>
    simp only [requestTo?] at h
    split at h
    next hm =>
      cases h
      rw [hm]
    next => cases h
  | _ => cases h

def Operation.writesThrough (n : String) : Operation → Bool
  | .layer m r => m = n && r.writes
  | .overlay _ _ _ result _ _ => result = n
  | _ => false

namespace Store

variable {s s' : Store} {i d : Nat}

theorem Turn.listed {k : Control} (h : s.Turn d k s') {j : Nat} (hi : i ∈ (s'.source j).tables) :
    i ∈ (s.source j).tables := by
  cases h with
  | begin => exact (source_withSnapshot s d _ j).1 ▸ hi
  | commit => exact (source_withSnapshot s d _ j).1 ▸ hi
  | rollback =>
    rw [rolledBack, source_restore] at hi
    exact (source_cut s d _ j).1.subset hi

theorem table_setTable_of_ne {j : Nat} (h : j ≠ i) (t : FeatureTable) :
    (s.setTable j t).table i = s.table i :=
  (s.table_setTable j t i).trans (if_neg fun hj => h hj.1)

theorem table_askView {v : View} (h : v.table ≠ i) (r : ViewRequest) :
    (s.askView v r).2.2.table i = s.table i := by
  cases r with
  | setCapabilities | setReportedCount | setFidColumn | create | replace | upsert | delete =>
    exact table_setTable_of_ne h _
  | extent | setPredicate | setSpatial | ignore | rewind | next | seek => rfl

theorem table_askConnection (hi : ∀ d, i ∉ (s.source d).tables) (c : Connection)
    (r : ConnectionRequest) : (s.askConnection c r).2.2.table i = s.table i := by
  cases hr : r.control? with
  | none =>
    cases r with
    | begin | commit | rollback => cases hr
    | setTransactions | addDomain => rfl
  | some k =>
    rcases Workspace.askConnection_control hr s with ⟨-, ht⟩ | ⟨-, hs, -⟩
    · exact ht.table_eq (hi _)
    · rw [hs]

end Store

namespace Workspace

variable {f : Faults} {A : RegionAlgebra} {w w' : Workspace} {n : String} {i : Nat} {op : Operation}
  {a : Answer}

/-- The table of that number is in no source, and none but the layer of that name can be on it. -/
structure Apart (w : Workspace) (n : String) (i : Nat) : Prop where
  lt : i < w.store.tables.length
  unlisted : ∀ d, i ∉ (w.store.source d).tables
  views : ∀ m v, w.view? m = some v → v.table ≠ i
  layers : ∀ m l o, w.layer? m = some l → l.state = some o → m ≠ n → o.view.table ≠ i

theorem Apart.not_new (h : w.Apart n i) {v : View} {s : Store} (hv : v.New w.store s) : v.table ≠ i := by
  rintro rfl
  rcases hv.placed with ⟨d, hd⟩ | hle
  · exact h.unlisted d hd
  · exact Nat.not_lt.mpr hle h.lt

theorem Effect.table_eq (he : Effect f A w op a w') (h : w.Apart n i)
    (hop : op.browsesAt n = true) : w'.store.table i = w.store.table i := by
  have hclose : ∀ (w : Workspace) (m : String), (w.closeLayer m).store.table i = w.store.table i := by
    intro w m
    rw [Store.table, tables_closeLayer]
    rfl
  cases he with
  | refused | connect | layerByName | remove | release => rfl
  | @create source m c s h =>
    have htables : s.tables = w.store.tables := by
      unfold Store.create at h
      split at h
      · cases h
      · cases h
        rfl
    have htable : s.table i = w.store.table i := by
      rw [Store.table, htables]
      rfl
    cases m <;> exact htable
  | openFails ho => exact Layer.table_openOn ho h.lt
  | opens ho => exact (hclose _ _).trans (Layer.table_openOn ho h.lt)
  | drop m => exact hclose w m
  | @createLayer _ name schema m c _ _ _ ho =>
    obtain ⟨-, rfl⟩ := Store.createLayer_ok ho
    have hlt := h.lt
    have htable := (w.store.table_addTable (.make name schema) i).trans (if_neg (by omega))
    cases m <;> exact htable
  | @queryFails _ text _ spatial dialect c _ _ _ _ ho | @query _ text _ spatial dialect c _ _ _ _ ho =>
    have hq := w.store.table_query h.lt c text spatial dialect
    rw [ho] at hq
    exact hq
  | connection => exact Store.table_askConnection h.unlisted _ _
  | view hv => exact Store.table_askView (h.views _ _ hv) _
  | @layer m r l hl =>
    by_cases hm : m = n
    · have hr : r.browses = true := by simpa [Operation.browsesAt, hm] using hop
      cases r with
      | reset | next | fetch | seek | lookup | setPredicate | setSpatial | setSpatialWkt
      | setSpatialGeometry | setSpatialRect => rfl
      | _ => cases hr
    · exact (Layer.ask_deed f w.store l r).table_eq h.lt h.unlisted fun o ho => h.layers m l o hl ho hm
  | @overlay kind _ _ result o answer l m r _ _ _ hr ho =>
    subst ho
    have hresult : result ≠ n := by
      simp only [Operation.browsesAt, Bool.and_eq_true, decide_eq_true_eq] at hop
      exact hop.2
    have htable : (Layer.overlay f A kind w.store l m r o answer).store.table i = w.store.table i := by
      rcases Layer.overlay_store f A kind w.store l m r o answer with
        hs | ⟨ol, om, or, -, -, hor, hs⟩
      · rw [hs]
      · obtain ⟨t, ht⟩ := Overlay.run_store A kind w.store ol.view om.view or.view o answer
        rw [hs, ht]
        exact Store.table_setTable_of_ne (h.layers result r or hr hor hresult) t
    exact htable
  | @overlayViews kind _ _ _ o l m r _ _ _ hr ho =>
    subst ho
    have htable : (Overlay.run A kind w.store l m r o fun _ => true).store.table i =
        w.store.table i := by
      obtain ⟨t, ht⟩ := Overlay.run_store A kind w.store l m r o fun _ => true
      rw [ht]
      exact Store.table_setTable_of_ne (h.views _ _ hr) t
    exact htable

theorem Apart.step (h : w.Apart n i) (op : Operation) : (w.step f A op).Apart n i where
  lt := Nat.lt_of_lt_of_le h.lt (w.length_le_step f A op)
  unlisted d hd := by
    rcases w.step_store f A op with hw | ⟨_, c, ht⟩
    · rcases Store.Works.listed hw hd with hd | hle
      · exact h.unlisted d hd
      · exact Nat.not_lt.mpr hle h.lt
    · exact h.unlisted d (ht.listed hd)
  views m v hv hi := by
    rcases w.step_cases f A op with hs | ⟨a, he⟩
    · exact h.views m v (hs ▸ hv) hi
    · rcases he.view_held hv with ⟨m₀, v₀, hv₀, hh⟩ | hnew
      · exact h.views m₀ v₀ hv₀ ((congrArg (·.1) hh).symm.trans hi)
      · exact h.not_new hnew hi
  layers m l o hl ho hm hi := by
    rcases w.step_cases f A op with hs | ⟨a, he⟩
    · exact h.layers m l o (hs ▸ hl) ho hm hi
    · rcases he.open_held hl ho with ⟨l₀, o₀, hl₀, ho₀, -, hst⟩ | hf
      · exact h.layers m l₀ o₀ hl₀ ho₀ hm (hst.table.symm.trans hi)
      · exact h.not_new hf.isNew hi

theorem Apart.table_step (h : w.Apart n i) (hop : op.browsesAt n = true) :
    (w.step f A op).store.table i = w.store.table i := by
  rcases w.step_cases f A op with hs | ⟨a, he⟩
  · rw [hs]
  · exact he.table_eq h hop

theorem layer?_closeLayer_of_ne {m : String} (h : n ≠ m) : (w.closeLayer m).layer? n = w.layer? n := by
  unfold closeLayer
  split
  · exact (lookup_letGo w.layers m n).trans (if_neg h)
  · rfl

theorem Effect.layer?_eq (he : Effect f A w op a w') (hop : op.browsesAt n = true)
    (hr : op.requestTo? n = none) : w'.layer? n = w.layer? n := by
  have hheld : ∀ (w : Workspace) {m : String} (l : Layer), m ≠ n →
      (w.holdLayer m l).layer? n = w.layer? n := fun w m l hm =>
    (lookup_hold w.layers m n l).trans (if_neg hm.symm)
  cases he with
  | refused | openFails | connect | layerByName | remove | queryFails | query | release | connection
  | view | overlayViews => rfl
  | @create _ m | @createLayer _ _ _ m => cases m <;> rfl
  | @opens _ m _ _ _ _ s =>
    have hm : m ≠ n := by simpa [Operation.browsesAt] using hop
    rw [hheld _ _ hm]
    exact layer?_closeLayer_of_ne (w := { w with store := s }) hm.symm
  | drop m =>
    have hm : m ≠ n := by simpa [Operation.browsesAt] using hop
    exact layer?_closeLayer_of_ne hm.symm
  | @layer m =>
    have hm : m ≠ n := by
      rintro rfl
      simp [Operation.requestTo?] at hr
    exact hheld _ _ hm
  | overlay =>
    simp only [Operation.browsesAt, Bool.and_eq_true, decide_eq_true_eq] at hop
    rw [hheld _ _ hop.2, hheld _ _ hop.1.2, hheld _ _ hop.1.1]
    rfl

theorem layer?_step_eq (hop : op.browsesAt n = true) (hr : op.requestTo? n = none) :
    (w.step f A op).layer? n = w.layer? n := by
  rcases w.step_cases f A op with hs | ⟨a, he⟩
  · rw [hs]
  · exact he.layer?_eq hop hr

def repliesOf (f : Faults) (A : RegionAlgebra) (n : String) :
    Workspace → List Operation → List (Except Error Reply)
  | _, [] => []
  | w, op :: ops =>
    ((op.requestTo? n).bind fun _ => (w.perform f A op).map (·.1.value)).toList ++
      repliesOf f A n (w.step f A op) ops

/-- What is done beside it does not change what the layer answers. -/
theorem Apart.repliesOf_eq {l : Layer} (h : w.Apart n i) (hl : w.layer? n = some l)
    (hi : ∀ o, l.state = some o → o.view.table = i) {ops : List Operation}
    (hops : ∀ op ∈ ops, op.browsesAt n = true) :
    repliesOf f A n w ops = l.answers f w.store (ops.filterMap (·.requestTo? n)) := by
  induction ops generalizing w l with
  | nil => rfl
  | cons op ops ih =>
    obtain ⟨hop, hrest⟩ := List.forall_mem_cons.mp hops
    have hsame : ∀ {l' : Layer}, (∀ o, l'.state = some o → o.view.table = i) →
        l'.SameTable w.store (w.step f A op).store := fun hi o ho => by
      rw [hi o ho]
      exact h.table_step hop
    have hbrowses : ∀ r ∈ ops.filterMap (·.requestTo? n), r.browses = true := by
      intro r hr
      obtain ⟨op', hop', hr⟩ := List.mem_filterMap.mp hr
      obtain rfl := Operation.eq_of_requestTo? hr
      simpa [Operation.browsesAt] using hrest _ hop'
    cases hr : op.requestTo? n with
    | none =>
      have hl' := (layer?_step_eq (f := f) (A := A) hop hr).trans hl
      simp only [repliesOf, hr, List.filterMap_cons]
      rw [ih (h.step op) hl' hi hrest, Layer.answers_congr (hsame hi) hbrowses]
      rfl
    | some r =>
      obtain rfl := Operation.eq_of_requestTo? hr
      have hbrowse : r.browses = true := by simpa [Operation.browsesAt] using hop
      have hl' := layer?_step_layer f A w n r
      rw [hl] at hl'
      have hi' : ∀ o, (l.ask f w.store r).layer.state = some o → o.view.table = i := by
        intro o ho
        obtain ⟨o₀, ho₀, hm⟩ := (Layer.moves_of_browses hbrowse w.store l).state o ho
        exact hm.table.trans (hi o₀ ho₀)
      simp only [repliesOf, hr, List.filterMap_cons, perform_layer f A hl, Layer.answers]
      rw [ih (h.step _) hl' hi' hrest, Layer.answers_congr (hsame hi') hbrowses,
        Layer.store_of_browses hbrowse]
      rfl

def KeepsOut (w : Workspace) : Prop :=
  ∀ n l o, w.layer? n = some l → l.source.isQuery = true → l.state = some o → o.view.writable = false

theorem KeepsOut.step (h : w.KeepsOut) (op : Operation) : (w.step f A op).KeepsOut := by
  intro n l o hl hq ho
  exact open_step (P := fun source o => source.isQuery = true → o.view.writable = false)
    (fun _ _ _ h hst hq => hst.writable.trans (h hq)) (fun _ _ _ _ hf => hf.readOnly)
    (fun n l o hl ho hq => h n l o hl hq ho) op n l o hl ho hq

theorem KeepsOut.run (h : w.KeepsOut) (ops : List Operation) : (w.run f A ops).KeepsOut := by
  induction ops generalizing w with
  | nil => exact h
  | cons op ops ih => exact ih (h.step op)

theorem keepsOut_empty : empty.KeepsOut := fun _ _ _ hl => by cases hl

theorem KeepsOut.refuses (h : w.KeepsOut) {l : Layer} (hl : w.layer? n = some l)
    (hq : l.source.isQuery = true) (hop : op.writesThrough n = true) :
    w.grants .none A op = false ∧ (w.step .none A op).store = w.store := by
  have hv := fun o => h n l o hl hq
  cases op with
  | layer m r =>
    simp only [Operation.writesThrough, Bool.and_eq_true, decide_eq_true_eq] at hop
    obtain ⟨rfl, hr⟩ := hop
    obtain ⟨hvalue, hstore⟩ := Layer.ask_refused (s := w.store) hv hr
    have hp := perform_layer .none A hl r
    rw [step_of_perform .none A hp]
    refine ⟨?_, hstore⟩
    rcases hvalue with ⟨e, hvalue⟩ | hvalue
    all_goals simp [grants, hp, Answer.granted, hvalue]
  | overlay kind input method result o answer =>
    obtain rfl : result = n := by simpa [Operation.writesThrough] using hop
    rcases hp : w.perform .none A (.overlay kind input method result o answer) with _ | ⟨a, w'⟩
    · rw [step_of_perform_eq_none .none A hp]
      exact ⟨by simp [grants, hp], rfl⟩
    · rw [step_of_perform .none A hp]
      simp only [grants, hp, Option.any_some]
      cases effect_of_perform hp with
      | refused => exact ⟨rfl, rfl⟩
      | overlay _ _ hr ho =>
        obtain rfl := Option.some.inj (hl.symm.trans hr)
        obtain ⟨⟨e, he⟩, hs⟩ := Layer.overlay_refused hv A kind w.store _ _ o answer
        rw [ho] at he hs
        refine ⟨?_, hs⟩
        rw [he]
        rfl
  | _ => cases hop

end Workspace

end FeatureLayer
