import FeatureLayer.Proofs.Layer.Holding
import FeatureLayer.Proofs.Workspace.Step
/-!
Result sets and handles over all operations. The count of a data source goes up when a layer comes to be
open on a query to it and down when it ceases to be: a layer that cannot be opened does not count, and one
that is closed twice is not taken off twice.
-/

namespace FeatureLayer

def Operation.queriesBare : Operation → Bool
  | .query .. | .release .. => true
  | _ => false

theorem Store.resultSets_askConnection (s : Store) (c : Connection) (r : ConnectionRequest) (d : Nat) :
    (s.askConnection c r).2.2.resultSets d = s.resultSets d := by
  cases hr : r.control? with
  | none =>
    cases r with
    | begin | commit | rollback => cases hr
    | setTransactions | addDomain =>
      refine resultSets_setSource ?_ d
      rfl
  | some k =>
    rcases Workspace.askConnection_control hr s with ⟨-, ht⟩ | ⟨-, hs, -⟩
    · exact ht.resultSets_eq d
    · rw [hs]

namespace Workspace

section Names

variable {α : Type} {held : List (String × α)} {n m : String} {a b c : α}

theorem letGo_of_lookup_eq_none (h : lookup held n = none) : letGo held n = held := by
  rw [lookup, Option.map_eq_none_iff, List.find?_eq_none] at h
  exact List.filter_eq_self.mpr fun x hx => by simpa using h x hx

theorem nodup_letGo (h : (held.map (·.1)).Nodup) (n : String) : ((letGo held n).map (·.1)).Nodup :=
  h.sublist (List.filter_sublist.map _)

theorem nodup_hold (h : (held.map (·.1)).Nodup) (n : String) (a : α) :
    ((hold held n a).map (·.1)).Nodup := by
  rw [hold, List.map_cons, List.nodup_cons]
  exact ⟨by simp, nodup_letGo h n⟩

theorem lookup_of_mem (h : (held.map (·.1)).Nodup) (ha : (n, a) ∈ held) : lookup held n = some a := by
  induction held with
  | nil => cases ha
  | cons x held ih =>
    rw [List.map_cons, List.nodup_cons] at h
    rw [lookup, List.find?_cons]
    rcases List.mem_cons.mp ha with rfl | ha
    · simp
    · have hx : x.1 ≠ n := fun hx => h.1 (List.mem_map.mpr ⟨_, ha, hx.symm⟩)
      simp only [hx, decide_false]
      exact ih h.2 ha

theorem perm_hold (h : (held.map (·.1)).Nodup) (ha : lookup held n = some a) :
    held.Perm (hold held n a) := by
  induction held with
  | nil => cases ha
  | cons x held ih =>
    rw [List.map_cons, List.nodup_cons] at h
    rw [lookup, List.find?_cons] at ha
    by_cases hx : x.1 = n
    · subst hx
      obtain rfl : x.2 = a := by simpa using ha
      have hrest : held.filter (·.1 ≠ x.1) = held := by
        refine List.filter_eq_self.mpr fun y hy => decide_eq_true fun hxy => ?_
        exact h.1 (List.mem_map.mpr ⟨y, hy, hxy⟩)
      rw [hold, List.filter_cons, if_neg (by simp), hrest]
    · simp only [hx, decide_false] at ha
      rw [hold, List.filter_cons, if_pos (decide_eq_true hx)]
      exact ((ih h.2 ha).cons x).trans (.swap ..)

theorem countP_hold (held : List (String × α)) (n : String) (a : α) (p : α → Bool) :
    (hold held n a).countP (fun x => p x.2) = (letGo held n).countP (fun x => p x.2) + (p a).toNat := by
  rw [hold, List.countP_cons]
  cases p a <;> rfl

theorem countP_letGo (h : (held.map (·.1)).Nodup) (ha : lookup held n = some a) (p : α → Bool) :
    held.countP (fun x => p x.2) = (letGo held n).countP (fun x => p x.2) + (p a).toNat :=
  ((perm_hold h ha).countP_eq _).trans (countP_hold held n a p)

theorem countP_hold_eq (h : (held.map (·.1)).Nodup) (ha : lookup held n = some a) (p : α → Bool)
    (hb : p b = p a) : (hold held n b).countP (fun x => p x.2) = held.countP (fun x => p x.2) := by
  rw [countP_hold, countP_letGo h ha, hb]

theorem lookup_hold_eq (ha : lookup held n = some a) (p : α → Bool) (hb : p b = p a)
    (hc : lookup held m = some c) : ∃ c', lookup (hold held n b) m = some c' ∧ p c' = p c := by
  rw [lookup_hold]
  split
  next hm =>
    obtain rfl : a = c := Option.some.inj (ha.symm.trans (hm ▸ hc))
    exact ⟨b, rfl, hb⟩
  next => exact ⟨c, hc, rfl⟩

end Names

variable {f : Faults} {A : RegionAlgebra} {w w' : Workspace} {n : String} {op : Operation} {a : Answer}

/-- No two layers go by one name, each source counts the result sets that the layers hold, and the two
handles of an open layer are on the same source. -/
structure Accounts (w : Workspace) : Prop where
  named : (w.layers.map (·.1)).Nodup
  counted : ∀ d, w.store.resultSets d = w.layers.countP fun x => x.2.hasResult d
  matched : ∀ n l o, w.layer? n = some l → l.state = some o → o.view.source = o.connection.source

theorem layers_closeLayer (w : Workspace) (n : String) :
    (w.closeLayer n).layers = letGo w.layers n := by
  unfold closeLayer
  cases hl : w.layer? n with
  | none => exact (letGo_of_lookup_eq_none hl).symm
  | some l => rfl

theorem counted_closeLayer (hn : (w.layers.map (·.1)).Nodup) {d : Nat}
    (hle : w.layers.countP (fun x => x.2.hasResult d) ≤ w.store.resultSets d) :
    (w.closeLayer n).store.resultSets d + w.layers.countP (fun x => x.2.hasResult d) =
      w.store.resultSets d + (letGo w.layers n).countP fun x => x.2.hasResult d := by
  unfold closeLayer
  cases hl : w.layer? n with
  | none =>
    rw [letGo_of_lookup_eq_none hl]
  | some l =>
    have hheld := countP_letGo hn hl (·.hasResult d)
    have hclose := l.settles_close w.store d (by omega)
    rw [Layer.hasResult_of_closed (Layer.close_state w.store l).1, Bool.toNat_false] at hclose
    show (l.close w.store).2.resultSets d + _ = _
    omega

theorem Effect.named (he : Effect f A w op a w') (hn : (w.layers.map (·.1)).Nodup) :
    (w'.layers.map (·.1)).Nodup := by
  cases he with
  | refused | remove | connect | openFails | layerByName | queryFails | query | release | connection
  | view | overlayViews => exact hn
  | @create _ m | @createLayer _ _ _ m => cases m <;> exact hn
  | @opens _ m _ _ _ _ s =>
    exact nodup_hold (by rw [layers_closeLayer]; exact nodup_letGo hn m) ..
  | drop m =>
    show ((w.closeLayer m).layers.map (·.1)).Nodup
    rw [layers_closeLayer]
    exact nodup_letGo hn m
  | layer => exact nodup_hold hn ..
  | overlay => exact nodup_hold (nodup_hold (nodup_hold hn ..) ..) ..

theorem Effect.counted (he : Effect f A w op a w') (hop : op.queriesBare = false) (h : w.Accounts)
    (d : Nat) : w'.store.resultSets d = w'.layers.countP fun x => x.2.hasResult d := by
  have hcounted := h.counted d
  cases he with
  | queryFails | query | release => cases hop
  | refused | connect | layerByName | remove => exact hcounted
  | @create source m c s hc =>
    have hs : s.resultSets d = w.store.resultSets d := by
      unfold Store.create at hc
      split at hc
      · cases hc
      · cases hc
        exact congrArg (·.resultSets) (w.store.source_create source d)
    cases m <;> exact hs.trans hcounted
  | openFails ho => exact ((Layer.resultSets_openOn ho d).trans (Nat.add_zero _)).trans hcounted
  | @opens _ m _ _ l _ s ho =>
    have hopen : s.resultSets d = w.store.resultSets d + (l.hasResult d).toNat :=
      Layer.resultSets_openOn ho d
    have hclose := counted_closeLayer (w := { w with store := s }) (n := m) (d := d) h.named
      (hopen ▸ hcounted ▸ Nat.le_add_right _ _)
    have hleft : letGo (letGo w.layers m) m = letGo w.layers m :=
      letGo_of_lookup_eq_none ((lookup_letGo w.layers m m).trans (if_pos rfl))
    show (closeLayer _ m).store.resultSets d = (hold (closeLayer _ m).layers m l).countP _
    rw [layers_closeLayer, countP_hold _ m l (·.hasResult d), hleft]
    simp only at hclose
    omega
  | drop m =>
    have hclose := counted_closeLayer (n := m) h.named (Nat.le_of_eq hcounted.symm)
    show (w.closeLayer m).store.resultSets d = (w.closeLayer m).layers.countP _
    rw [layers_closeLayer]
    omega
  | @createLayer _ name schema m c v s hc ho =>
    have hs : s.resultSets d = w.store.resultSets d := by
      obtain ⟨-, rfl⟩ := Store.createLayer_ok ho
      refine Store.resultSets_setSource (s := (w.store.addTable _).2) ?_ d
      rfl
    cases m <;> exact hs.trans hcounted
  | @connection m r c hc =>
    refine Eq.trans ?_ hcounted
    exact w.store.resultSets_askConnection c r d
  | @view m r v hv =>
    refine Eq.trans ?_ hcounted
    show (w.store.askView v r).2.2.resultSets d = _
    cases r <;> rfl
  | @layer m r l hl =>
    have hheld := countP_letGo h.named hl (·.hasResult d)
    have hask := l.settles_ask f w.store r d (by omega)
    show (l.ask f w.store r).store.resultSets d = (hold w.layers m (l.ask f w.store r).layer).countP _
    rw [countP_hold w.layers m (l.ask f w.store r).layer (·.hasResult d)]
    omega
  | @overlay kind input method result o answer i m r _ hi hm hr hout =>
    subst hout
    obtain ⟨hs, hpi, hpm, hpr⟩ := Layer.hasResult_overlay f w.store A kind i m r o answer d
    generalize Layer.overlay f A kind w.store i m r o answer = out at hs hpi hpm hpr ⊢
    -- one layer may be held under two of the names, which changes nothing
    obtain ⟨m₁, hm₁, hpm₁⟩ := lookup_hold_eq hi (·.hasResult d) hpi hm
    obtain ⟨r₁, hr₁, hpr₁⟩ := lookup_hold_eq hi (·.hasResult d) hpi hr
    obtain ⟨r₂, hr₂, hpr₂⟩ := lookup_hold_eq hm₁ (·.hasResult d) (hpm.trans hpm₁.symm) hr₁
    have hn₁ := nodup_hold h.named input out.input
    have hn₂ := nodup_hold hn₁ method out.method
    show out.store.resultSets d =
      (hold (hold (hold w.layers input out.input) method out.method) result out.result).countP _
    rw [countP_hold_eq hn₂ hr₂ (·.hasResult d) (hpr.trans (hpr₂.trans hpr₁).symm),
      countP_hold_eq hn₁ hm₁ (·.hasResult d) (hpm.trans hpm₁.symm),
      countP_hold_eq h.named hi (·.hasResult d) hpi, hs, hcounted]
  | @overlayViews kind _ _ _ o i m r _ _ _ _ hout =>
    subst hout
    obtain ⟨t, ht⟩ := Overlay.run_store A kind w.store i m r o fun _ => true
    exact (congrArg (·.resultSets d) ht).trans hcounted

theorem accounts_empty : empty.Accounts :=
  ⟨.nil, fun _ => rfl, fun _ _ _ hl => by cases hl⟩

variable (f) (A) in
theorem Accounts.step (h : w.Accounts) (hop : op.queriesBare = false) : (w.step f A op).Accounts := by
  have hmatched := open_step (f := f) (A := A)
    (P := fun _ o => o.view.source = o.connection.source)
    (fun _ _ _ h hst => hst.viewSource.trans (h.trans hst.source.symm))
    (fun _ _ _ _ hf => hf.matched) h.matched op
  rcases w.step_cases f A op with hs | ⟨a, he⟩
  · rw [hs]
    exact h
  · exact ⟨he.named h.named, he.counted hop h, hmatched⟩

/-- The workspace after operations of which each has faults of its own. -/
def runUnder (A : RegionAlgebra) (w : Workspace) (ops : List (Faults × Operation)) : Workspace :=
  ops.foldl (fun w x => w.step x.1 A x.2) w

theorem Accounts.runUnder (h : w.Accounts) {ops : List (Faults × Operation)}
    (hops : ∀ x ∈ ops, x.2.queriesBare = false) : (w.runUnder A ops).Accounts := by
  induction ops generalizing w with
  | nil => exact h
  | cons x ops ih =>
    rw [List.forall_mem_cons] at hops
    exact ih (h.step x.1 A hops.1) hops.2

theorem Accounts.handles_eq (h : w.Accounts) {l : Layer} (hl : (n, l) ∈ w.layers) :
    l.handles = (l.state.map fun o => List.replicate 2 o.connection.source).getD [] := by
  unfold Layer.handles
  cases ho : l.state with
  | none => rfl
  | some o =>
    have := h.matched n l o (lookup_of_mem h.named hl) ho
    simp [this]

theorem Accounts.count_handles (h : w.Accounts) (d : Nat) :
    (w.layers.flatMap (·.2.handles)).count d = 2 * w.layers.countP (·.2.isOn d) := by
  have hone : ∀ x ∈ w.layers, x.2.handles.count d = 2 * (x.2.isOn d).toNat := by
    rintro ⟨n, l⟩ hx
    rw [h.handles_eq hx, Layer.isOn]
    cases l.state with
    | none => rfl
    | some o => by_cases ho : o.connection.source = d <;> simp [ho]
  generalize w.layers = held at hone ⊢
  induction held with
  | nil => rfl
  | cons x held ih =>
    rw [List.forall_mem_cons] at hone
    rw [List.flatMap_cons, List.count_append, hone.1, ih hone.2, List.countP_cons]
    cases x.2.isOn d with
    | false => simp
    | true => simp; omega

/-- Whatever operations have been done, and whichever of their parts have failed, each data source counts
just the result sets of the layers that are open on a query to it. An open layer has two handles on its
data source and a closed one has none. -/
theorem result_sets_released_once (A : RegionAlgebra) (ops : List (Faults × Operation))
    (hops : ∀ x ∈ ops, x.2.queriesBare = false) :
    let w := empty.runUnder A ops
    (w.layers.map (·.1)).Nodup ∧
      (∀ n l, (n, l) ∈ w.layers →
        l.handles = (l.state.map fun o => List.replicate 2 o.connection.source).getD []) ∧
      ∀ d, w.store.resultSets d = w.layers.countP (·.2.hasResult d) ∧
        ∀ source, w.store.find? source = some d →
          w.resultSetCount source = w.layers.countP (·.2.hasResult d) ∧
            w.holdCount source = w.connections.countP (·.2.source = d) +
              w.views.countP (·.2.source = d) + (w.layers.flatMap (·.2.handles)).count d := by
  intro w
  have h : w.Accounts := accounts_empty.runUnder hops
  refine ⟨h.named, fun _ _ => h.handles_eq, fun d => ⟨h.counted d, fun source hsource => ⟨?_, ?_⟩⟩⟩
  · rw [resultSetCount, hsource]
    exact h.counted d
  · simp only [holdCount, hsource, h.count_handles, List.countP_eq_length_filter]
    rfl

def failingLayers : List (Faults × Operation) :=
  let noResult : Faults := { Faults.none with query := some .noResult }
  let refusing : Faults := { Faults.none with opening := some .layerClosed }
  let options : OpenOptions := ⟨.readWrite, .empty, none, none⟩
  [(.none, .create "d" (some "c")), (.none, .createLayer "c" "t" .empty none),
    (.none, .openLayer "d" (.query "SELECT * FROM t") options "q"),
    (noResult, .openLayer "d" (.query "SELECT * FROM t") options "r"),
    (.none, .openLayer "d" (.query "SELECT * FROM t") options "r"),
    (refusing, .layer "q" (.reopen .readOnly)), (.none, .layer "r" (.reopen .readOnly)),
    (.none, .layer "q" .close), (.none, .openLayer "d" (.name "t") options "n"),
    (.none, .openLayer "d" (.query "SELECT * FROM t") options "s"), (.none, .drop "s")]

theorem result_sets_released_once_where_layers_fail :
    let w := empty.runUnder .exact failingLayers
    w.layers.map (fun x => (x.1, x.2.isOpen, x.2.source.isQuery)) =
        [("n", true, false), ("q", false, true), ("r", true, true)] ∧
      w.resultSetCount "d" = 1 ∧ w.holdCount "d" = 1 + 0 + 4 := by
  intro w
  have h := result_sets_released_once .exact failingLayers (by simp [failingLayers, Operation.queriesBare])
  obtain ⟨hcount, hholds⟩ := (h.2.2 0).2 "d" (by decide +kernel)
  refine ⟨by decide +kernel, ?_, ?_⟩
  · rw [hcount]
    decide +kernel
  · rw [hholds]
    decide +kernel

end Workspace

end FeatureLayer
