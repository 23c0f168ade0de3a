import FeatureLayer.Proofs.Workspace.Step

namespace FeatureLayer

theorem FeatureTable.Sound.not_contains {t t' : FeatureTable} {r : Record} {fid : Int}
    (hs : t.Sound) (hc : t.Counted) (hg : r.given? = none)
    (h : t.insert r = .ok (fid, t') ∨ t.upsert r = .ok (fid, t')) :
    t.records.contains fid = false := by
  rcases h with h | h
  · exact hc.not_contains hg h
  · have hnone : r.fid.any t.records.contains = false := by
      cases hf : r.fid with
      | none => rfl
      | some k =>
        -- only the number that stands for no identifier counts as none
        have hk : k = Record.missingFid := by
          by_contra hne
          simp [Record.given?, hf, Record.fidOf, hne] at hg
        rw [Option.any_some, Bool.eq_false_iff]
        intro hin
        obtain ⟨x, hx, hxk⟩ := FidMap.contains_iff.mp hin
        exact hs.named x hx (hxk.trans hk)
    unfold FeatureTable.upsert at h
    rw [hnone] at h
    exact hc.not_contains hg h

theorem View.write_ok {t : FeatureTable} {v : View} {capability : LayerCapability} {method : String}
    {act : FeatureTable → Except FeatureTable.Rejection (Int × FeatureTable)} {fid : Int}
    (h : (v.write t capability method act).1 = .ok fid) :
    v.writable = true ∧ ∃ t', act t = .ok (fid, t') := by
  unfold write at h
  simp only at h
  split at h
  · cases h
  · rename_i hw
    split at h
    · cases h
    · split at h
      · rename_i heq
        cases h
        exact ⟨by simpa using hw, _, heq⟩
      · cases h

namespace Workspace

def Holds (w : Workspace) (v : View) : Prop :=
  (∃ n, w.view? n = some v) ∨ ∃ n l o, w.layer? n = some l ∧ l.state = some o ∧ o.view = v

structure Sound (w : Workspace) : Prop where
  store : w.store.Sound
  held : ∀ v, w.Holds v → v.Proper w.store
  /-- A layer whose scan is idle reads from the start of its view. -/
  atStart : ∀ n l o, w.layer? n = some l → l.state = some o → o.scan = .idle →
    o.view.position = none

structure Unqueried (w : Workspace) : Prop where
  counted : ∀ i, (w.store.table i).Counted
  named : ∀ n l, w.layer? n = some l → l.source.isQuery = false

/-- A table that only holds the result of a query: no source lists it and no one writes to it. -/
structure Sealed (w : Workspace) (i : Nat) : Prop where
  unlisted : ∀ d, i ∉ (w.store.source d).tables
  readOnly : ∀ v, w.Holds v → v.table = i → v.isResultSet = true ∧ v.writable = false

variable {f : Faults} {A : RegionAlgebra} {w : Workspace}

theorem sound_empty : empty.Sound where
  store := Store.sound_empty
  held v hv := by
    rcases hv with ⟨n, h⟩ | ⟨n, l, o, h, -, -⟩
    · cases h
    · cases h
  atStart _ _ _ h := by cases h

theorem unqueried_empty : empty.Unqueried where
  counted _ := FeatureTable.counted_make "" .empty
  named _ _ h := by cases h

/-- A view that is held after an operation, by a layer or by itself, stands where one stood before,
or it is new. -/
theorem Effect.held {op : Operation} {a : Answer} (he : Effect f A w op a w') {v : View}
    (hv : w'.Holds v) :
    (∃ v₀, w.Holds v₀ ∧ v.handle = v₀.handle) ∨ v.New w.store w'.store := by
  rcases hv with ⟨n, hv⟩ | ⟨n, l, o, hl, ho, rfl⟩
  · rcases he.view_held hv with ⟨m, v₀, hv₀, hh⟩ | hnew
    · exact .inl ⟨v₀, .inl ⟨m, hv₀⟩, hh⟩
    · exact .inr hnew
  rcases he.open_held hl ho with ⟨l₀, o₀, hl₀, ho₀, -, hst⟩ | hf
  · exact .inl ⟨o₀.view, .inr ⟨n, l₀, o₀, hl₀, ho₀, rfl⟩, hst.handle⟩
  · exact .inr hf.isNew

theorem Sound.step (h : w.Sound) (op : Operation) : (w.step f A op).Sound := by
  have hstore : (w.step f A op).store.Sound ∧
      ∀ v : View, v.Proper w.store → v.Proper (w.step f A op).store := by
    rcases w.step_store f A op with hw | ⟨d, c, ht⟩
    · exact ⟨Store.Works.sound hw h.store, fun v hv => hv.works hw⟩
    · exact ⟨ht.sound h.store, fun v hv => hv.turn h.store ht⟩
  rcases w.step_cases f A op with hs | ⟨a, he⟩
  · rw [hs]
    exact h
  · refine ⟨hstore.1, ?_, fun n l o hl ho hidle => ?_⟩
    · intro v hv
      rcases he.held hv with ⟨v₀, hv₀, hh⟩ | hnew
      · exact (hstore.2 v₀ (h.held v₀ hv₀)).congr hh
      · exact hnew.proper h.store
    · rcases he.open_held hl ho with ⟨l₀, o₀, hl₀, ho₀, -, hst⟩ | hf
      · rcases hst.idle hidle with hp | ⟨hi, hp⟩
        · exact hp
        · exact hp.trans (h.atStart n l₀ o₀ hl₀ ho₀ hi)
      · exact hf.atStart

theorem Sound.run (h : w.Sound) (ops : List Operation) : (w.run f A ops).Sound := by
  induction ops generalizing w with
  | nil => exact h
  | cons op ops ih => exact ih (h.step op)

theorem Unqueried.step (h : w.Unqueried) (hs : w.Sound) {op : Operation} (hop : op.queries = false) :
    (w.step f A op).Unqueried where
  counted i := by
    have hno : ¬w.MayQuery op := by
      rintro (hq | ⟨n, r, l, rfl, hl, hq⟩)
      · rw [hop] at hq
        cases hq
      · rw [h.named n l hl] at hq
        cases hq
    rcases w.step_store f A op with hw | ⟨d, c, ht⟩
    · exact Store.Works.all_counted hw hno h.counted i
    · exact ht.counted hs.store (h.counted i)
  named n l hl := by
    rcases w.step_cases f A op with hstep | ⟨a, he⟩
    · rw [hstep] at hl
      exact h.named n l hl
    · cases he.layerOrigin hl with
      | kept hl₀ hk =>
        rw [hk.source]
        exact h.named n _ hl₀
      | refreshed hl₀ hk =>
        rw [Layer.refreshSchema_source, hk.source]
        exact h.named n _ hl₀
      | @asked l₀ r hl₀ =>
        rw [Layer.ask_source]
        exact h.named n l₀ hl₀
      | opened ho _ heq =>
        subst ho
        rw [Layer.openOn_source f w.store heq]
        exact hop

theorem Unqueried.run (h : w.Unqueried) (hs : w.Sound) {ops : List Operation}
    (hops : ∀ op ∈ ops, op.queries = false) : (w.run f A ops).Unqueried := by
  induction ops generalizing w with
  | nil => exact h
  | cons op ops ih =>
    exact ih (h.step hs (hops op List.mem_cons_self)) (hs.step op)
      fun op' h' => hops op' (List.mem_cons_of_mem op h')

/-- Whatever has been done, every stored record lies under its own identifier and meets the
constraints of its table. Identifiers run up, but in the results of queries, so that one that is
assigned to a record was not in use. -/
theorem constraints_hold (f : Faults) (A : RegionAlgebra) (ops : List Operation) :
    let w := empty.run f A ops
    (∀ t ∈ w.store.tables, t.Sound) ∧
      ((∀ op ∈ ops, op.queries = false) → ∀ t ∈ w.store.tables, t.Counted) ∧
      (∀ i, (w.store.table i).Counted ∨ w.Sealed i) ∧
      ∀ v, w.Holds v → ∀ (r : Record) (fid : Int), r.given? = none →
        (v.create (w.store.table v.table) r).1 = .ok fid ∨
          (v.upsert (w.store.table v.table) r).1 = .ok fid →
        (w.store.table v.table).records.contains fid = false := by
  have h : (empty.run f A ops).Sound := sound_empty.run ops
  have hu : (∀ op ∈ ops, op.queries = false) → (empty.run f A ops).Unqueried :=
    unqueried_empty.run sound_empty
  generalize empty.run f A ops = w at h hu ⊢
  refine ⟨fun t ht => ?_, fun hops t ht => ?_, fun i => ?_, fun v hv r fid hg hc => ?_⟩
  · obtain ⟨i, rfl⟩ := Store.table_of_mem ht
    exact h.store.tables i
  · obtain ⟨i, rfl⟩ := Store.table_of_mem ht
    exact (hu hops).counted i
  · by_cases hc : (w.store.table i).Counted
    · exact .inl hc
    · refine .inr ⟨fun d hi => hc (h.store.counted d i hi), fun v hv hi => ?_⟩
      exact (h.held v hv).counted.resolve_left (hi ▸ hc)
  · have hwrite : v.writable = true ∧ ∃ t', (w.store.table v.table).insert r = .ok (fid, t') ∨
        (w.store.table v.table).upsert r = .ok (fid, t') := by
      rcases hc with hc | hc
      · obtain ⟨hw, t', ht⟩ := View.write_ok hc
        exact ⟨hw, t', .inl ht⟩
      · obtain ⟨hw, t', ht⟩ := View.write_ok hc
        exact ⟨hw, t', .inr ht⟩
    obtain ⟨hw, t', ht⟩ := hwrite
    have hcount := (h.held v hv).counted.resolve_right fun hr => by simp [hw] at hr
    exact (h.store.tables v.table).not_contains hcount hg ht

theorem constraints_hold_after_given :
    let w := empty.run .none .exact
      [.create "d" (some "c"), .createLayer "c" "t" .empty (some "v"),
        .view "v" (.create ⟨some 5, [], []⟩)]
    (∀ t ∈ w.store.tables, t.Counted) ∧
      ∃ v, w.view? "v" = some v ∧ (v.create (w.store.table v.table) ⟨none, [], []⟩).1 = .ok 6 ∧
        (w.store.table v.table).records.contains 6 = false := by
  intro w
  have h := constraints_hold .none .exact
    [.create "d" (some "c"), .createLayer "c" "t" .empty (some "v"),
      .view "v" (.create ⟨some 5, [], []⟩)]
  have hview : w.view? "v" = some (View.make 0 0 true false) := rfl
  have hcreate : ((View.make 0 0 true false).create (w.store.table 0) ⟨none, [], []⟩).1 = .ok 6 :=
    rfl
  refine ⟨h.2.1 (by decide), View.make 0 0 true false, hview, hcreate, ?_⟩
  exact h.2.2.2 _ (.inl ⟨"v", hview⟩) _ 6 rfl (.inl hcreate)

end Workspace

end FeatureLayer
