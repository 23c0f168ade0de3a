import FeatureLayer.Proofs.Store.Restoring
import FeatureLayer.Proofs.Workspace.ScanOrder

namespace FeatureLayer.Layer

/-- Two layers that differ for reads in their tables alone, which are decoded alike. -/
structure Alike (s s' : Store) (l l' : Layer) (o o' : OpenLayer) : Prop where
  state : l.state = some o
  state' : l'.state = some o'
  reading : l'.reading = l.reading
  interrupt : l'.interrupt = l.interrupt
  view : o'.view = o.view
  schema : o'.schema = o.schema
  ignored : o'.ignored = o.ignored
  unlimited : o.view.Unlimited
  reportedCount : (s'.table o.view.table).reportedCount = (s.table o.view.table).reportedCount
  decoded : (s'.table o.view.table).decoded (l.plan o) Faults.none.codec l.reading =
    (s.table o.view.table).decoded (l.plan o) Faults.none.codec l.reading

variable {s s' : Store} {l l' : Layer} {o o' : OpenLayer}

namespace Alike

theorem plan_eq (h : Alike s s' l l' o o') : l'.plan o' = l.plan o := by
  rw [plan, plan, h.schema, h.ignored, h.reading]

theorem moved (h : Alike s s' l l' o o') {v : View} {scan scan' : Scan} {l₁ l₁' : Layer}
    (hv : v.Unlimited) (ht : v.table = o.view.table)
    (hstate : l₁.state = some { o with view := v, scan })
    (hstate' : l₁'.state = some { o' with view := v, scan := scan' })
    (hreading : l₁.reading = l.reading) (hreading' : l₁'.reading = l'.reading)
    (hinterrupt : l₁'.interrupt = l₁.interrupt) :
    Alike s s' l₁ l₁' { o with view := v, scan } { o' with view := v, scan := scan' } where
  state := hstate
  state' := hstate'
  reading := by rw [hreading, hreading', h.reading]
  interrupt := hinterrupt
  view := rfl
  schema := h.schema
  ignored := h.ignored
  unlimited := hv
  reportedCount := ht ▸ h.reportedCount
  decoded := by
    rw [hreading, plan, hreading, ht]
    exact h.decoded

theorem reset (h : Alike s s' l l' o o') :
    Alike s s' l.reset.2 l'.reset.2 { o with view := o.view.rewind, scan := .idle }
      { o' with view := o.view.rewind, scan := .idle } := by
  refine h.moved ⟨h.unlimited.predicate, h.unlimited.spatial, h.unlimited.ignored⟩ rfl ?_ ?_ ?_ ?_ ?_
  all_goals
    simp only [Layer.reset, h.state, h.state', h.view, withState]
  exact h.interrupt

theorem next (h : Alike s s' l l' o o') :
    (l'.next .none s').1 = (l.next .none s).1 ∧
      ∃ o₁ o₁', Alike s s' (l.next .none s).2 (l'.next .none s').2 o₁ o₁' := by
  obtain ⟨hrow, hview⟩ := h.unlimited.next_eq h.decoded
  obtain ⟨place, hplace⟩ := View.next_eq (s.table o.view.table) o.view
  unfold Layer.next
  rw [h.state, h.state']
  simp only [Faults.none_next, h.view]
  generalize o.view.next (s.table o.view.table) = q at hrow hview hplace ⊢
  generalize o.view.next (s'.table o.view.table) = q' at hrow hview ⊢
  obtain ⟨r, v⟩ := q
  obtain ⟨r', v'⟩ := q'
  simp only at hview hplace hrow
  subst hview hplace
  have hv : ({ o.view with position := place } : View).Unlimited :=
    ⟨h.unlimited.predicate, h.unlimited.spatial, h.unlimited.ignored⟩
  cases r with
  | none =>
    rw [Option.map_none, Option.map_eq_none_iff] at hrow
    subst hrow
    exact ⟨rfl, _, _, h.moved hv rfl rfl rfl rfl rfl h.interrupt⟩
  | some r =>
    rw [Option.map_some, Option.map_eq_some_iff] at hrow
    obtain ⟨r', rfl, hdecode⟩ := hrow
    refine ⟨?_, _, _, h.moved hv rfl rfl rfl rfl rfl h.interrupt⟩
    simp only [ReadPlan.decodeRow, h.plan_eq, h.reading, hdecode]

theorem fetchRows_eq {plan : ReadPlan} {reading : ReadOptions} (limit : Nat) (p : Fetch)
    (hv : p.view.Unlimited)
    (hd : (s'.table p.view.table).decoded plan Faults.none.codec reading =
      (s.table p.view.table).decoded plan Faults.none.codec reading) :
    fetchRows .none s' plan reading limit p = fetchRows .none s plan reading limit p := by
  induction limit generalizing p with
  | zero => rfl
  | succ limit ih =>
    obtain ⟨hrow, hview⟩ := hv.next_eq hd
    obtain ⟨place, hplace⟩ := View.next_eq (s.table p.view.table) p.view
    unfold fetchRows
    simp only [Faults.none_next]
    generalize p.view.next (s.table p.view.table) = q at hrow hview hplace ⊢
    generalize p.view.next (s'.table p.view.table) = q' at hrow hview ⊢
    obtain ⟨r, v⟩ := q
    obtain ⟨r', v'⟩ := q'
    simp only at hview hplace hrow
    subst hview hplace
    cases r with
    | none =>
      rw [Option.map_none, Option.map_eq_none_iff] at hrow
      rw [hrow]
    | some r =>
      -- the two records may differ, but are decoded to the same values
      rw [Option.map_some, Option.map_eq_some_iff] at hrow
      obtain ⟨r', rfl, hdecode⟩ := hrow
      simp only [hdecode]
      cases plan.decode Faults.none.codec reading r with
      | error e => rfl
      | ok values =>
        simp only
        split
        · rfl
        · exact ih _ ⟨hv.predicate, hv.spatial, hv.ignored⟩ hd

theorem fetchFrom (h : Alike s s' l l' o o') {view : View} (hv : view.Unlimited)
    (ht : view.table = o.view.table) (expected : Option Int) (room limit : Nat) :
    (l'.fetchFrom .none s' o' view expected room limit).1 =
        (l.fetchFrom .none s o view expected room limit).1 ∧
      ∃ o₁ o₁', Alike s s' (l.fetchFrom .none s o view expected room limit).2.2
        (l'.fetchFrom .none s' o' view expected room limit).2.2 o₁ o₁' := by
  have hrows : fetchRows .none s' (l.plan o) l.reading limit
      ⟨view, .start (l.plan o), l.interrupt⟩ = fetchRows .none s (l.plan o) l.reading limit
      ⟨view, .start (l.plan o), l.interrupt⟩ :=
    fetchRows_eq limit _ hv (by rw [ht]; exact h.decoded)
  obtain ⟨place, hplace⟩ := Layer.fetchRows_eq .none s (l.plan o) l.reading limit
    ⟨view, .start (l.plan o), l.interrupt⟩
  unfold Layer.fetchFrom
  simp only [h.plan_eq, h.reading, h.interrupt, hrows]
  split
  · exact ⟨rfl, _, _, h.moved hv ht rfl rfl rfl rfl h.interrupt⟩
  · generalize fetchRows .none s (l.plan o) l.reading limit
      ⟨view, .start (l.plan o), l.interrupt⟩ = out at hplace ⊢
    obtain ⟨e, p⟩ := out
    simp only at hplace
    have hv : p.view.Unlimited := by
      rw [hplace]
      exact ⟨hv.predicate, hv.spatial, hv.ignored⟩
    have ht : p.view.table = o.view.table := by
      rw [hplace]
      exact ht
    cases e with
    | error e => exact ⟨rfl, _, _, h.moved hv ht rfl rfl rfl rfl rfl⟩
    | ok u => exact ⟨rfl, _, _, h.moved hv ht rfl rfl rfl rfl rfl⟩

theorem length_entries (h : Alike s s' l l' o o') :
    (s'.table o.view.table).records.entries.length =
      (s.table o.view.table).records.entries.length := by
  have := congrArg List.length (FeatureTable.fids_of_decoded h.decoded)
  simpa [FidMap.fids] using this

theorem fetch (h : Alike s s' l l' o o') (size : FetchSize) :
    (l'.fetch .none s' size).1 = (l.fetch .none s size).1 ∧
      ∃ o₁ o₁', Alike s s' (l.fetch .none s size).2.2 (l'.fetch .none s' size).2.2 o₁ o₁' := by
  cases size with
  | rows n =>
    rw [fetch_rows .none s h.state, fetch_rows .none s' h.state', h.view, h.length_entries]
    exact h.fetchFrom h.unlimited rfl _ _ _
  | all =>
    have hv : o.view.rewind.Unlimited :=
      ⟨h.unlimited.predicate, h.unlimited.spatial, h.unlimited.ignored⟩
    have hcount : ∀ s : Store, Faults.none.countOf s o.view.rewind true =
        (s.table o.view.table).reportedCount.getD (s.table o.view.table).records.entries.length := by
      intro s
      have hall : o.view.rewind.selected (s.table o.view.table) =
          (s.table o.view.table).records.values := List.filter_eq_self.mpr fun r _ => hv.admits r
      show View.count (s.table o.view.table) _ true = _
      unfold View.count
      rw [hall]
      cases (s.table o.view.table).reportedCount <;> simp [FidMap.values]
    rw [fetch_all .none s h.state, fetch_all .none s' h.state', h.view, h.length_entries, hcount,
      hcount, h.reportedCount, h.length_entries]
    exact h.fetchFrom hv rfl _ _ _

theorem reads (h : Alike s s' l l' o o') (cs : List ReadCall) :
    l'.reads .none s' cs = l.reads .none s cs := by
  induction cs generalizing l l' o o' with
  | nil => rfl
  | cons c cs ih =>
    cases c with
    | next =>
      obtain ⟨hanswer, o₁, o₁', hafter⟩ := h.next
      exact congrArg₂ List.cons (congrArg (Except.map Reply.row) hanswer) (ih hafter)
    | page n =>
      obtain ⟨hanswer, o₁, o₁', hafter⟩ := h.fetch (.rows n)
      exact congrArg₂ List.cons (congrArg (Except.map Reply.table) hanswer) (ih hafter)

end Alike

end FeatureLayer.Layer
