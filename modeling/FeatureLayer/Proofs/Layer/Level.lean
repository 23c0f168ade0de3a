import FeatureLayer.Proofs.Workspace.ScanOrder

namespace FeatureLayer

/-- Views that differ in their place and their last error at most, with the same records ahead. -/
structure View.Level (t : FeatureTable) (v v' : View) : Prop where
  same : v' = { v with position := v'.position, lastError := v'.lastError }
  pending : v'.pending t = v.pending t

namespace View.Level

variable {t : FeatureTable} {v v' : View}

theorem table (h : View.Level t v v') : v'.table = v.table := by rw [h.same]

theorem project (h : View.Level t v v') (r : Record) : v'.project r = v.project r := by
  rw [h.same]
  rfl

theorem moved (h : View.Level t v v') {p p' : Option Int}
    (hp : ({ v' with position := p' } : View).pending t =
      ({ v with position := p } : View).pending t) :
    View.Level t { v with position := p } { v' with position := p' } where
  same := by rw [h.same]
  pending := hp

theorem next (h : View.Level t v v') :
    (v'.next t).1 = (v.next t).1 ∧ View.Level t (v.next t).2 (v'.next t).2 := by
  cases hpend : v.pending t with
  | nil =>
    obtain ⟨p, hnext, hnil⟩ := next_of_pending_eq_nil hpend
    obtain ⟨p', hnext', hnil'⟩ := next_of_pending_eq_nil (h.pending.trans hpend)
    rw [hnext, hnext']
    exact ⟨rfl, h.moved (hnil'.trans hnil.symm)⟩
  | cons r rs =>
    obtain ⟨p, hnext, hrest⟩ := next_of_pending_eq_cons hpend
    obtain ⟨p', hnext', hrest'⟩ := next_of_pending_eq_cons (h.pending.trans hpend)
    rw [hnext, hnext', h.project]
    exact ⟨rfl, h.moved (hrest'.trans hrest.symm)⟩

end View.Level

namespace Layer

structure Level (s : Store) (l l' : Layer) (o o' : OpenLayer) : Prop where
  state : l.state = some o
  state' : l'.state = some o'
  reading : l'.reading = l.reading
  interrupt : l'.interrupt = l.interrupt
  schema : o'.schema = o.schema
  ignored : o'.ignored = o.ignored
  view : View.Level (s.table o.view.table) o.view o'.view

namespace Level

variable {s : Store} {l l' : Layer} {o o' : OpenLayer}

theorem plan_eq (h : Level s l l' o o') : l'.plan o' = l.plan o := by
  rw [plan, plan, h.schema, h.ignored, h.reading]

theorem read (h : Level s l l' o o') {v v' : View} (asked : Option Interrupt)
    (hv : View.Level (s.table o.view.table) v v') (ht : v.table = o.view.table) :
    Level s { l.withState { o with view := v, scan := .scanning } with interrupt := asked }
      { l'.withState { o' with view := v', scan := .scanning } with interrupt := asked }
      { o with view := v, scan := .scanning } { o' with view := v', scan := .scanning } where
  state := rfl
  state' := rfl
  reading := h.reading
  interrupt := rfl
  schema := h.schema
  ignored := h.ignored
  view := ht ▸ hv

theorem next (h : Level s l l' o o') :
    (l'.next .none s).1 = (l.next .none s).1 ∧
      ∃ o₁ o₁', Level s (l.next .none s).2 (l'.next .none s).2 o₁ o₁' := by
  obtain ⟨hrecord, hview⟩ := h.view.next
  obtain ⟨place, hplace⟩ := View.next_eq (s.table o.view.table) o.view
  have ht : (o.view.next (s.table o.view.table)).2.table = o.view.table := by rw [hplace]
  have hlayer := h.read l.interrupt hview ht
  unfold Layer.next
  rw [h.state, h.state']
  simp only [Faults.none_next, h.view.table]
  generalize o.view.next (s.table o.view.table) = q at hrecord hlayer ⊢
  generalize o'.view.next (s.table o.view.table) = q' at hrecord hlayer ⊢
  obtain ⟨r, v⟩ := q
  obtain ⟨r', v'⟩ := q'
  simp only at hrecord hlayer
  have hlayer' : Level s (l.withState { o with view := v, scan := .scanning })
      (l'.withState { o' with view := v', scan := .scanning }) _ _ :=
    { hlayer with interrupt := h.interrupt }
  subst hrecord
  cases r' with
  | none => exact ⟨rfl, _, _, hlayer'⟩
  | some r =>
    refine ⟨?_, _, _, hlayer'⟩
    simp only [ReadPlan.decodeRow, h.plan_eq, h.reading]

theorem fetchRows (plan : ReadPlan) (reading : ReadOptions) (limit : Nat) (p p' : Fetch)
    (hv : View.Level (s.table p.view.table) p.view p'.view) (ht : p'.table = p.table)
    (hi : p'.interrupt = p.interrupt) :
    let out := Layer.fetchRows .none s plan reading limit p
    let out' := Layer.fetchRows .none s plan reading limit p'
    out'.1 = out.1 ∧ out'.2.table = out.2.table ∧ out'.2.interrupt = out.2.interrupt ∧
      View.Level (s.table p.view.table) out.2.view out'.2.view := by
  induction limit generalizing p p' with
  | zero => exact ⟨rfl, ht, hi, hv⟩
  | succ limit ih =>
    obtain ⟨hrecord, hview⟩ := hv.next
    obtain ⟨place, hplace⟩ := View.next_eq (s.table p.view.table) p.view
    unfold Layer.fetchRows
    simp only [Faults.none_next, hv.table]
    generalize p.view.next (s.table p.view.table) = q at hrecord hview hplace ⊢
    generalize p'.view.next (s.table p.view.table) = q' at hrecord hview ⊢
    obtain ⟨r, v⟩ := q
    obtain ⟨r', v'⟩ := q'
    simp only at hrecord hview hplace
    subst hrecord
    cases r' with
    | none => exact ⟨rfl, ht, hi, hview⟩
    | some r =>
      simp only
      cases plan.decode Faults.none.codec reading r with
      | error e => exact ⟨rfl, ht, hi, hview⟩
      | ok values =>
        simp only [ht, hi]
        split
        · exact ⟨rfl, rfl, rfl, hview⟩
        · have htable : v.table = p.view.table := by rw [hplace]
          have hrest := ih ⟨v, p.table.push values,
              (poll reading.pollInterval (p.table.push values).numRows p.interrupt).2⟩
            ⟨v', _, _⟩ (htable ▸ hview) rfl rfl
          rw [show (Fetch.view ⟨v, _, _⟩).table = p.view.table from htable] at hrest
          exact hrest

theorem fetch_rows (h : Level s l l' o o') (n : Nat) :
    (l'.fetch .none s (.rows n)).1 = (l.fetch .none s (.rows n)).1 ∧
      ∃ o₁ o₁', Level s (l.fetch .none s (.rows n)).2.2 (l'.fetch .none s (.rows n)).2.2 o₁ o₁' := by
  rw [Layer.fetch_rows .none s h.state, Layer.fetch_rows .none s h.state']
  unfold fetchFrom
  simp only [h.plan_eq, h.reading, h.interrupt, h.view.table]
  split
  · exact ⟨rfl, _, _, { h with state := rfl, state' := rfl }⟩
  · generalize min n _ = limit
    have hrows := fetchRows (s := s) (l.plan o) l.reading limit
      ⟨o.view, .start (l.plan o), l.interrupt⟩ ⟨o'.view, .start (l.plan o), l.interrupt⟩ h.view rfl rfl
    obtain ⟨place, hplace⟩ := fetchRows_eq .none s (l.plan o) l.reading limit
      ⟨o.view, .start (l.plan o), l.interrupt⟩
    generalize Layer.fetchRows .none s (l.plan o) l.reading limit
      ⟨o.view, .start (l.plan o), l.interrupt⟩ = out at hrows hplace ⊢
    generalize Layer.fetchRows .none s (l.plan o) l.reading limit
      ⟨o'.view, .start (l.plan o), l.interrupt⟩ = out' at hrows ⊢
    obtain ⟨e, d⟩ := out
    obtain ⟨e', d'⟩ := out'
    simp only at hrows hplace
    obtain ⟨rfl, htable, hasked, hview⟩ := hrows
    have hlayer := h.read d.interrupt hview (by rw [hplace])
    simp only [htable, hasked]
    cases e' with
    | error e => exact ⟨rfl, _, _, hlayer⟩
    | ok u => exact ⟨rfl, _, _, hlayer⟩

/-- Layers that are level answer all reads alike. -/
theorem reads (h : Level s l l' o o') (cs : List ReadCall) :
    l'.reads .none s cs = l.reads .none s cs := by
  induction cs generalizing l l' o o' with
  | nil => rfl
  | cons c cs ih =>
    cases c with
    | next =>
      obtain ⟨hanswer, o₁, o₁', hafter⟩ := h.next
      exact congrArg₂ List.cons (congrArg (Except.map Reply.row) hanswer) (ih hafter)
    | page n =>
      obtain ⟨hanswer, o₁, o₁', hafter⟩ := h.fetch_rows n
      exact congrArg₂ List.cons (congrArg (Except.map Reply.table) hanswer) (ih hafter)

end Level

end Layer

end FeatureLayer
