import FeatureLayer.Proofs.Layer.Naming
/-!
What a layer holds while it is open: a handle on its data source for its connection and one for its view,
and a result set if it is on a query. Whether a request is granted or not, the count of result sets that
the source keeps changes by what the layer takes and gives back.
-/

namespace FeatureLayer

namespace Store

def resultSets (s : Store) (d : Nat) : Nat := (s.source d).resultSets

variable {s s' : Store} {d : Nat}

theorem resultSets_setSource {i : Nat} {x : DataSource} (h : x.resultSets = s.resultSets i) (d : Nat) :
    (s.setSource i x).resultSets d = s.resultSets d :=
  s.apply_source_setSource (·.resultSets) h d

theorem Turn.resultSets_eq {i : Nat} {k : Control} (h : s.Turn i k s') (d : Nat) :
    s'.resultSets d = s.resultSets d := by
  cases h with
  | begin | commit =>
    refine resultSets_setSource ?_ d
    rfl
  | rollback =>
    rw [rolledBack, resultSets, source_restore]
    refine resultSets_setSource ?_ d
    rfl

theorem resultSets_query (c : Connection) (text : String) (spatial : Option Geometry)
    (dialect : Option String) (d : Nat) :
    (s.query c text spatial dialect).2.2.resultSets d =
      s.resultSets d + ((s.query c text spatial dialect).1.isOk && c.source = d).toNat := by
  rcases s.query_cases c text spatial dialect with ⟨e, c', h, -⟩ | ⟨i, hi, v, h⟩
  · rw [h]
    rfl
  · have hd := lt_of_mem_tables hi
    rw [h, resultSets, source_setSource]
    by_cases hc : c.source = d
    · subst hc
      rw [if_pos ⟨rfl, hd⟩]
      simp [Except.isOk, Except.toBool, resultSets]
    · rw [if_neg fun h => hc h.1]
      simp [hc]
      rfl

theorem resultSets_release (c : Connection) (d : Nat) :
    (s.release c).resultSets d = s.resultSets d - (decide (c.source = d)).toNat := by
  rw [release, resultSets, source_setSource]
  by_cases hc : c.source = d
  · subst hc
    split
    · simp [resultSets]
    next h =>
      -- where there is no source there is nothing to release
      have hnone := s.source_of_le (d := c.source) (by omega)
      simp [resultSets, hnone, DataSource.empty]
  · rw [if_neg fun h => hc h.1]
    simp [hc, resultSets]

end Store

namespace Layer

def isOn (l : Layer) (d : Nat) : Bool := l.state.any (·.connection.source = d)

/-- Whether the layer is open on a query to that data source, and so holds a result set of it. -/
def hasResult (l : Layer) (d : Nat) : Bool := l.source.isQuery && l.isOn d

/-- The data sources of the handles that the layer holds: that of its connection and that of its view. -/
def handles (l : Layer) : List Nat :=
  match l.state with
  | some o => [o.connection.source, o.view.source]
  | none => []

/-- The count of result sets changes by what the layer takes and gives back, provided that it contains
those of the layer: at zero the count would not go down. -/
def Settles (l : Layer) (s : Store) (l' : Layer) (s' : Store) : Prop :=
  ∀ d, (l.hasResult d).toNat ≤ s.resultSets d →
    s'.resultSets d + (l.hasResult d).toNat = s.resultSets d + (l'.hasResult d).toNat

variable {f : Faults} {s s' s₁ s₂ : Store} {told : Bool} {l l' l₁ l₂ : Layer}

theorem hasResult_of_closed (h : l.state = none) (d : Nat) : l.hasResult d = false := by
  simp [hasResult, isOn, h]

theorem Settles.trans (h₁ : l.Settles s l₁ s₁) (h₂ : l₁.Settles s₁ l₂ s₂) : l.Settles s l₂ s₂ := by
  intro d hd
  have h₁ := h₁ d hd
  have h₂ := h₂ d (by omega)
  omega

theorem Moves.isOn_eq (h : l.Moves told l') (d : Nat) : l'.isOn d = l.isOn d := by
  have hopen : l'.state.isSome = l.state.isSome := h.isOpen
  unfold isOn
  cases ho' : l'.state with
  | none =>
    rw [ho', Option.isSome_none] at hopen
    have ho : l.state = none := by simpa using hopen.symm
    rw [ho]
  | some o' =>
    obtain ⟨o, ho, hm⟩ := h.state o' ho'
    simp [ho, hm.source]

theorem Moves.hasResult_eq (h : l.Moves told l') (d : Nat) : l'.hasResult d = l.hasResult d := by
  rw [hasResult, h.source, h.isOn_eq, hasResult]

theorem settles_close (s : Store) (l : Layer) : l.Settles s (l.close s).1 (l.close s).2 := by
  intro d hd
  unfold close
  cases ho : l.state with
  | none => rfl
  | some o =>
    cases hq : l.source.isQuery with
    | false => simp [hasResult, hq]
    | true =>
      simp only [hasResult, isOn, hq, ho, Option.any_some, Option.any_none, Bool.true_and,
        Bool.toNat_false, if_true, Store.resultSets_release] at hd ⊢
      omega

theorem resultSets_openView (f : Faults) (s : Store) (l : Layer) (c : Connection)
    (spatial : Option Geometry) (d : Nat) :
    (l.openView f s c spatial).2.2.resultSets d = s.resultSets d +
      (l.source.isQuery && ((l.openView f s c spatial).1.isOk && c.source = d)).toNat := by
  unfold openView
  cases hsource : l.source with
  | name name =>
    simp only
    split
    · rfl
    · split <;> rfl
  | query text =>
    have hquery := s.resultSets_query c text spatial l.options.dialect d
    simp only
    rcases f.runQuery_cases s c text spatial l.options.dialect with ⟨hrest, hnone⟩ | ⟨hrest, hvalue⟩
    · split
      all_goals
        rename_i heq
        rw [heq] at hrest hnone
      · cases hrest
        rfl
      · cases hrest
        rfl
      · exact absurd rfl (hnone _)
    · split
      all_goals
        rename_i heq
        rw [heq] at hrest hvalue
        rw [← hrest] at hquery
        cases hanswer : (s.query c text spatial l.options.dialect).1
        all_goals
          rw [hanswer] at hquery hvalue
          cases hvalue
        all_goals exact hquery

theorem resultSets_openState (f : Faults) (s : Store) (l : Layer) (access : Access) (d : Nat) :
    (l.openState f s access).2.2.resultSets d = s.resultSets d +
      (({ l with state := (l.openState f s access).1.toOption } : Layer).hasResult d).toNat := by
  have hfailed : (({ l with state := none } : Layer).hasResult d).toNat = 0 :=
    congrArg Bool.toNat (hasResult_of_closed rfl d)
  unfold openState
  split
  · exact hfailed.symm ▸ rfl
  · exact hfailed.symm ▸ rfl
  next c _ =>
    split
    · exact hfailed.symm ▸ rfl
    next spatial _ =>
      have hview := resultSets_openView f s l c spatial d
      have hsource := source_openView f s l c spatial
      split
      all_goals
        rename_i heq
        rw [heq] at hview hsource
        simp only at hsource
        simpa [hasResult, isOn, Except.toOption, Except.isOk, Except.toBool, hsource] using hview

theorem settles_reopen (f : Faults) (s : Store) (l : Layer) (access : Access) :
    l.Settles s (l.reopen f s access).2.2.1 (l.reopen f s access).2.2.2 := by
  unfold reopen
  refine (settles_close s l).trans fun d _ => ?_
  obtain ⟨hstate, -⟩ := close_state s l
  generalize l.close s = closed at hstate ⊢
  obtain ⟨l₁, s₁⟩ := closed
  simp only at hstate ⊢
  have hopen := resultSets_openState f s₁ { l₁ with options := { l₁.options with access } } access d
  rw [hasResult_of_closed hstate]
  split
  all_goals
    rename_i heq
    rw [heq] at hopen
  · exact hopen
  · simpa [hasResult, isOn, Except.toOption, hstate] using hopen

/-- Whatever a request comes to, the count goes along with what the layer holds. -/
theorem settles_ask (f : Faults) (s : Store) (l : Layer) (r : LayerRequest) :
    l.Settles s (l.ask f s r).layer (l.ask f s r).store := by
  cases hr : r.closes with
  | true =>
    cases r with
    | reopen access => exact settles_reopen f s l access
    | close => exact settles_close s l
    | _ => cases hr
  | false =>
    intro d _
    have hcount : (l.ask f s r).store.resultSets d = s.resultSets d := by
      have hdeed := ask_deed f s l r
      generalize (l.ask f s r).store = s' at hdeed ⊢
      cases hdeed with
      | nothing | labels | writes => rfl
      | closes h | queries h => cases hr.symm.trans h
      | turns _ _ ht => exact ht.resultSets_eq d
    rw [hcount, (ask_moves f s l hr).hasResult_eq]

theorem resultSets_openOn {dataSource : String} {source : LayerSource} {options : OpenOptions}
    {out : Except Error Layer} {ws : List Warning}
    (h : openOn f s dataSource source options = (out, ws, s')) (d : Nat) :
    s'.resultSets d = s.resultSets d + (out.toOption.any (·.hasResult d)).toNat := by
  have hopen := resultSets_openState f s ⟨dataSource, source, options, .default, none, none⟩
    options.access d
  simp only [openOn, Prod.mk.injEq] at h
  obtain ⟨rfl, -, rfl⟩ := h
  rw [hopen]
  cases (openState f s ⟨dataSource, source, options, .default, none, none⟩ options.access).1 with
  | error e => rw [hasResult_of_closed rfl]; rfl
  | ok o => rfl

theorem hasResult_refreshSchema (d : Nat) :
    (l.refreshSchema f s).1.hasResult d = l.hasResult d := by
  unfold refreshSchema
  split
  · rfl
  next ho => simp [hasResult, isOn, withState, ho]

variable (f) (s) in
theorem hasResult_overlay (A : RegionAlgebra) (kind : OverlayKind) (input method result : Layer)
    (o : Overlay.Options) (answer : Nat → Bool) (d : Nat) :
    let out := overlay f A kind s input method result o answer
    out.store.resultSets d = s.resultSets d ∧ out.input.hasResult d = input.hasResult d ∧
      out.method.hasResult d = method.hasResult d ∧ out.result.hasResult d = result.hasResult d := by
  intro out
  obtain ⟨hi, hm, hr, -⟩ := overlay_keeps (q := False) f s A kind input method result o answer
  refine ⟨?_, hi.moves.hasResult_eq d, hm.moves.hasResult_eq d, ?_⟩
  · rcases overlay_store f A kind s input method result o answer with h | ⟨i, m, r, -, -, -, h⟩
    · exact congrArg (·.resultSets d) h
    · obtain ⟨t, ht⟩ := Overlay.run_store A kind s i.view m.view r.view o answer
      exact congrArg (·.resultSets d) (h.trans ht)
  · rcases hr with hr | ⟨l₁, hk, -, hout⟩
    · exact hr.moves.hasResult_eq d
    · rw [show out.result = _ from hout, hasResult_refreshSchema]
      exact hk.moves.hasResult_eq d

end Layer

end FeatureLayer
