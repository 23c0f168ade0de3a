import FeatureLayer.Proofs.Layer.Step
import FeatureLayer.Workspace

namespace FeatureLayer

def ConnectionRequest.control? : ConnectionRequest → Option Store.Control
  | .begin force => some (.begin force)
  | .commit => some .commit
  | .rollback => some .rollback
  | _ => none

def Operation.control? : Operation → Option Store.Control
  | .connection _ r => r.control?
  | .layer _ r => r.control?
  | _ => none

def Operation.queries : Operation → Bool
  | .query .. => true
  | .openLayer _ contents _ _ => contents.isQuery
  | _ => false

def Operation.addresses (n : String) : Operation → Bool
  | .openLayer _ _ _ m | .layer m _ => m = n
  | _ => false

def Operation.result? : Operation → Option String
  | .overlay _ _ _ result _ _ => some result
  | _ => none

namespace Workspace

def Answer.granted (a : Answer) : Bool :=
  match a.value with
  | .ok (.flag b) => b
  | .ok _ => true
  | .error _ => false

def grants (f : Faults) (A : RegionAlgebra) (w : Workspace) (op : Operation) : Bool :=
  (w.perform f A op).any (·.1.granted)

def addressed? (w : Workspace) : Operation → Option Nat
  | .connection name _ => (w.connection? name).map (·.source)
  | .layer name _ => (w.layer? name).bind fun l => l.state.map (·.connection.source)
  | _ => none

/-! ### Names -/

variable {α : Type}

theorem lookup_letGo (held : List (String × α)) (n m : String) :
    lookup (letGo held n) m = if m = n then none else lookup held m := by
  unfold lookup letGo
  rw [List.find?_filter]
  split
  next h =>
    subst h
    rw [List.find?_eq_none.mpr fun x _ => by simp [and_comm]]
    rfl
  next h =>
    congr 2
    funext x
    by_cases hx : x.1 = m
    · simp [hx, h]
    · simp [hx]

theorem lookup_hold (held : List (String × α)) (n m : String) (a : α) :
    lookup (hold held n a) m = if m = n then some a else lookup held m := by
  have hcons : lookup (hold held n a) m = if n = m then some a else lookup (letGo held n) m := by
    unfold lookup hold letGo
    rw [List.find?_cons]
    by_cases h : n = m <;> simp [h]
  rw [hcons, lookup_letGo]
  by_cases h : m = n
  · rw [if_pos h.symm, if_pos h]
  · rw [if_neg (Ne.symm h), if_neg h, if_neg h]

theorem of_lookup_letGo {held : List (String × α)} {n m : String} {a : α}
    (h : lookup (letGo held n) m = some a) : lookup held m = some a := by
  rw [lookup_letGo] at h
  split at h
  · cases h
  · exact h

theorem of_lookup_hold {held : List (String × α)} {n m : String} {a b : α}
    (h : lookup (hold held n a) m = some b) :
    (m = n ∧ b = a) ∨ (m ≠ n ∧ lookup held m = some b) := by
  rw [lookup_hold] at h
  split at h
  next hm => exact .inl ⟨hm, (Option.some.inj h).symm⟩
  next hm => exact .inr ⟨hm, h⟩

variable (w : Workspace)

theorem of_layer?_closeLayer {n m : String} {l : Layer}
    (h : (w.closeLayer n).layer? m = some l) : w.layer? m = some l := by
  unfold closeLayer at h
  split at h
  · exact of_lookup_letGo h
  · exact h

@[simp] theorem views_closeLayer (n : String) : (w.closeLayer n).views = w.views := by
  unfold closeLayer
  split <;> rfl

theorem works_closeLayer {q : Prop} (n : String) : w.store.Works q (w.closeLayer n).store := by
  unfold closeLayer
  split
  · exact Layer.works_close ..
  · exact .refl

theorem tables_closeLayer (w : Workspace) (n : String) :
    (w.closeLayer n).store.tables = w.store.tables := by
  unfold closeLayer
  split
  · exact Layer.tables_close ..
  · rfl

def openLayer? (n : String) : Option (Layer × OpenLayer) :=
  (w.layer? n).bind fun l => l.state.map fun o => (l, o)

variable {w} in
theorem exists_of_openLayer?_any {n : String} {p : Layer × OpenLayer → Bool}
    (h : (w.openLayer? n).any p = true) :
    ∃ l o, w.layer? n = some l ∧ l.state = some o ∧ p (l, o) = true := by
  obtain ⟨e, he, hp⟩ := (Option.any_eq_true _ _).mp h
  obtain ⟨l, hl, he⟩ := Option.bind_eq_some_iff.mp he
  obtain ⟨o, ho, rfl⟩ := Option.map_eq_some_iff.mp he
  exact ⟨l, o, hl, ho, hp⟩

variable {f : Faults} {A : RegionAlgebra} {w : Workspace} {op : Operation} {a : Answer}
  {w' : Workspace}

/-! ### The store -/

variable (f) (A) in
theorem step_of_perform (h : w.perform f A op = some (a, w')) : w.step f A op = w' := by
  unfold step
  rw [h]
  rfl

variable (f) (A) in
theorem step_of_perform_eq_none (h : w.perform f A op = none) : w.step f A op = w := by
  unfold step
  rw [h]
  rfl

theorem perform_connection (f : Faults) (A : RegionAlgebra) {n : String} {c : Connection}
    (h : w.connection? n = some c) (r : ConnectionRequest) :
    w.perform f A (.connection n r) =
      some (.plain (w.store.askConnection c r).1,
        ({ w with store := (w.store.askConnection c r).2.2 } : Workspace).holdConnection n
          (w.store.askConnection c r).2.1) := by
  simp [perform, h]

theorem perform_layer (f : Faults) (A : RegionAlgebra) {n : String} {l : Layer}
    (h : w.layer? n = some l) (r : LayerRequest) :
    w.perform f A (.layer n r) =
      some (⟨(l.ask f w.store r).value, (l.ask f w.store r).warnings, []⟩,
        ({ w with store := (l.ask f w.store r).store } : Workspace).holdLayer n
          (l.ask f w.store r).layer) := by
  simp [perform, h]

variable (f) (A) (w) in
theorem layer?_step_layer (n : String) (r : LayerRequest) :
    (w.step f A (.layer n r)).layer? n = (w.layer? n).map fun l => (l.ask f w.store r).layer := by
  cases hn : w.layer? n with
  | none =>
    rw [step_of_perform_eq_none f A (by simp [perform, hn]), hn]
    rfl
  | some l =>
    rw [step_of_perform f A (perform_layer f A hn r)]
    exact (lookup_hold w.layers n n _).trans (if_pos rfl)

theorem layer?_step_openLayer {source n : String} {contents : LayerSource} {options : OpenOptions}
    (h : w.grants f A (.openLayer source contents options n) = true) :
    ∃ l ws s, Layer.openOn f w.store source contents options = (.ok l, ws, s) ∧
      (w.step f A (.openLayer source contents options n)).layer? n = some l := by
  rcases ho : Layer.openOn f w.store source contents options with ⟨e | l, ws, s⟩
  · simp [grants, perform, ho, Answer.granted] at h
  · refine ⟨l, ws, s, rfl, ?_⟩
    rw [step_of_perform f A (a := ⟨.ok .done, ws, []⟩) (by simp only [perform, ho]; rfl)]
    exact (lookup_hold _ n n _).trans (if_pos rfl)

theorem store_step_layer {r : LayerRequest} (h : ∀ (l : Layer) (s : Store), (l.ask f s r).store = s)
    (A : RegionAlgebra) (w : Workspace) (n : String) :
    (w.step f A (.layer n r)).store = w.store := by
  cases hn : w.layer? n with
  | none => rw [step_of_perform_eq_none f A (by simp [perform, hn])]
  | some l =>
    rw [step_of_perform f A (perform_layer f A hn r)]
    exact h l w.store

theorem works_askConnection {q : Prop} {c : Connection} {r : ConnectionRequest}
    (h : r.control? = none) (s : Store) : s.Works q (s.askConnection c r).2.2 := by
  cases r with
  | begin | commit | rollback => cases h
  | setTransactions | addDomain => exact .single (.source c.source rfl rfl)

/-! ### What an operation that is performed does -/

/-- The effect of an operation, said once for each that can be refused and for each that cannot. -/
inductive Effect (f : Faults) (A : RegionAlgebra) (w : Workspace) :
    Operation → Answer → Workspace → Prop
  /-- What is refused before it reaches the store changes nothing. -/
  | refused {op : Operation} {e : Error} (h : op.control? = none) :
      Effect f A w op (.plain (.error e)) w
  | create {source : String} {n : Option String} {c : Connection} {s : Store}
      (h : w.store.create source = .ok (c, s)) :
      Effect f A w (.create source n) .done
        ((n.map fun n => ({ w with store := s } : Workspace).holdConnection n c).getD
          { w with store := s })
  | remove (source : String) :
      Effect f A w (.remove source) (.plain (.ok (.flag (w.store.remove source).1)))
        { w with store := (w.store.remove source).2 }
  | connect {source n : String} {access : Access} {c : Connection}
      (h : w.store.connect source access = .ok c) :
      Effect f A w (.connect source access n) .done (w.holdConnection n c)
  | openFails {source n : String} {contents : LayerSource} {options : OpenOptions} {e : Error}
      {ws : List Warning} {s : Store}
      (h : Layer.openOn f w.store source contents options = (.error e, ws, s)) :
      Effect f A w (.openLayer source contents options n) ⟨.error e, ws, []⟩ { w with store := s }
  | opens {source n : String} {contents : LayerSource} {options : OpenOptions} {l : Layer}
      {ws : List Warning} {s : Store}
      (h : Layer.openOn f w.store source contents options = (.ok l, ws, s)) :
      Effect f A w (.openLayer source contents options n) ⟨.ok .done, ws, []⟩
        ((({ w with store := s } : Workspace).closeLayer n).holdLayer n l)
  | drop (n : String) :
      Effect f A w (.drop n)
        (.plain (.ok (.flag
          ((w.connection? n).isSome || (w.view? n).isSome || (w.layer? n).isSome))))
        { w.closeLayer n with
          connections := letGo (w.closeLayer n).connections n
          views := letGo (w.closeLayer n).views n }
  | createLayer {connection name : String} {schema : Schema} {n : Option String} {c : Connection}
      {v : View} {s : Store} (hc : w.connection? connection = some c)
      (h : w.store.createLayer c name schema = .ok (v, s)) :
      Effect f A w (.createLayer connection name schema n) .done
        ((n.map fun n => ({ w with store := s } : Workspace).holdView n v).getD
          { w with store := s })
  | layerByName {connection name n : String} {c : Connection} {v : View}
      (hc : w.connection? connection = some c) (h : w.store.layerByName c name = .ok v) :
      Effect f A w (.layerByName connection name n) .done (w.holdView n v)
  | queryFails {connection text n : String} {spatial : Option Geometry} {dialect : Option String}
      {c c' : Connection} {e : Error} {s : Store} (hc : w.connection? connection = some c)
      (h : w.store.query c text spatial dialect = (.error e, c', s)) :
      Effect f A w (.query connection text spatial dialect n) (.plain (.error e))
        (({ w with store := s } : Workspace).holdConnection connection c')
  | query {connection text n : String} {spatial : Option Geometry} {dialect : Option String}
      {c c' : Connection} {v : View} {s : Store} (hc : w.connection? connection = some c)
      (h : w.store.query c text spatial dialect = (.ok v, c', s)) :
      Effect f A w (.query connection text spatial dialect n) .done
        ((({ w with store := s } : Workspace).holdConnection connection c').holdView n v)
  | release {connection n : String} {c : Connection} {v : View}
      (hc : w.connection? connection = some c) (hv : w.view? n = some v) :
      Effect f A w (.release connection n) .done
        { w with store := w.store.release c, views := letGo w.views n }
  | connection {n : String} {r : ConnectionRequest} {c : Connection} (h : w.connection? n = some c) :
      Effect f A w (.connection n r) (.plain (w.store.askConnection c r).1)
        (({ w with store := (w.store.askConnection c r).2.2 } : Workspace).holdConnection n
          (w.store.askConnection c r).2.1)
  | view {n : String} {r : ViewRequest} {v : View} (h : w.view? n = some v) :
      Effect f A w (.view n r) (.plain (w.store.askView v r).1)
        (({ w with store := (w.store.askView v r).2.2 } : Workspace).holdView n
          (w.store.askView v r).2.1)
  | layer {n : String} {r : LayerRequest} {l : Layer} (h : w.layer? n = some l) :
      Effect f A w (.layer n r) ⟨(l.ask f w.store r).value, (l.ask f w.store r).warnings, []⟩
        (({ w with store := (l.ask f w.store r).store } : Workspace).holdLayer n
          (l.ask f w.store r).layer)
  | overlay {kind : OverlayKind} {input method result : String} {o : Overlay.Options}
      {answer : Nat → Bool} {i m r : Layer} {out : Layer.OverlayOutcome}
      (hi : w.layer? input = some i) (hm : w.layer? method = some m) (hr : w.layer? result = some r)
      (h : Layer.overlay f A kind w.store i m r o answer = out) :
      Effect f A w (.overlay kind input method result o answer)
        ⟨out.value.map fun _ => .done, out.warnings, out.progress⟩
        (((({ w with store := out.store } : Workspace).holdLayer input out.input).holdLayer
          method out.method).holdLayer result out.result)
  | overlayViews {kind : OverlayKind} {input method result : String} {o : Overlay.Options}
      {i m r : View} {out : Overlay.Outcome} (hi : w.view? input = some i)
      (hm : w.view? method = some m) (hr : w.view? result = some r)
      (h : Overlay.run A kind w.store i m r o (fun _ => true) = out) :
      Effect f A w (.overlayViews kind input method result o)
        (.plain (out.value.map fun _ => .done))
        ((({ w with store := out.store } : Workspace).holdView input out.input).holdView
          result out.result)

theorem effect_of_perform (h : w.perform f A op = some (a, w')) : Effect f A w op a w' := by
  cases op with
  | create source n =>
    simp only [perform] at h
    split at h
    · cases h
      exact .refused rfl
    · cases h
      exact .create ‹_›
  | remove source =>
    cases h
    exact .remove source
  | connect source access n =>
    simp only [perform] at h
    split at h
    · cases h
      exact .refused rfl
    · cases h
      exact .connect ‹_›
  | openLayer source contents options n =>
    simp only [perform] at h
    split at h
    · cases h
      exact .openFails (Prod.ext ‹_› rfl)
    · cases h
      exact .opens (Prod.ext ‹_› rfl)
  | drop n =>
    cases h
    exact .drop n
  | createLayer connection name schema n =>
    simp only [perform, Option.map_eq_some_iff] at h
    obtain ⟨c, hc, h⟩ := h
    split at h
    · cases h
      exact .refused rfl
    · cases h
      exact .createLayer hc ‹_›
  | layerByName connection name n =>
    simp only [perform, Option.map_eq_some_iff] at h
    obtain ⟨c, hc, h⟩ := h
    split at h
    · cases h
      exact .refused rfl
    · cases h
      exact .layerByName hc ‹_›
  | query connection text spatial dialect n =>
    simp only [perform, performQuery, Option.map_eq_some_iff] at h
    obtain ⟨c, hc, h⟩ := h
    split at h
    · cases h
      exact .query hc (Prod.ext ‹_› rfl)
    · cases h
      exact .queryFails hc (Prod.ext ‹_› rfl)
  | release connection n =>
    simp only [perform, Option.bind_eq_bind] at h
    obtain ⟨c, hc, h⟩ := Option.bind_eq_some_iff.mp h
    obtain ⟨v, hv, h⟩ := Option.bind_eq_some_iff.mp h
    cases h
    exact .release hc hv
  | connection n r =>
    simp only [perform, Option.map_eq_some_iff] at h
    obtain ⟨c, hc, h⟩ := h
    cases h
    exact .connection hc
  | view n r =>
    simp only [perform, Option.map_eq_some_iff] at h
    obtain ⟨v, hv, h⟩ := h
    cases h
    exact .view hv
  | layer n r =>
    simp only [perform, Option.map_eq_some_iff] at h
    obtain ⟨l, hl, h⟩ := h
    cases h
    exact .layer hl
  | overlay kind input method result o answer =>
    simp only [perform, performOverlay, Option.bind_eq_bind] at h
    split at h
    · cases h
    · obtain ⟨i, hi, h⟩ := Option.bind_eq_some_iff.mp h
      obtain ⟨m, hm, h⟩ := Option.bind_eq_some_iff.mp h
      obtain ⟨r, hr, h⟩ := Option.bind_eq_some_iff.mp h
      cases h
      exact .overlay hi hm hr rfl
  | overlayViews kind input method result o =>
    simp only [perform, performOverlayViews, Option.bind_eq_bind] at h
    split at h
    · cases h
    · obtain ⟨i, hi, h⟩ := Option.bind_eq_some_iff.mp h
      obtain ⟨m, hm, h⟩ := Option.bind_eq_some_iff.mp h
      obtain ⟨r, hr, h⟩ := Option.bind_eq_some_iff.mp h
      cases h
      exact .overlayViews hi hm hr rfl

theorem step_cases (f : Faults) (A : RegionAlgebra) (w : Workspace) (op : Operation) :
    w.step f A op = w ∨ ∃ a, Effect f A w op a (w.step f A op) := by
  cases hp : w.perform f A op with
  | none => exact .inl (step_of_perform_eq_none f A hp)
  | some p =>
    rw [step_of_perform f A hp]
    exact .inr ⟨p.1, effect_of_perform hp⟩

def MayQuery (w : Workspace) (op : Operation) : Prop :=
  op.queries = true ∨ ∃ n r l, op = .layer n r ∧ w.layer? n = some l ∧ l.source.isQuery = true

theorem Effect.works (h : Effect f A w op a w') (hc : op.control? = none) :
    w.store.Works (w.MayQuery op) w'.store := by
  cases h with
  | refused | connect | layerByName => exact .refl
  | @create _ n _ _ h => cases n <;> exact .single (Store.create_ok h)
  | remove source => exact .single (.remove source)
  | openFails h => exact (Layer.works_openOn h).mono fun hq => .inl hq
  | @opens _ n contents _ _ _ s h =>
    have hs := works_closeLayer (q := contents.isQuery = true) { w with store := s } n
    have hw : w.store.Works (contents.isQuery = true) _ :=
      Relation.ReflTransGen.trans (Layer.works_openOn h) hs
    exact hw.mono fun hq => .inl hq
  | drop n => exact works_closeLayer w n
  | @createLayer _ name schema n c _ _ _ h =>
    obtain ⟨-, rfl⟩ := Store.createLayer_ok h
    cases n <;> exact .single (.list c.source name schema)
  | @queryFails _ text _ spatial dialect c _ _ _ _ h | @query _ text _ spatial dialect c _ _ _ _ h =>
    have hw := w.store.works_query trivial c text spatial dialect
    rw [h] at hw
    exact hw.mono fun _ => .inl rfl
  | @release _ _ c => exact w.store.works_release c
  | connection => exact works_askConnection hc w.store
  | @view _ r v => exact w.store.works_askView v r
  | @layer n r l hl =>
    exact (l.ask_works f w.store hc).mono fun hq => .inr ⟨n, r, l, rfl, hl, hq⟩
  | @overlay kind _ _ _ o answer i m r _ _ _ _ h =>
    subst h
    exact (Layer.overlay_keeps f w.store A kind i m r o answer).2.2.2
  | @overlayViews kind _ _ _ o i m r _ _ _ _ h =>
    subst h
    exact (Overlay.run_spec A kind w.store i m r o _).2.2

theorem askConnection_control {c : Connection} {r : ConnectionRequest} {k : Store.Control}
    (h : r.control? = some k) (s : Store) :
    ((s.askConnection c r).1 = .ok .done ∧ s.Turn c.source k (s.askConnection c r).2.2) ∨
      ((∃ e, (s.askConnection c r).1 = .error e) ∧ (s.askConnection c r).2.2 = s ∧
        (k.ends = true → (s.source c.source).snapshot = none)) := by
  have hreply : ∀ q : Except Error Unit × Connection × Store, s.Answered c k q →
      ((q.1.map fun _ => Reply.done) = .ok .done ∧ s.Turn c.source k q.2.2) ∨
        ((∃ e, (q.1.map fun _ => Reply.done) = .error e) ∧ q.2.2 = s ∧
          (k.ends = true → (s.source c.source).snapshot = none)) := by
    intro q hq
    cases hq with
    | refused _ hn => exact .inr ⟨⟨_, rfl⟩, rfl, hn⟩
    | granted ht => exact .inl ⟨rfl, ht⟩
  cases r with
  | begin force =>
    obtain rfl := Option.some.inj h
    exact hreply _ (s.begin_answered c force)
  | commit =>
    obtain rfl := Option.some.inj h
    exact hreply _ (s.commit_answered c)
  | rollback =>
    obtain rfl := Option.some.inj h
    exact hreply _ (s.rollback_answered c)
  | _ => cases h

variable (f) (A) (w) in
/-- A request about transactions is granted or leaves the store as it is. Only where no transaction
is active is it refused to end one. -/
theorem control_cases {c : Store.Control} (h : op.control? = some c) :
    (w.grants f A op = true ∧ ∃ d, w.addressed? op = some d ∧
        w.store.Turn d c (w.step f A op).store) ∨
      (w.grants f A op = false ∧ (w.step f A op).store = w.store ∧
        (f = .none → c.ends = true → ∀ d, w.addressed? op = some d →
          (w.store.source d).snapshot = none)) := by
  cases op with
  | connection name r =>
    cases hn : w.connection? name with
    | none =>
      have hp : w.perform f A (.connection name r) = none := by simp [perform, hn]
      refine .inr ⟨by simp [grants, hp], ?_, fun _ _ d hd => by simp [addressed?, hn] at hd⟩
      rw [step_of_perform_eq_none f A hp]
    | some k =>
      have hd : w.addressed? (.connection name r) = some k.source := by simp [addressed?, hn]
      have hp := perform_connection f A hn r
      rw [step_of_perform f A hp]
      rcases askConnection_control (c := k) h w.store with ⟨hv, ht⟩ | ⟨⟨e, hv⟩, hs, hend⟩
      · left
        refine ⟨?_, k.source, hd, ht⟩
        simp only [grants, hp, hv]
        rfl
      · right
        refine ⟨?_, hs, fun _ hc d hd' => ?_⟩
        · simp only [grants, hp, hv]
          rfl
        · obtain rfl := Option.some.inj (hd.symm.trans hd')
          exact hend hc
  | layer name r =>
    cases hn : w.layer? name with
    | none =>
      have hp : w.perform f A (.layer name r) = none := by simp [perform, hn]
      refine .inr ⟨by simp [grants, hp], ?_, fun _ _ d hd => by simp [addressed?, hn] at hd⟩
      rw [step_of_perform_eq_none f A hp]
    | some l =>
      have hp := perform_layer f A hn r
      have hd : w.addressed? (.layer name r) = l.state.map (·.connection.source) := by
        simp [addressed?, hn]
      rw [step_of_perform f A hp]
      rcases l.ask_control f w.store h with ⟨hv, o, ho, ht⟩ | ⟨hv, hs, hend⟩
      · left
        refine ⟨?_, o.connection.source, by rw [hd, ho]; rfl, ht⟩
        simp only [grants, hp, hv]
        rfl
      · right
        refine ⟨?_, hs, fun hf hc d hd' => ?_⟩
        · simp only [grants, hp, hv]
          rfl
        · obtain ⟨o, ho, rfl⟩ := Option.map_eq_some_iff.mp (hd.symm.trans hd')
          exact hend hf hc o ho
  | _ => cases h

/-! ### Views and layers -/

/-- Where a layer that is held after an operation comes from. -/
inductive LayerOrigin (f : Faults) (w : Workspace) (op : Operation) (a : Answer) (s' : Store)
    (n : String) : Layer → Prop
  | kept {l l' : Layer} (h : w.layer? n = some l) (hk : l.Keeps false l')
      (ho : a.granted = true → op.addresses n = false) : LayerOrigin f w op a s' n l'
  | refreshed {l l₁ : Layer} (h : w.layer? n = some l) (hk : l.Keeps false l₁)
      (ho : op.result? = some n) (ha : a.granted = true) :
      LayerOrigin f w op a s' n (l₁.refreshSchema f s').1
  | asked {l : Layer} {r : LayerRequest} (h : w.layer? n = some l) (ho : op = .layer n r)
      (ha : a.value = (l.ask f w.store r).value) (hs : s' = (l.ask f w.store r).store) :
      LayerOrigin f w op a s' n (l.ask f w.store r).layer
  | opened {source : String} {contents : LayerSource} {options : OpenOptions} {l : Layer}
      {ws : List Warning} {s₁ : Store} (ho : op = .openLayer source contents options n)
      (ha : a.granted = true)
      (h : Layer.openOn f w.store source contents options = (.ok l, ws, s₁))
      (hs : s₁.Works False s') (ht : s'.tables = s₁.tables) : LayerOrigin f w op a s' n l

theorem LayerOrigin.refl {s' : Store} {n : String} {l : Layer} (h : w.layer? n = some l)
    (ho : a.granted = true → op.addresses n = false) : LayerOrigin f w op a s' n l :=
  .kept h (.refl l) ho

theorem Effect.layerOrigin (h : Effect f A w op a w') {n : String} {l : Layer}
    (hl : w'.layer? n = some l) : LayerOrigin f w op a w'.store n l := by
  cases h with
  | refused | openFails => exact .refl hl nofun
  | connect | layerByName | remove | queryFails | query | release | connection | view
  | overlayViews => exact .refl hl fun _ => rfl
  | @create _ m | @createLayer _ _ _ m => cases m <;> exact .refl hl fun _ => rfl
  | @opens _ _ _ _ _ _ s h =>
    rcases of_lookup_hold hl with ⟨rfl, rfl⟩ | ⟨hne, hl⟩
    · exact .opened rfl rfl h (works_closeLayer { w with store := s } n)
        (tables_closeLayer { w with store := s } n)
    · exact .refl (of_layer?_closeLayer { w with store := s } hl) fun _ => decide_eq_false hne.symm
  | drop => exact .refl (w.of_layer?_closeLayer hl) fun _ => rfl
  | layer h =>
    rcases of_lookup_hold hl with ⟨rfl, rfl⟩ | ⟨hne, hl⟩
    · exact .asked h rfl rfl rfl
    · exact .refl hl fun _ => decide_eq_false hne.symm
  | @overlay kind _ _ _ o answer i m r _ hi hm hr h =>
    subst h
    obtain ⟨ki, km, kr, -⟩ := Layer.overlay_keeps (q := False) f w.store A kind i m r o answer
    rcases of_lookup_hold hl with ⟨rfl, rfl⟩ | ⟨-, hl⟩
    · rcases kr with kr | ⟨l₁, kr, hvalue, hout⟩
      · exact .kept hr kr fun _ => rfl
      · rw [hout]
        exact .refreshed hr kr rfl (by rw [hvalue]; rfl)
    rcases of_lookup_hold hl with ⟨rfl, rfl⟩ | ⟨-, hl⟩
    · exact .kept hm km fun _ => rfl
    rcases of_lookup_hold hl with ⟨rfl, rfl⟩ | ⟨-, hl⟩
    · exact .kept hi ki fun _ => rfl
    · exact .refl hl fun _ => rfl

theorem Effect.open_held (he : Effect f A w op a w') {n : String} {l : Layer} {o : OpenLayer}
    (hl : w'.layer? n = some l) (ho : l.state = some o) :
    (∃ l₀ o₀, w.layer? n = some l₀ ∧ l₀.state = some o₀ ∧ l.source = l₀.source ∧ o₀.Stays o) ∨
      o.Fresh w.store w'.store l.source := by
  cases he.layerOrigin hl with
  | kept hl₀ hk =>
    obtain ⟨o₀, ho₀, hm⟩ := hk.state o ho
    exact .inl ⟨_, o₀, hl₀, ho₀, hk.source, hm.toStays⟩
  | refreshed hl₀ hk =>
    obtain ⟨o₁, _, ho₁, rfl⟩ := Layer.refreshSchema_state f _ ho
    obtain ⟨o₀, ho₀, hm⟩ := hk.state o₁ ho₁
    exact .inl ⟨_, o₀, hl₀, ho₀, (Layer.refreshSchema_source f _ _).trans hk.source,
      hm.handle, hm.source, hm.access, hm.idle⟩
  | @asked l₀ r hl₀ _ _ hs =>
    rw [Layer.ask_source]
    rcases l₀.ask_state f w.store ho with ⟨o₀, ho₀, hm⟩ | hf
    · exact .inl ⟨l₀, o₀, hl₀, ho₀, rfl, hm.toStays⟩
    · exact .inr (hs ▸ hf)
  | opened _ _ heq hs ht => exact .inr ((Layer.openOn_state f w.store heq ho).works hs ht)

/-- What holds of each layer as it is opened, and as long as it is open, holds of all layers. -/
theorem open_step {P : LayerSource → OpenLayer → Prop}
    (hstays : ∀ source o o', P source o → o.Stays o' → P source o')
    (hfresh : ∀ s s' source (o : OpenLayer), o.Fresh s s' source → P source o)
    (h : ∀ n l o, w.layer? n = some l → l.state = some o → P l.source o) (op : Operation) :
    ∀ n l o, (w.step f A op).layer? n = some l → l.state = some o → P l.source o := by
  intro n l o hl ho
  rcases w.step_cases f A op with hs | ⟨a, he⟩
  · exact h n l o (hs ▸ hl) ho
  · rcases he.open_held hl ho with ⟨l₀, o₀, hl₀, ho₀, hsource, hst⟩ | hf
    · exact hsource ▸ hstays _ _ _ (h n l₀ o₀ hl₀ ho₀) hst
    · exact hfresh _ _ _ o hf

theorem Effect.view_held (h : Effect f A w op a w') {n : String} {v : View}
    (hv : w'.view? n = some v) :
    (∃ m v₀, w.view? m = some v₀ ∧ v.handle = v₀.handle) ∨
      v.New w.store w'.store := by
  have hold : ∀ {v}, w.view? n = some v → (∃ m v₀, w.view? m = some v₀ ∧ v.handle = v₀.handle) ∨
      v.New w.store w'.store := fun hv => .inl ⟨n, _, hv, rfl⟩
  cases h with
  | refused | connect | remove | openFails | queryFails | connection | layer | overlay =>
    exact hold hv
  | @create _ m => cases m <;> exact hold hv
  | @opens _ m =>
    have hv : lookup (({ w with store := _ } : Workspace).closeLayer m).views n = some v := hv
    rw [views_closeLayer] at hv
    exact hold hv
  | drop m =>
    have hv := of_lookup_letGo hv
    rw [views_closeLayer] at hv
    exact hold hv
  | release => exact hold (of_lookup_letGo hv)
  | @createLayer _ _ _ m _ _ _ _ h =>
    cases m with
    | none => exact hold hv
    | some m =>
      rcases of_lookup_hold hv with ⟨-, rfl⟩ | ⟨-, hv⟩
      · exact .inr (.createLayer h)
      · exact hold hv
  | layerByName _ h =>
    rcases of_lookup_hold hv with ⟨-, rfl⟩ | ⟨-, hv⟩
    · exact .inr (.layerByName h)
    · exact hold hv
  | query _ h =>
    rcases of_lookup_hold hv with ⟨-, rfl⟩ | ⟨-, hv⟩
    · exact .inr (.query h)
    · exact hold hv
  | @view m r v₀ h =>
    rcases of_lookup_hold hv with ⟨-, rfl⟩ | ⟨-, hv⟩
    · exact .inl ⟨m, v₀, h, w.store.askView_handle v₀ r⟩
    · exact hold hv
  | @overlayViews kind input _ result o i m r _ hi hm hr h =>
    subst h
    obtain ⟨⟨e₁, he₁⟩, ⟨e₂, he₂⟩, -⟩ :=
      Overlay.run_spec (q := False) A kind w.store i m r o fun _ => true
    rcases of_lookup_hold hv with ⟨-, rfl⟩ | ⟨-, hv⟩
    · rw [he₂]
      exact .inl ⟨result, r, hr, rfl⟩
    rcases of_lookup_hold hv with ⟨-, rfl⟩ | ⟨-, hv⟩
    · rw [he₁]
      exact .inl ⟨input, i, hi, rfl⟩
    · exact hold hv

/-- An operation leaves the store alone, has an effect that is not about transactions, or makes a turn
on the source that it asks. -/
theorem store_step_cases (f : Faults) (A : RegionAlgebra) (w : Workspace) (op : Operation) :
    (w.step f A op).store = w.store ∨
      (∃ a, op.control? = none ∧ Effect f A w op a (w.step f A op)) ∨
      ∃ c d, op.control? = some c ∧ w.addressed? op = some d ∧
        w.store.Turn d c (w.step f A op).store := by
  cases hc : op.control? with
  | none =>
    rcases w.step_cases f A op with hs | ⟨a, he⟩
    · exact .inl (congrArg store hs)
    · exact .inr (.inl ⟨a, rfl, he⟩)
  | some c =>
    rcases w.control_cases f A hc with ⟨-, d, hd, ht⟩ | ⟨-, hs, -⟩
    · exact .inr (.inr ⟨c, d, rfl, hd, ht⟩)
    · exact .inl hs

variable (f) (A) (w) (op) in
theorem step_store : w.store.Works (w.MayQuery op) (w.step f A op).store ∨
    ∃ d c, w.store.Turn d c (w.step f A op).store := by
  rcases w.store_step_cases f A op with hs | ⟨a, hc, he⟩ | ⟨c, d, -, -, ht⟩
  · rw [hs]
    exact .inl .refl
  · exact .inl (he.works hc)
  · exact .inr ⟨d, c, ht⟩

variable (f) (A) (w) (op) in
theorem length_le_step : w.store.tables.length ≤ (w.step f A op).store.tables.length := by
  rcases w.step_store f A op with hw | ⟨d, c, ht⟩
  · exact Store.Works.length_le hw
  · exact Nat.le_of_eq ht.length_eq.symm

end Workspace

end FeatureLayer
