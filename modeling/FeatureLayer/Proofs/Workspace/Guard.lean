import FeatureLayer.Proofs.Layer.Naming
import FeatureLayer.Proofs.Workspace.Rollback
/-!
Work under a transaction that nobody commits. It is undone through the layer that started it, and so
only if that layer is still open on the data source of the transaction.
-/

namespace FeatureLayer

def Operation.asksLayers : Operation → Bool
  | .layer .. | .overlay .. => true
  | _ => false

theorem Store.Turn.snapshot_rollback {s s' : Store} {d : Nat} (h : s.Turn d .rollback s') :
    (s'.source d).snapshot = none := by
  cases h with
  | rollback hb =>
    rw [rolledBack, source_restore, cut, source_setSource, if_pos ⟨rfl, lt_of_snapshot hb⟩]

namespace Workspace

variable {f : Faults} {A : RegionAlgebra} {w : Workspace} {n name : String} {d : Nat}
  {op : Operation}

/-- The name stands for a data source, and whatever layer `n` is, it is on that one. -/
structure StaysOn (w : Workspace) (n name : String) (d : Nat) : Prop where
  found : w.store.find? name = some d
  layer : ∀ l, w.layer? n = some l → l.On name d

theorem StaysOn.step (h : w.StaysOn n name d) (hop : op.asksLayers = true) :
    (w.step f A op).StaysOn n name d := by
  rcases w.step_cases f A op with hs | ⟨a, he⟩
  · rw [hs]
    exact h
  generalize w.step f A op = w' at he
  cases he with
  | refused => exact h
  | @layer m r l hl =>
    refine ⟨?_, fun l' hl' => ?_⟩
    · have hregistry := Layer.registry_ask f w.store l r
      simpa only [Store.find?, holdLayer, hregistry] using h.found
    · rcases of_lookup_hold hl' with ⟨rfl, rfl⟩ | ⟨-, hl'⟩
      · exact (h.layer l hl).ask h.found r
      · exact h.layer l' hl'
  | @overlay kind _ _ _ o answer i m r _ hi hm hr hout =>
    subst hout
    obtain ⟨oni, onm, onr⟩ := Layer.on_overlay f w.store name d A kind i m r o answer
    refine ⟨?_, fun l hl => ?_⟩
    · have hregistry := Layer.registry_overlay f w.store A kind i m r o answer
      simpa only [Store.find?, holdLayer, hregistry] using h.found
    · rcases of_lookup_hold hl with ⟨rfl, rfl⟩ | ⟨-, hl⟩
      · exact onr (h.layer _ hr)
      rcases of_lookup_hold hl with ⟨rfl, rfl⟩ | ⟨-, hl⟩
      · exact onm (h.layer _ hm)
      rcases of_lookup_hold hl with ⟨rfl, rfl⟩ | ⟨-, hl⟩
      · exact oni (h.layer _ hi)
      · exact h.layer l hl
  | _ => cases hop

theorem StaysOn.run (h : w.StaysOn n name d) {ops : List Operation}
    (hops : ∀ op ∈ ops, op.asksLayers = true) : (w.run f A ops).StaysOn n name d := by
  induction ops generalizing w with
  | nil => exact h
  | cons op ops ih =>
    exact ih (h.step (hops op List.mem_cons_self)) fun op hop => hops op (List.mem_cons_of_mem _ hop)

theorem leavesOpen_of_control? {ops : List Operation} (hops : ∀ op ∈ ops, op.control? = none) :
    w.LeavesOpen f A d ops := by
  induction ops generalizing w with
  | nil => trivial
  | cons op ops ih =>
    refine ⟨fun c hc => ?_, ih fun op hop => hops op (List.mem_cons_of_mem _ hop)⟩
    rw [hops op List.mem_cons_self] at hc
    cases hc

/-- When work under a transaction is abandoned, the transaction is over and the tables hold what they
held at its start, if the layer that started it is open on its data source then. Otherwise the
transaction goes on, and nothing at all is done if the layer is closed. A layer that has been asked
through layers alone is on that data source if it is open. -/
theorem abandoned_undone_if_open (A : RegionAlgebra) (earlier : List Operation) :
    let w := empty.run .none A earlier
    ∀ n d force during,
      w.grants .none A (.layer n (.begin force)) = true →
      w.addressed? (.layer n (.begin force)) = some d →
      (∀ op ∈ during, op.control? = none) →
      let w' := (w.step .none A (.layer n (.begin force))).run .none A during
      let abandon := Operation.layer n Ending.abandon.request
      let w'' := w'.step .none A abandon
      (w'.addressed? abandon = some d →
        (w''.store.source d).snapshot = none ∧ w''.store.contents d = w.store.contents d) ∧
      (w'.addressed? abandon ≠ some d → (w''.store.source d).snapshot.isSome = true) ∧
      (w'.addressed? abandon = none → w''.store = w'.store) ∧
      ∀ l, w.layer? n = some l → w.store.find? l.dataSource = some d →
        (∀ op ∈ during, op.asksLayers = true) →
        (w'.addressed? abandon = some d ↔ ∃ l', w'.layer? n = some l' ∧ l'.isOpen = true) := by
  have hw : (empty.run .none A earlier).Sound := sound_empty.run earlier
  generalize empty.run .none A earlier = w at hw ⊢
  intro w n d force during hg hd hduring w' abandon w''
  have hunder : w'.store.Underway d (w.store.contents d) :=
    underway_run (turn_of_grants rfl hd hg).underway (leavesOpen_of_control? hduring)
  have hsound : w'.Sound := (hw.step _).run during
  refine ⟨fun hopen => ?_, fun hopen => ?_, fun hclosed => ?_, fun l hl hfound hasks => ?_⟩
  · have hgrant : w'.grants .none A abandon = true := by
      rw [grants_iff_of_ends (c := .rollback) rfl rfl hopen, hunder.snapshot, Option.isSome_some]
    have hturn := turn_of_grants (c := .rollback) rfl hopen hgrant
    exact ⟨hturn.snapshot_rollback, hunder.rollback hsound.store hturn⟩
  · have hstill : w''.store.Underway d (w.store.contents d) :=
      underway_step hunder fun _ _ ha => absurd ha hopen
    rw [hstill.snapshot, Option.isSome_some]
  · rcases w'.control_cases .none A (show abandon.control? = some .rollback from rfl) with
      ⟨-, j, hj, -⟩ | ⟨-, hs, -⟩
    · rw [hclosed] at hj
      cases hj
    · exact hs
  · have hstart : w.StaysOn n l.dataSource d := by
      refine ⟨hfound, fun l₀ hl₀ => ?_⟩
      obtain rfl := Option.some.inj (hl.symm.trans hl₀)
      refine ⟨rfl, fun o ho => ?_⟩
      simpa [addressed?, hl, ho] using hd
    have hstays : w'.StaysOn n l.dataSource d := (hstart.step rfl).run hasks
    constructor
    · intro hopen
      obtain ⟨l', hl', hs⟩ := Option.bind_eq_some_iff.mp hopen
      obtain ⟨o, ho, -⟩ := Option.map_eq_some_iff.mp hs
      exact ⟨l', hl', by rw [Layer.isOpen, ho, Option.isSome_some]⟩
    · rintro ⟨l', hl', ho⟩
      obtain ⟨o, ho⟩ := Option.isSome_iff_exists.mp ho
      have hsource := (hstays.layer l' hl').source o ho
      simp [addressed?, abandon, hl', ho, hsource]

theorem abandoned_undone_after_reopening :
    let w := empty.run .none .exact
      [.create "d" (some "c"), .connection "c" (.setTransactions .native),
        .createLayer "c" "t" .empty (some "v"), .view "v" (.create ⟨none, [], []⟩),
        .openLayer "d" (.name "t") ⟨.readWrite, .empty, none, none⟩ "l"]
    let during : List Operation :=
      [.layer "l" (.delete 1), .layer "l" .close, .layer "l" (.reopen .readWrite),
        .layer "l" (.create ⟨[]⟩)]
    let w' := (w.step .none .exact (.layer "l" (.begin false))).run .none .exact during
    let w'' := w'.step .none .exact (.layer "l" .rollback)
    (w.store.contents 0).map (·.2.1.fids) = [[1]] ∧
      (w'.store.contents 0).map (·.2.1.fids) = [[2]] ∧
      (w''.store.source 0).snapshot = none ∧ w''.store.contents 0 = w.store.contents 0 := by
  intro w during w' w''
  have h := abandoned_undone_if_open .exact
    [.create "d" (some "c"), .connection "c" (.setTransactions .native),
      .createLayer "c" "t" .empty (some "v"), .view "v" (.create ⟨none, [], []⟩),
      .openLayer "d" (.name "t") ⟨.readWrite, .empty, none, none⟩ "l"] "l" 0 false during
    (by decide) (by decide) (by simp [during, Operation.control?, LayerRequest.control?])
  exact ⟨by decide, by decide, h.1 (by decide)⟩

/-- Closing the layer keeps the transaction from being undone, and from ending. -/
theorem abandoned_survives_closing :
    let w := empty.run .none .exact
      [.create "d" (some "c"), .connection "c" (.setTransactions .native),
        .createLayer "c" "t" .empty none,
        .openLayer "d" (.name "t") ⟨.readWrite, .empty, none, none⟩ "l"]
    let w' := (w.step .none .exact (.layer "l" (.begin false))).run .none .exact
      [.layer "l" (.create ⟨[]⟩), .layer "l" .close]
    let w'' := w'.step .none .exact (.layer "l" Ending.abandon.request)
    w.grants .none .exact (.layer "l" (.begin false)) = true ∧
      (w.store.contents 0).map (·.2.1.fids) = [[]] ∧
      (w''.store.contents 0).map (·.2.1.fids) = [[1]] ∧
      (w''.store.source 0).snapshot.isSome = true := by decide

end Workspace

end FeatureLayer
