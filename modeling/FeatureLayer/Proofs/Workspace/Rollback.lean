import FeatureLayer.Proofs.Workspace.Soundness

namespace FeatureLayer

namespace Store

variable {s s' : Store} {d : Nat}

def contents (s : Store) (d : Nat) : List (Nat × FidMap Record × Int) :=
  (s.source d).tables.map fun i => (i, (s.table i).records, (s.table i).nextFid)

/-- A transaction of the source is active that started with these contents. -/
structure Underway (s : Store) (d : Nat) (c : List (Nat × FidMap Record × Int)) : Prop where
  snapshot : (s.source d).snapshot = some ⟨c.map (·.2)⟩
  tables : c.map (·.1) <+: (s.source d).tables

variable {c : List (Nat × FidMap Record × Int)}

theorem lt_of_snapshot {before : Snapshot} (h : (s.source d).snapshot = some before) :
    d < s.sources.length := by
  by_contra hd
  rw [source_of_le (by omega)] at h
  cases h

theorem Underway.works {q : Prop} (h : s.Underway d c) (hw : s.Works q s') : s'.Underway d c := by
  obtain ⟨h₁, h₂⟩ := hw.source_grows d
  exact ⟨h₂.trans h.snapshot, h.tables.trans h₁⟩

theorem Turn.snapshot {k : Control} (ht : s.Turn d k s') :
    (s.source d).snapshot.isSome = k.ends := by
  cases ht with
  | begin h => rw [h]; rfl
  | commit h | rollback h => rw [h]; rfl

theorem Turn.source_eq {j : Nat} {k : Control} (ht : s.Turn j k s') (h : j ≠ d) :
    s'.source d = s.source d := by
  cases ht with
  | begin | commit =>
    rw [withSnapshot, source_setSource, if_neg fun hj => h hj.1]
  | rollback =>
    rw [rolledBack, source_restore, cut, source_setSource, if_neg fun hj => h hj.1]

theorem Underway.turn {j : Nat} {k : Control} (h : s.Underway d c) (ht : s.Turn j k s')
    (hk : j = d → k.ends = false) : s'.Underway d c := by
  by_cases hj : j = d
  · subst hj
    cases ht with
    | begin hn =>
      -- a transaction is active already
      rw [h.snapshot] at hn
      cases hn
    | commit | rollback => cases hk rfl
  · have hs := ht.source_eq hj
    exact ⟨hs ▸ h.snapshot, hs ▸ h.tables⟩

theorem Turn.underway {force : Bool} (ht : s.Turn d (.begin force) s') :
    s'.Underway d (s.contents d) := by
  cases ht with
  | begin hn hu =>
    have hd : d < s.sources.length := by
      by_contra hd
      rw [source_of_le (by omega)] at hu
      exact hu rfl
    have hs : (s.withSnapshot d (some (s.contentsOf (s.source d)))).source d =
        { s.source d with snapshot := some (s.contentsOf (s.source d)) } := by
      rw [withSnapshot, source_setSource, if_pos ⟨rfl, hd⟩]
    constructor
    · rw [hs]
      simp [contentsOf, contents, Function.comp_def]
    · rw [hs]
      simp [contents, Function.comp_def]

theorem contents_commit (ht : s.Turn d .commit s') : s'.contents d = s.contents d := by
  cases ht with
  | commit h =>
    unfold contents withSnapshot
    rw [source_setSource, if_pos ⟨rfl, lt_of_snapshot h⟩]
    rfl

theorem table_restore_of_mem {es : List (Nat × FidMap Record × Int)} (hn : (es.map (·.1)).Nodup)
    {e : Nat × FidMap Record × Int} (he : e ∈ es) (hi : e.1 < s.tables.length) :
    (s.restore es).table e.1 = Restored (s.table e.1) e.2 := by
  induction es generalizing s with
  | nil => cases he
  | cons x es ih =>
    obtain ⟨hx, hn⟩ := List.nodup_cons.mp hn
    rw [restore_cons]
    rcases List.mem_cons.mp he with rfl | he
    · -- the others are put into other tables
      rcases table_restore (s.setTable e.1 (Restored (s.table e.1) e.2)) es e.1 with
        h | ⟨y, hy, hye, -⟩
      · rw [h, table_setTable, if_pos ⟨rfl, hi⟩]
      · exact absurd (List.mem_map.mpr ⟨y, hy, hye⟩) hx
    · have hne : x.1 ≠ e.1 := fun h => hx (List.mem_map.mpr ⟨e, he, h.symm⟩)
      have hset : (s.setTable x.1 (Restored (s.table x.1) x.2)).table e.1 = s.table e.1 := by
        rw [table_setTable, if_neg fun h => hne h.1]
      rw [ih hn he (by rwa [length_setTable]), hset]

theorem Underway.rollback (h : s.Underway d c) (hs : s.Sound) (ht : s.Turn d .rollback s') :
    s'.contents d = c := by
  cases ht with
  | @rollback before hb =>
    obtain rfl : before = ⟨c.map (·.2)⟩ := Option.some.inj (hb.symm.trans h.snapshot)
    have htake : (s.source d).tables.take (c.map (·.2)).length = c.map (·.1) := by
      rw [List.length_map, ← List.length_map (·.1)]
      exact (List.prefix_iff_eq_take.mp h.tables).symm
    have hzip : (c.map (·.1)).zip (c.map (·.2)) = c := by
      rw [← List.unzip_fst, ← List.unzip_snd]
      exact List.zip_unzip c
    have hnodup : (c.map (·.1)).Nodup := (hs.nodup d).sublist h.tables.sublist
    have hsource : ((s.rolledBack d ⟨c.map (·.2)⟩).source d).tables = c.map (·.1) := by
      rw [rolledBack, source_restore, cut, source_setSource, if_pos ⟨rfl, lt_of_snapshot hb⟩]
      exact htake
    unfold contents
    rw [hsource, List.map_map]
    refine (List.map_congr_left fun e he => ?_).trans (List.map_id c)
    have hi : e.1 < s.tables.length :=
      hs.listed d e.1 (h.tables.subset (List.mem_map_of_mem he))
    have htable : (s.rolledBack d ⟨c.map (·.2)⟩).table e.1 = Restored (s.table e.1) e.2 := by
      rw [rolledBack, htake, hzip]
      exact table_restore_of_mem (s := s.cut d _) hnodup he hi
    simp only [Function.comp, htable]
    rfl

end Store

namespace Workspace

def LeavesOpen (f : Faults) (A : RegionAlgebra) (d : Nat) : Workspace → List Operation → Prop
  | _, [] => True
  | w, op :: ops =>
    (∀ c, op.control? = some c → w.addressed? op = some d → c.ends = false) ∧
      LeavesOpen f A d (w.step f A op) ops

variable {f : Faults} {A : RegionAlgebra} {w : Workspace} {d : Nat}

theorem underway_step {c : List (Nat × FidMap Record × Int)} (h : w.store.Underway d c)
    {op : Operation}
    (hop : ∀ k, op.control? = some k → w.addressed? op = some d → k.ends = false) :
    (w.step f A op).store.Underway d c := by
  rcases w.store_step_cases f A op with hs | ⟨a, hc, he⟩ | ⟨k, j, hc, hj, ht⟩
  · rw [hs]
    exact h
  · exact h.works (he.works hc)
  · exact h.turn ht fun hjd => hop k hc (hjd ▸ hj)

theorem underway_run {c : List (Nat × FidMap Record × Int)} (h : w.store.Underway d c)
    {ops : List Operation} (hops : w.LeavesOpen f A d ops) :
    (w.run f A ops).store.Underway d c := by
  induction ops generalizing w with
  | nil => exact h
  | cons op ops ih => exact ih (underway_step h hops.1) hops.2

theorem turn_of_grants {op : Operation} {c : Store.Control} (hc : op.control? = some c)
    (hd : w.addressed? op = some d) (hg : w.grants f A op = true) :
    w.store.Turn d c (w.step f A op).store := by
  rcases w.control_cases f A hc with ⟨-, j, hj, ht⟩ | ⟨hn, -, -⟩
  · obtain rfl := Option.some.inj (hd.symm.trans hj)
    exact ht
  · rw [hg] at hn
    cases hn

/-- A transaction can be ended through an open handle as long as it is active, and no longer. -/
theorem grants_iff_of_ends {op : Operation} {c : Store.Control} (hc : op.control? = some c)
    (he : c.ends = true) (hd : w.addressed? op = some d) :
    w.grants .none A op = true ↔ (w.store.source d).snapshot.isSome = true := by
  constructor
  · intro hg
    exact (turn_of_grants hc hd hg).snapshot.trans he
  · intro hs
    rcases w.control_cases .none A hc with ⟨hg, -⟩ | ⟨-, -, hn⟩
    · exact hg
    · rw [hn rfl he d hd] at hs
      cases hs

/-- Whatever is done while a transaction is active, its rollback gives back the tables and contents
of its start, and its commit leaves them as they are. Requests about transactions that are refused
change nothing. -/
theorem rollback_restores (A : RegionAlgebra) (earlier : List Operation) :
    let w := empty.run .none A earlier
    (∀ op c, op.control? = some c →
      (w.grants .none A op = false → (w.step .none A op).store = w.store) ∧
        ∀ d, w.addressed? op = some d →
          (c.ends = false → w.grants .none A op = true → (w.store.source d).snapshot = none) ∧
            (c.ends = true →
              (w.grants .none A op = true ↔ (w.store.source d).snapshot.isSome = true))) ∧
      ∀ d start force during finish c,
        start.control? = some (.begin force) → w.addressed? start = some d →
        w.grants .none A start = true →
        (w.step .none A start).LeavesOpen .none A d during →
        let w' := (w.step .none A start).run .none A during
        finish.control? = some c → c.ends = true → w'.addressed? finish = some d →
        w'.grants .none A finish = true ∧
          (c = .rollback → (w'.step .none A finish).store.contents d = w.store.contents d) ∧
          (c = .commit → (w'.step .none A finish).store.contents d = w'.store.contents d) := by
  have hw : (empty.run .none A earlier).Sound := sound_empty.run earlier
  generalize empty.run .none A earlier = w at hw ⊢
  refine ⟨fun op c hc => ⟨fun hg => ?_, fun d hd => ⟨fun hb hg => ?_, fun he => ?_⟩⟩,
    fun d start force during finish c hstart hds hg hduring => ?_⟩
  · rcases w.control_cases .none A hc with ⟨hn, -⟩ | ⟨-, hs, -⟩
    · rw [hg] at hn
      cases hn
    · exact hs
  · have hn := (turn_of_grants hc hd hg).snapshot.trans hb
    simpa using hn
  · exact grants_iff_of_ends hc he hd
  · intro w' hfinish he hdf
    have hunder := underway_run (turn_of_grants hstart hds hg).underway hduring
    have hsound : w'.Sound := (hw.step start).run during
    have hgrant : w'.grants .none A finish = true := by
      rw [grants_iff_of_ends hfinish he hdf, hunder.snapshot, Option.isSome_some]
    have hturn := turn_of_grants hfinish hdf hgrant
    refine ⟨hgrant, ?_, ?_⟩
    · rintro rfl
      exact hunder.rollback hsound.store hturn
    · rintro rfl
      exact Store.contents_commit hturn

theorem rollback_restores_deleted :
    let w := empty.run .none .exact
      [.create "d" (some "c"), .connection "c" (.setTransactions .native),
        .createLayer "c" "t" .empty (some "v"), .view "v" (.create ⟨none, [], []⟩)]
    let w' := (w.step .none .exact (.connection "c" (.begin false))).run .none .exact
      [.view "v" (.delete 1), .createLayer "c" "u" .empty none]
    (w'.store.contents 0).map (·.2.1.fids) = [[], []] ∧
      ((w'.step .none .exact (.connection "c" .rollback)).store.contents 0).map (·.2.1.fids) =
        [[1]] := by
  intro w w'
  have h := (rollback_restores .exact
    [.create "d" (some "c"), .connection "c" (.setTransactions .native),
      .createLayer "c" "t" .empty (some "v"), .view "v" (.create ⟨none, [], []⟩)]).2 0
    (.connection "c" (.begin false)) false
    [.view "v" (.delete 1), .createLayer "c" "u" .empty none]
    (.connection "c" .rollback) .rollback rfl rfl rfl ⟨nofun, nofun, trivial⟩ rfl rfl rfl
  have hback : (w'.step .none .exact (.connection "c" .rollback)).store.contents 0 =
      w.store.contents 0 := h.2.1 rfl
  rw [hback]
  decide

end Workspace

end FeatureLayer
