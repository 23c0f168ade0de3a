import FeatureLayer.Proofs.Workspace.ConcurrentScan
/-!
How far a scan has come, beyond the first time that it is told to have ended. Its place is then the last
record that is stored, which lies before it where records at the end have been deleted.
-/

namespace FeatureLayer

/-- The end has been told at a moment when all that was stored lay before that identifier. -/
def Reading.EndedBefore (e : Reading) (k : Int) : Prop :=
  e.given = none ∧ ∃ last, e.stored.lastFid? = some last ∧ last < k

namespace View

variable {v : View} {p : Option Int} {rs before between after : List Reading} {r : Reading} {x : Record}

theorem Scan.drop (h : v.Scan p (before ++ rs)) : ∃ q, v.Scan q rs := by
  induction before generalizing p with
  | nil => exact ⟨p, h⟩
  | cons e before ih =>
    cases h with
    | given _ _ rest => exact ih rest
    | ended _ rest => exact ih rest

/-- All that is given lies past the place at the start, unless meanwhile the end was told before it. -/
theorem Scan.ascends (h : v.Scan p (between ++ r :: after)) (hx : r.given = some x) :
    ∃ k, x.fid = some k ∧ ∀ q ∈ p, q < k ∨ ∃ e ∈ between, e.EndedBefore k := by
  generalize hrs : between ++ r :: after = rs at h
  induction h generalizing between with
  | unread => simp at hrs
  | @given p m k y rs first keyed rest ih =>
    obtain ⟨-, hpast⟩ := FidMap.mem_after.mp (List.mem_of_find?_eq_some first)
    cases between with
    | nil =>
      obtain ⟨rfl, -⟩ := List.cons.inj hrs
      obtain rfl := Option.some.inj hx
      exact ⟨k, keyed, fun q hq => .inl (hpast q hq)⟩
    | cons e between =>
      obtain ⟨j, hj, hk⟩ := ih (List.cons.inj hrs).2
      refine ⟨j, hj, fun q hq => ?_⟩
      rcases hk k rfl with hlt | ⟨e, he, hend⟩
      · exact .inl (Int.lt_trans (hpast q hq) hlt)
      · exact .inr ⟨e, List.mem_cons_of_mem _ he, hend⟩
  | @ended p m rs last rest ih =>
    cases between with
    | nil =>
      obtain ⟨rfl, -⟩ := List.cons.inj hrs
      cases hx
    | cons e between =>
      obtain ⟨rfl, hrest⟩ := List.cons.inj hrs
      obtain ⟨j, hj, hk⟩ := ih hrest
      have hlater : (∃ e ∈ between, e.EndedBefore j) →
          ∃ e ∈ (⟨m, none⟩ :: between : List Reading), e.EndedBefore j := by
        rintro ⟨e, he, hend⟩
        exact ⟨e, List.mem_cons_of_mem _ he, hend⟩
      refine ⟨j, hj, fun q hq => ?_⟩
      cases hlast : m.lastFid? with
      | none =>
        rw [hlast] at hk
        exact (hk q hq).imp_right hlater
      | some last =>
        rw [hlast] at hk
        -- the place is no longer `q`, but the end of what is stored
        rcases hk last rfl with hlt | hend
        · exact .inr ⟨_, List.mem_cons_self, rfl, last, hlast, hlt⟩
        · exact .inr (hlater hend)

end View

namespace Workspace

/-- Whatever others do to the table, and however often the end has been told, a view gives in each read
an identifier greater than all it has given before, or one past the end of what was stored when it told
the end in between. -/
theorem scan_ascends_between_ends (f : Faults) (A : RegionAlgebra) (earlier : List Operation) :
    let w := empty.run f A earlier
    ∀ n v, w.view? n = some v →
      ∀ ops, (∀ op ∈ ops, op = .view n .next ∨ op.sparesView n = true) →
        ∀ before r between r' after, w.readings f A n ops = before ++ r :: between ++ r' :: after →
          ∀ x y, r.given = some x → r'.given = some y →
            ∃ a b, x.fid = some a ∧ y.fid = some b ∧ (a < b ∨ ∃ e ∈ between, e.EndedBefore b) := by
  intro w n v hv ops hops before r between r' after hreads x y hx hy
  have hscan : v.Scan v.position (w.readings f A n ops) :=
    scan_readings f A (sound_empty.run earlier) hv ⟨v.lastError, rfl⟩ hops
  rw [hreads, List.append_assoc] at hscan
  obtain ⟨p, hscan⟩ := hscan.drop
  cases hscan with
  | ended => cases hx
  | @given _ _ a z _ _ keyed rest =>
    obtain rfl := Option.some.inj hx
    obtain ⟨b, hb, hpast⟩ := rest.ascends hy
    exact ⟨a, b, keyed, hb, hpast a rfl⟩

def removedAtEnd : List Operation × List Operation :=
  ([.create "d" (some "c"), .createLayer "c" "t" .empty (some "u"),
      .view "u" (.create ⟨none, [], []⟩), .view "u" (.create ⟨none, [], []⟩), .layerByName "c" "t" "v"],
    [.view "v" .next, .view "v" .next, .view "u" (.delete 2), .view "v" .next,
      .view "u" (.upsert ⟨some 2, [], []⟩), .view "v" .next])

theorem scan_ascends_between_ends_of_removed :
    let reads := (empty.run .none .exact removedAtEnd.1).readings .none .exact "v" removedAtEnd.2
    ∃ e ∈ reads, e.EndedBefore 2 := by
  intro reads
  have hfids : reads.map (fun e => e.given.bind (·.fid)) = [some 1, some 2, none, some 2] := by
    decide +kernel
  simp only [List.map_eq_cons_iff, List.map_eq_nil_iff] at hfids
  obtain ⟨r₁, _, hreads, -, r₂, _, rfl, h₂, e, _, rfl, -, r₃, _, rfl, h₃, rfl⟩ := hfids
  obtain ⟨x, hx, hx₂⟩ := Option.bind_eq_some_iff.mp h₂
  obtain ⟨y, hy, hy₂⟩ := Option.bind_eq_some_iff.mp h₃
  have hv : ((empty.run .none .exact removedAtEnd.1).view? "v").isSome = true := by decide +kernel
  obtain ⟨v, hv⟩ := Option.isSome_iff_exists.mp hv
  obtain ⟨a, b, ha, hb, hab⟩ := scan_ascends_between_ends .none .exact removedAtEnd.1 "v" v hv
    removedAtEnd.2 (by simp [removedAtEnd, Operation.sparesView]) [r₁] r₂ [e] r₃ [] hreads x y hx hy
  obtain rfl : a = 2 := Option.some.inj (ha.symm.trans hx₂)
  obtain rfl : b = 2 := Option.some.inj (hb.symm.trans hy₂)
  rcases hab with hlt | ⟨e, he, hend⟩
  · exact absurd hlt (Int.lt_irrefl 2)
  · rw [hreads]
    rw [List.mem_singleton] at he
    exact ⟨e, by simp [he], hend⟩

/-- The identifier that is given after the end is one that has been given before it. -/
theorem scan_gives_removed_record_again :
    let reads := (empty.run .none .exact removedAtEnd.1).readings .none .exact "v" removedAtEnd.2
    reads.map (fun e => e.given.bind (·.fid)) = [some 1, some 2, none, some 2] ∧
      ¬ (reads.filterMap fun e => e.given.bind (·.fid)).Pairwise (· < ·) := by
  decide +kernel

end Workspace

end FeatureLayer
