import FeatureLayer.Proofs.Store.Reading
import FeatureLayer.Proofs.Store.Restoring
import FeatureLayer.Proofs.Workspace.Soundness
/-!
A view reads its table while others write to it. Its place is an identifier and not an index, so that
records which come and go on either side of it neither shift it nor stop it.
-/

namespace FeatureLayer

def ViewRequest.stays : ViewRequest → Bool
  | .setPredicate _ | .setSpatial _ | .ignore _ | .rewind | .next | .seek _ => false
  | _ => true

def Operation.sparesView (n : String) : Operation → Bool
  | .drop m | .layerByName _ _ m | .query _ _ _ _ m | .release _ m => m ≠ n
  | .createLayer _ _ _ m => m ≠ some n
  | .view m r => m ≠ n || r.stays
  | .overlayViews _ input _ result _ => input ≠ n && result ≠ n
  | _ => true

structure Reading where
  stored : FidMap Record
  given : Option Record

namespace View

variable {v u : View} {p : Option Int} {rs : List Reading} {given : List Record}

/-- A view with the filters of another, at a place. What it remembers of refusals counts for nothing. -/
def At (v : View) (p : Option Int) (u : View) : Prop :=
  ∃ e, u = { v with position := p, lastError := e }

/-- A view gives, of what is stored at the moment, the first record past its place that passes its
filters, and moves to it. Where there is none it moves to the last record that is stored. -/
inductive Scan (v : View) : Option Int → List Reading → Prop
  | unread {p : Option Int} : Scan v p []
  | given {p : Option Int} {m : FidMap Record} {k : Int} {r : Record} {rs : List Reading}
      (first : (m.after p).find? (fun e => v.admits e.2) = some (k, r)) (keyed : r.fid = some k)
      (rest : Scan v (some k) rs) : Scan v p (⟨m, some (v.project r)⟩ :: rs)
  | ended {p : Option Int} {m : FidMap Record} {rs : List Reading}
      (last : (m.after p).find? (fun e => v.admits e.2) = none)
      (rest : Scan v (m.lastFid? <|> p) rs) : Scan v p (⟨m, none⟩ :: rs)

theorem At.next {t : FeatureTable} (hu : v.At p u) (ht : t.Sound)
    (h : ∀ q, v.At q (u.next t).2 → v.Scan q rs) :
    v.Scan p (⟨t.records, (u.next t).1⟩ :: rs) := by
  obtain ⟨e, rfl⟩ := hu
  have hadmits : ∀ r, ({ v with position := p, lastError := e } : View).admits r = v.admits r :=
    fun _ => rfl
  unfold View.next at h ⊢
  simp only [hadmits] at h ⊢
  cases hf : (t.records.after p).find? (fun e => v.admits e.2) with
  | none =>
    rw [hf] at h
    exact .ended hf (h _ ⟨e, rfl⟩)
  | some x =>
    rw [hf] at h
    have hx := (FidMap.mem_after.mp (List.mem_of_find?_eq_some hf)).1
    exact .given hf (ht.keyed x hx) (h _ ⟨e, rfl⟩)

/-- What is given has been stored at that very moment. -/
theorem Scan.stored (h : v.Scan p rs) :
    ∀ r ∈ rs, ∀ x, r.given = some x →
      ∃ y ∈ r.stored.values, v.admits y = true ∧ x = v.project y := by
  induction h with
  | unread =>
    intro r hr
    cases hr
  | @given p m k y rs first _ _ ih =>
    intro r hr x hx
    rcases List.mem_cons.mp hr with rfl | hr
    · obtain ⟨hin, -⟩ := FidMap.mem_after.mp (List.mem_of_find?_eq_some first)
      have hadmits : v.admits y = true := List.find?_some (p := fun e : Int × Record => v.admits e.2) first
      exact ⟨y, FidMap.mem_values.mpr ⟨_, hin, rfl⟩, hadmits, (Option.some.inj hx).symm⟩
    · exact ih r hr x hx
  | ended _ _ ih =>
    intro r hr x hx
    rcases List.mem_cons.mp hr with rfl | hr
    · cases hx
    · exact ih r hr x hx

/-- Up to the first time that nothing is given, all that is given lies past the place. -/
theorem Scan.past (h : v.Scan p rs) (hrs : rs.map (·.given) = given.map some ++ [none]) :
    ∀ x ∈ given, ∃ k, x.fid = some k ∧ ∀ q ∈ p, q < k := by
  induction h generalizing given with
  | unread => simp at hrs
  | @given p m k y rs first keyed _ ih =>
    obtain ⟨-, hq⟩ := FidMap.mem_after.mp (List.mem_of_find?_eq_some first)
    cases given with
    | nil => simp at hrs
    | cons g gs =>
      obtain ⟨rfl, hgs⟩ : v.project y = g ∧ rs.map (·.given) = gs.map some ++ [none] := by
        simpa using hrs
      intro x hx
      rcases List.mem_cons.mp hx with rfl | hx
      · exact ⟨k, keyed, hq⟩
      · obtain ⟨j, hj, hkj⟩ := ih hgs x hx
        exact ⟨j, hj, fun q hqp => Int.lt_trans (hq q hqp) (hkj k rfl)⟩
  | ended =>
    cases given with
    | nil => simp
    | cons g gs => simp at hrs

theorem Scan.nodup (h : v.Scan p rs) (hrs : rs.map (·.given) = given.map some ++ [none]) :
    (given.map (·.fid)).Nodup := by
  induction h generalizing given with
  | unread => simp at hrs
  | @given p m k y rs first keyed rest ih =>
    cases given with
    | nil => simp at hrs
    | cons g gs =>
      obtain ⟨rfl, hgs⟩ : v.project y = g ∧ rs.map (·.given) = gs.map some ++ [none] := by
        simpa using hrs
      rw [List.map_cons, List.nodup_cons]
      refine ⟨fun hin => ?_, ih hgs⟩
      obtain ⟨x, hx, hxk⟩ := List.mem_map.mp hin
      obtain ⟨j, hj, hkj⟩ := rest.past hgs x hx
      have hjk : some j = some k := hj.symm.trans (hxk.trans keyed)
      have := hkj k rfl
      have := Option.some.inj hjk
      omega
  | ended =>
    cases given with
    | nil => simp
    | cons g gs => simp at hrs

/-- What is stored all the while and lies past the place is given once. -/
theorem Scan.once (h : v.Scan p rs) (hrs : rs.map (·.given) = given.map some ++ [none]) {k : Int}
    {y : Record} (hstored : ∀ r ∈ rs, r.stored.find? k = some y) (hv : v.admits y = true)
    (hp : ∀ q ∈ p, q < k) : given.filter (·.fid = some k) = [v.project y] := by
  induction h generalizing given with
  | unread => simp at hrs
  | @given p m j x rs first keyed rest ih =>
    have hahead : (k, y) ∈ (m.after p).filter (fun e => v.admits e.2) := by
      have hin := FidMap.find?_eq_some_iff.mp (hstored _ List.mem_cons_self)
      exact List.mem_filter.mpr ⟨FidMap.mem_after.mpr ⟨hin, hp⟩, hv⟩
    rw [FidMap.find?_after first] at hahead
    cases given with
    | nil => simp at hrs
    | cons g gs =>
      obtain ⟨rfl, hgs⟩ : v.project x = g ∧ rs.map (·.given) = gs.map some ++ [none] := by
        simpa using hrs
      rcases List.mem_cons.mp hahead with heq | hlater
      · cases heq
        -- all that follows lies past the record itself
        have hrest : gs.filter (·.fid = some k) = [] := by
          rw [List.filter_eq_nil_iff]
          intro z hz
          obtain ⟨i, hi, hki⟩ := rest.past hgs z hz
          have := hki k rfl
          simp only [hi, decide_eq_true_eq, Option.some.injEq]
          omega
        have hfid : (v.project y).fid = some k := keyed
        rw [List.filter_cons_of_pos (by simpa using hfid), hrest]
      · obtain ⟨-, hjk⟩ := FidMap.mem_after.mp (List.mem_filter.mp hlater).1
        have hfid : (v.project x).fid = some j := keyed
        have hne : ¬ (v.project x).fid = some k := by
          have := hjk j rfl
          simp only [hfid, Option.some.injEq]
          omega
        rw [List.filter_cons_of_neg (by simpa using hne)]
        exact ih hgs (fun r hr => hstored r (List.mem_cons_of_mem _ hr)) hjk
  | @ended p m rs last _ _ =>
    have hin := FidMap.find?_eq_some_iff.mp (hstored _ List.mem_cons_self)
    have := List.find?_eq_none.mp last (k, y) (FidMap.mem_after.mpr ⟨hin, hp⟩)
    exact absurd hv this

end View

theorem Store.askView_stays (s : Store) (v : View) {r : ViewRequest} (hr : r.stays = true) :
    ∃ e, (s.askView v r).2.1 = { v with lastError := e } := by
  cases r with
  | setPredicate | setSpatial | ignore | rewind | next | seek => cases hr
  | setCapabilities | setReportedCount | setFidColumn => exact ⟨v.lastError, rfl⟩
  | extent force => exact View.extent_eq (s.table v.table) v force
  | create r => exact (View.writes_create r).view (s.table v.table) v
  | replace r => exact (View.writes_replace r).view (s.table v.table) v
  | upsert r => exact (View.writes_upsert r).view (s.table v.table) v
  | delete fid => exact (View.writes_delete fid).view (s.table v.table) v

namespace Workspace

variable {f : Faults} {A : RegionAlgebra} {w w' : Workspace} {n : String} {v u : View}
  {p : Option Int} {op : Operation} {a : Answer}

theorem Effect.view?_of_sparesView (he : Effect f A w op a w') (hop : op.sparesView n = true)
    (hu : w.view? n = some u) : ∃ e, w'.view? n = some { u with lastError := e } := by
  have hkept : ∀ {held : List (String × View)} {m : String} {x : View}, m ≠ n →
      lookup held n = some u → lookup (hold held m x) n = some u := by
    intro held m x hm hu
    rw [lookup_hold, if_neg (Ne.symm hm)]
    exact hu
  have hleft : ∀ {m : String}, m ≠ n → lookup (letGo w.views m) n = some u := by
    intro m hm
    rw [lookup_letGo, if_neg (Ne.symm hm)]
    exact hu
  cases he with
  | refused | remove | connect | openFails | queryFails | connection | layer | overlay =>
    exact ⟨u.lastError, hu⟩
  | @create _ m => cases m <;> exact ⟨u.lastError, hu⟩
  | @opens _ m =>
    refine ⟨u.lastError, ?_⟩
    exact (congrArg (lookup · n) (views_closeLayer ({ w with store := _ } : Workspace) m)).trans hu
  | drop m =>
    refine ⟨u.lastError, ?_⟩
    exact (congrArg (fun held => lookup (letGo held m) n) (views_closeLayer w m)).trans
      (hleft (of_decide_eq_true hop))
  | @createLayer _ _ _ m =>
    cases m with
    | none => exact ⟨u.lastError, hu⟩
    | some m =>
      have hm : m ≠ n := by simpa [Operation.sparesView] using hop
      exact ⟨u.lastError, hkept hm hu⟩
  | layerByName => exact ⟨u.lastError, hkept (of_decide_eq_true hop) hu⟩
  | query => exact ⟨u.lastError, hkept (of_decide_eq_true hop) hu⟩
  | release => exact ⟨u.lastError, hleft (of_decide_eq_true hop)⟩
  | @view m r x hx =>
    by_cases hm : m = n
    · subst hm
      obtain rfl := Option.some.inj (hx.symm.trans hu)
      have hr : r.stays = true := by simpa [Operation.sparesView] using hop
      obtain ⟨e, he⟩ := w.store.askView_stays x hr
      refine ⟨e, ?_⟩
      rw [← he]
      exact (lookup_hold ..).trans (if_pos rfl)
    · exact ⟨u.lastError, hkept hm hu⟩
  | overlayViews =>
    obtain ⟨hi, hr⟩ : _ ≠ n ∧ _ ≠ n := by simpa [Operation.sparesView] using hop
    exact ⟨u.lastError, hkept hr (hkept hi hu)⟩

variable (f) (A)

theorem at_step_of_sparesView (hop : op.sparesView n = true) (hu : w.view? n = some u)
    (hv : v.At p u) : ∃ u', (w.step f A op).view? n = some u' ∧ v.At p u' := by
  rcases w.step_cases f A op with hs | ⟨a, he⟩
  · rw [hs]
    exact ⟨u, hu, hv⟩
  · obtain ⟨e, he⟩ := he.view?_of_sparesView hop hu
    obtain ⟨_, rfl⟩ := hv
    exact ⟨_, he, e, rfl⟩

def reading? (n : String) (w : Workspace) : Operation → Option Reading
  | .view m .next =>
    if m = n then
      match w.view? n, w.perform f A (.view m .next) with
      | some v, some (⟨.ok (.record given), _, _⟩, _) =>
        some ⟨(w.store.table v.table).records, given⟩
      | _, _ => none
    else none
  | _ => none

def readings (n : String) : Workspace → List Operation → List Reading
  | _, [] => []
  | w, op :: ops => (w.reading? f A n op).toList ++ readings n (w.step f A op) ops

theorem perform_view (hu : w.view? n = some u) (r : ViewRequest) :
    w.perform f A (.view n r) =
      some (.plain (w.store.askView u r).1,
        ({ w with store := (w.store.askView u r).2.2 } : Workspace).holdView n
          (w.store.askView u r).2.1) := by
  simp [perform, hu]

theorem reading?_next (hu : w.view? n = some u) :
    w.reading? f A n (.view n .next) =
      some ⟨(w.store.table u.table).records, (u.next (w.store.table u.table)).1⟩ := by
  simp only [reading?, if_true, hu, perform_view f A hu]
  rfl

theorem scan_readings (hw : w.Sound) (hu : w.view? n = some u) (hv : v.At p u)
    {ops : List Operation} (hops : ∀ op ∈ ops, op = .view n .next ∨ op.sparesView n = true) :
    v.Scan p (w.readings f A n ops) := by
  induction ops generalizing w u p with
  | nil => exact .unread
  | cons op ops ih =>
    have hops' := fun op h => hops op (List.mem_cons_of_mem _ h)
    rw [readings]
    rcases hops op List.mem_cons_self with rfl | hop
    · obtain ⟨e, rfl⟩ := id hv
      rw [reading?_next f A hu]
      refine hv.next (hw.store.tables v.table) fun q hq => ?_
      refine ih (hw.step _) ?_ hq hops'
      rw [step_of_perform f A (perform_view f A hu .next)]
      exact (lookup_hold ..).trans (if_pos rfl)
    · obtain ⟨u', hu', hv'⟩ := at_step_of_sparesView f A hop hu hv
      have hnone : w.reading? f A n op = none := by
        unfold reading?
        split
        · split
          next hm =>
            subst hm
            simp [Operation.sparesView, ViewRequest.stays] at hop
          next => rfl
        · rfl
      rw [hnone]
      exact ih (hw.step op) hu' hv' hops'

/-- While others write to the table, a view that starts before the first record gives nothing but what
is stored at the moment of the read. Up to its end the scan gives no identifier twice, and just once
each record that passes the filters and is stored unchanged at every read. -/
theorem scan_under_writes (earlier : List Operation) :
    let w := empty.run f A earlier
    ∀ n v, w.view? n = some v → v.position = none →
      ∀ ops, (∀ op ∈ ops, op = .view n .next ∨ op.sparesView n = true) →
        let reads := w.readings f A n ops
        (∀ r ∈ reads, ∀ x, r.given = some x →
          ∃ y ∈ r.stored.values, v.admits y = true ∧ x = v.project y) ∧
        ∀ given : List Record, reads.map (·.given) = given.map some ++ [none] →
          (given.map (·.fid)).Nodup ∧
          ∀ k y, (∀ r ∈ reads, r.stored.find? k = some y) → v.admits y = true →
            given.filter (·.fid = some k) = [v.project y] := by
  intro w n v hv hstart ops hops reads
  have hat : v.At none v := ⟨v.lastError, by rw [← hstart]⟩
  have hscan : v.Scan none reads := scan_readings f A (sound_empty.run earlier) hv hat hops
  refine ⟨hscan.stored, fun given hgiven => ⟨hscan.nodup hgiven, fun k y hstored hy => ?_⟩⟩
  exact hscan.once hgiven hstored hy nofun

theorem scan_under_writes_to_both_sides :
    let r : Int → Record := fun fid => ⟨some fid, [], []⟩
    let w := empty.run .none .exact
      [.create "d" (some "c"), .connection "c" (.setTransactions .native),
        .createLayer "c" "t" .empty (some "u"), .view "u" (.create (r 2)),
        .view "u" (.create (r 5)), .view "u" (.create (r 7)), .layerByName "c" "t" "v",
        .view "v" .next, .view "v" .rewind]
    let ops : List Operation :=
      [.view "v" .next, .view "u" (.delete 2), .view "u" (.create (r 1)),
        .connection "c" (.begin false), .view "u" (.create (r 6)), .view "u" (.delete 7),
        .view "v" .next, .connection "c" .rollback, .view "v" .next, .view "v" .next]
    ∃ given : List Record,
      (w.readings .none .exact "v" ops).map (·.given) = given.map some ++ [none] ∧
      given.map (·.fid) = [some 2, some 5, some 7] ∧ given.filter (·.fid = some 5) = [r 5] := by
  intro r w ops
  have hfids : (w.readings .none .exact "v" ops).map (fun x => x.given.map (·.fid)) =
      [some (some 2), some (some 5), some (some 7), none] := by decide +kernel
  obtain ⟨given, hgiven, hfids⟩ : ∃ given : List Record,
      (w.readings .none .exact "v" ops).map (·.given) = given.map some ++ [none] ∧
      given.map (·.fid) = [some 2, some 5, some 7] := by
    simp only [List.map_eq_cons_iff, List.map_eq_nil_iff] at hfids
    obtain ⟨a, _, hreads, ha, b, _, rfl, hb, c, _, rfl, hc, d, _, rfl, hd, rfl⟩ := hfids
    obtain ⟨x, hx, hx'⟩ := Option.map_eq_some_iff.mp ha
    obtain ⟨y, hy, hy'⟩ := Option.map_eq_some_iff.mp hb
    obtain ⟨z, hz, hz'⟩ := Option.map_eq_some_iff.mp hc
    refine ⟨[x, y, z], ?_, by simp [hx', hy', hz']⟩
    rw [hreads]
    simp [hx, hy, hz, Option.map_eq_none_iff.mp hd]
  have hstored : ∀ x ∈ w.readings .none .exact "v" ops, x.stored.find? 5 = some (r 5) := by
    have hall : ((w.readings .none .exact "v" ops).all fun x => (x.stored.find? 5).any fun y =>
        y.fid = some 5 && y.data.isEmpty && y.geometries.isEmpty) = true := by decide +kernel
    intro x hx
    obtain ⟨⟨k, data, geometries⟩, hy, hfacts⟩ :=
      (Option.any_eq_true _ _).mp (List.all_eq_true.mp hall x hx)
    simp only [Bool.and_eq_true, decide_eq_true_eq, List.isEmpty_iff] at hfacts
    obtain ⟨⟨rfl, rfl⟩, rfl⟩ := hfacts
    exact hy
  have hops : ∀ op ∈ ops, op = .view "v" .next ∨ op.sparesView "v" = true := by
    intro op hop
    simp only [ops, List.mem_cons, List.not_mem_nil, or_false] at hop
    rcases hop with rfl | rfl | rfl | rfl | rfl | rfl | rfl | rfl | rfl | rfl
    all_goals first
      | exact .inl rfl
      | exact .inr rfl
  have hv : ((w.view? "v").any fun v => v.position.isNone && v.predicate.isNone &&
      v.spatial.isNone && v.ignored = .none) = true := by decide +kernel
  obtain ⟨v, hv, hfacts⟩ := (Option.any_eq_true _ _).mp hv
  simp only [Bool.and_eq_true, Option.isNone_iff_eq_none, decide_eq_true_eq] at hfacts
  obtain ⟨⟨⟨hstart, hp⟩, hs⟩, hi⟩ := hfacts
  have hall : v.Unlimited := ⟨hp, hs, hi⟩
  have hscan := scan_under_writes .none .exact _ "v" v hv hstart ops hops
  refine ⟨given, hgiven, hfids, ?_⟩
  rw [(hscan.2 given hgiven).2 5 (r 5) hstored (hall.admits _), hall.project]

end Workspace

end FeatureLayer
