import FeatureLayer.Proofs.OverlayLaws
/-!
Overlays step by step. Pieces are cut from one record after the other and the progress is told after
each, and once more at the end; only then are records written. Whatever is told meets with yes or no,
and the first no ends the overlay before it has written anything.
-/

namespace FeatureLayer

namespace Overlay

variable {A : RegionAlgebra} {kind : OverlayKind} {o : Options} {answer : Nat → Bool}

/-! ### Steps -/

/-- What there is to do once the records are collected. -/
structure Job where
  kind : OverlayKind
  inputs : List Part
  methods : List Part
  /-- The record that is written for a piece. -/
  record : Piece → Record

inductive Stage where
  /-- Cutting pieces from these records of the input, and then of the method. -/
  | cutting (inputs methods : List Part)
  | writing (records : List Record)
  | ended (value : Except Error Unit)

structure Work where
  stage : Stage
  /-- How many records have been cut. -/
  done : Nat
  /-- What has been told as done. -/
  told : List Nat
  pieces : List Piece
  view : View
  table : FeatureTable

namespace Job

variable {j : Job} {w w' : Work}

def total (j : Job) : Nat :=
  j.inputs.length + if j.kind.keepsMethod then j.methods.length else 0

def start (j : Job) (v : View) (t : FeatureTable) : Work :=
  ⟨.cutting j.inputs (if j.kind.keepsMethod then j.methods else []), 0, [], [], v, t⟩

def cancelled (j : Job) : Error := .refused .failure j.kind.method "User terminated"

/-- The records of the pieces that have polygons. -/
def records (j : Job) (pieces : List Piece) : List Record :=
  (pieces.filter (!·.polygons.isEmpty)).map j.record

def report (j : Job) (answer : Nat → Bool) (w : Work) (done : Nat) (next : Stage) : Work :=
  { w with
    told := w.told ++ [done]
    stage := if answer w.told.length then next else .ended (.error j.cancelled) }

def step (A : RegionAlgebra) (j : Job) (answer : Nat → Bool) (w : Work) : Option Work :=
  match w.stage with
  | .cutting (i :: is) ms =>
    let cut := inputPieces A j.kind j.methods (cover A j.methods) i
    let w := { w with done := w.done + 1, pieces := w.pieces ++ cut }
    some (j.report answer w w.done (.cutting is ms))
  | .cutting [] (m :: ms) =>
    let cut := methodPiece A j.kind (cover A j.inputs) m
    let w := { w with done := w.done + 1, pieces := w.pieces ++ [cut] }
    some (j.report answer w w.done (.cutting [] ms))
  | .cutting [] [] =>
    some (j.report answer w j.total (.writing (j.records w.pieces)))
  | .writing (r :: rs) =>
    match w.view.create w.table r with
    | (.ok _, v, t) => some { w with view := v, table := t, stage := .writing rs }
    | (.error e, v, t) => some { w with view := v, table := t, stage := .ended (.error e) }
  | .writing [] => some { w with stage := .ended (.ok ()) }
  | .ended _ => none

def Reaches (A : RegionAlgebra) (j : Job) (answer : Nat → Bool) : Work → Work → Prop :=
  Relation.ReflTransGen fun w w' => j.step A answer w = some w'

/-! ### What is known on the way -/

/-- While pieces are cut, each record that is done has been told and met with yes; while records are
written, everything has. -/
def OnTrack (j : Job) (answer : Nat → Bool) (w : Work) : Prop :=
  match w.stage with
  | .cutting is ms =>
    w.done + is.length + ms.length = j.total ∧ w.told = List.range' 1 w.done ∧
      ∀ k < w.done, answer k = true
  | .writing _ => w.told = milestones j.total ∧ ∀ k ≤ j.total, answer k = true
  | .ended _ => True

theorem onTrack_start (v : View) (t : FeatureTable) : j.OnTrack answer (j.start v t) := by
  refine ⟨?_, rfl, nofun⟩
  simp only [start, total]
  split <;> simp

theorem onTrack_report {n : Nat} {next : Stage}
    (h : answer w.told.length = true → j.OnTrack answer { w with told := w.told ++ [n], stage := next }) :
    j.OnTrack answer (j.report answer w n next) := by
  unfold report
  cases hanswer : answer w.told.length with
  | true => exact h hanswer
  | false => trivial

theorem onTrack_next {is ms : List Part} {pieces : List Piece}
    (hcount : w.done + 1 + is.length + ms.length = j.total) (htold : w.told = List.range' 1 w.done)
    (hyes : ∀ k < w.done, answer k = true) :
    j.OnTrack answer (j.report answer { w with done := w.done + 1, pieces } (w.done + 1)
      (.cutting is ms)) := by
  refine onTrack_report fun hanswer => ⟨hcount, ?_, fun k hk => ?_⟩
  · rw [htold, List.range'_1_concat, Nat.add_comm 1 w.done]
  · rw [htold, List.length_range'] at hanswer
    rcases Nat.lt_succ_iff_lt_or_eq.mp hk with hlt | rfl
    · exact hyes k hlt
    · exact hanswer

theorem onTrack_step (h : j.OnTrack answer w) (hstep : j.step A answer w = some w') :
    j.OnTrack answer w' := by
  obtain ⟨stage, done, told, pieces, v, t⟩ := w
  match stage, h, hstep with
  | .cutting (i :: is) ms, ⟨hcount, htold, hyes⟩, hstep =>
    cases hstep
    refine onTrack_next (w := ⟨_, done, told, _, v, t⟩) ?_ htold hyes
    rw [← hcount, List.length_cons]
    omega
  | .cutting [] (m :: ms), ⟨hcount, htold, hyes⟩, hstep =>
    cases hstep
    refine onTrack_next (w := ⟨_, done, told, _, v, t⟩) ?_ htold hyes
    rw [← hcount, List.length_cons]
    omega
  | .cutting [] [], ⟨hcount, htold, hyes⟩, hstep =>
    cases hstep
    obtain rfl : done = j.total := hcount
    refine onTrack_report fun hanswer => ⟨by rw [htold]; rfl, fun k hk => ?_⟩
    rw [htold, List.length_range'] at hanswer
    rcases Nat.lt_or_eq_of_le hk with hlt | rfl
    · exact hyes k hlt
    · exact hanswer
  | .writing (r :: rs), h, hstep =>
    simp only [step] at hstep
    split at hstep
    · cases hstep
      exact h
    · cases hstep
      trivial
  | .writing [], _, hstep =>
    cases hstep
    trivial
  | .ended _, _, hstep => cases hstep

theorem onTrack_reaches (h : j.OnTrack answer w) (hreach : j.Reaches A answer w w') :
    j.OnTrack answer w' := by
  induction hreach with
  | refl => exact h
  | tail _ hstep ih => exact onTrack_step ih hstep

theorem writing_of_table_ne (hstep : j.step A answer w = some w') (hne : w'.table ≠ w.table) :
    ∃ records, w.stage = .writing records := by
  obtain ⟨stage, done, told, pieces, v, t⟩ := w
  match stage, hstep with
  | .cutting (i :: is) ms, hstep | .cutting [] (m :: ms), hstep | .cutting [] [], hstep =>
    cases hstep
    exact absurd rfl hne
  | .writing rs, _ => exact ⟨rs, rfl⟩
  | .ended _, hstep => cases hstep

/-! ### Where it ends -/

def Tells (A : RegionAlgebra) (j : Job) (answer : Nat → Bool) (w : Work) (marks : List Nat)
    (records : List Record) : Prop :=
  let said := tell answer j.total w.told.length marks
  ∃ w', j.Reaches A answer w w' ∧ w'.view = w.view ∧ w'.table = w.table ∧
    w'.told.map (fraction j.total) = w.told.map (fraction j.total) ++ said.2 ∧
    w'.stage = if said.1 then .writing records else .ended (.error j.cancelled)

theorem tells_nil {records : List Record} (h : w.stage = .writing records) :
    j.Tells A answer w [] records :=
  ⟨w, .refl, rfl, rfl, (List.append_nil _).symm, h⟩

theorem tells_cons {w₁ : Work} {n : Nat} {next : Stage} {marks : List Nat} {records : List Record}
    (hstep : j.step A answer w = some (j.report answer w₁ n next)) (hview : w₁.view = w.view)
    (htable : w₁.table = w.table) (htold : w₁.told = w.told)
    (hrest : j.Tells A answer { w₁ with told := w₁.told ++ [n], stage := next } marks records) :
    j.Tells A answer w (n :: marks) records := by
  unfold Tells
  rw [tell, ← htold]
  cases hanswer : answer w₁.told.length with
  | true =>
    have hreport : j.report answer w₁ n next = { w₁ with told := w₁.told ++ [n], stage := next } := by
      rw [report, hanswer]
      rfl
    obtain ⟨w', hreach, hview', htable', htold', hstage'⟩ := hrest
    rw [List.length_append, List.length_singleton] at htold' hstage'
    refine ⟨w', .head hstep (hreport ▸ hreach), hview'.trans hview, htable'.trans htable, ?_, hstage'⟩
    rw [htold', List.map_append, List.append_assoc]
    rfl
  | false =>
    refine ⟨_, .single hstep, hview, htable, ?_, ?_⟩
    · simp [report]
    · simp [report, hanswer]

section

variable (A : RegionAlgebra) (j : Job) (answer : Nat → Bool)

theorem tells_methods (ms : List Part) (stage : Stage) (done : Nat) (told : List Nat)
    (pieces : List Piece) (v : View) (t : FeatureTable) (hstage : stage = .cutting [] ms) :
    j.Tells A answer ⟨stage, done, told, pieces, v, t⟩ (List.range' (done + 1) ms.length ++ [j.total])
      (j.records (pieces ++ ms.map (methodPiece A j.kind (cover A j.inputs)))) := by
  subst hstage
  induction ms generalizing done told pieces with
  | nil =>
    rw [List.map_nil, List.append_nil]
    exact tells_cons rfl rfl rfl rfl (tells_nil rfl)
  | cons m ms ih =>
    refine tells_cons rfl rfl rfl rfl ?_
    have hpieces : pieces ++ (m :: ms).map (methodPiece A j.kind (cover A j.inputs)) =
        pieces ++ [methodPiece A j.kind (cover A j.inputs) m] ++
          ms.map (methodPiece A j.kind (cover A j.inputs)) := by simp
    rw [hpieces]
    exact ih _ _ _

theorem tells_inputs (is ms : List Part) (done : Nat) (told : List Nat) (pieces : List Piece) (v : View)
    (t : FeatureTable) :
    j.Tells A answer ⟨.cutting is ms, done, told, pieces, v, t⟩
      (List.range' (done + 1) (is.length + ms.length) ++ [j.total])
      (j.records (pieces ++ (is.flatMap (inputPieces A j.kind j.methods (cover A j.methods)) ++
        ms.map (methodPiece A j.kind (cover A j.inputs))))) := by
  induction is generalizing done told pieces with
  | nil =>
    rw [List.length_nil, Nat.zero_add, List.flatMap_nil, List.nil_append]
    exact tells_methods A j answer ms _ done told pieces v t rfl
  | cons i is ih =>
    have hlength : (i :: is).length + ms.length = is.length + ms.length + 1 := by
      rw [List.length_cons]
      omega
    rw [hlength, List.range'_succ, List.cons_append, List.flatMap_cons, List.append_assoc,
      ← List.append_assoc pieces]
    exact tells_cons rfl rfl rfl rfl (ih _ _ _)

theorem tells_start (v : View) (t : FeatureTable) :
    j.Tells A answer (j.start v t) (milestones j.total) (j.records (pieces A j.kind j.inputs j.methods)) := by
  have h := tells_inputs A j answer j.inputs (if j.kind.keepsMethod then j.methods else []) 0 [] [] v t
  rw [Nat.zero_add, List.nil_append] at h
  have htotal : j.inputs.length + (if j.kind.keepsMethod then j.methods else []).length = j.total := by
    rw [total]
    split <;> rfl
  have hpieces : j.inputs.flatMap (inputPieces A j.kind j.methods (cover A j.methods)) ++
      (if j.kind.keepsMethod then j.methods else []).map (methodPiece A j.kind (cover A j.inputs)) =
        pieces A j.kind j.inputs j.methods := by
    rw [pieces]
    split <;> rfl
  rwa [htotal, hpieces] at h

theorem reaches_written (rs : List Record) (w : Work) (h : w.stage = .writing rs) :
    let out := writeAll w.table w.view rs
    j.Reaches A answer w { w with view := out.2.1, table := out.2.2, stage := .ended out.1 } := by
  induction rs generalizing w with
  | nil => exact .single (by simp only [step, h]; rfl)
  | cons r rs ih =>
    rw [writeAll]
    cases hcreate : w.view.create w.table r with
    | mk value changed =>
      cases value with
      | ok fid =>
        refine .head ?_ (ih { w with view := changed.1, table := changed.2, stage := .writing rs } rfl)
        simp only [step, h, hcreate]
      | error e => exact .single (by simp only [step, h, hcreate])

end

end Job

/-! ### Overlays of views -/

def job (kind : OverlayKind) (o : Options) (s : Store) (input method result : View)
    (inputs methods : List Part) : Job :=
  let inputFields := (s.table input.table).schema.fields
  let methodFields := (s.table method.table).schema.fields
  let schema := ((prepared kind o s input method result).table result.table).schema
  ⟨kind, inputs, methods, record o.promoteToMulti schema (targets o.inputPrefix inputFields schema.fields)
    (methodTargets kind o methodFields schema.fields)⟩

variable {s : Store} {input method result : View} {inputs methods : List Part}

theorem total_job :
    (job kind o s input method result inputs methods).total = inputs.length +
      if kind = .union ∨ kind = .symDifference ∨ kind = .update then methods.length else 0 := by
  have hkeeps : kind.keepsMethod = true ↔ kind = .union ∨ kind = .symDifference ∨ kind = .update := by
    cases kind <;> simp [OverlayKind.keepsMethod]
  simp only [← hkeeps]
  rfl

theorem prepared_keeps (s : Store) (input method result : View) (i : Nat) :
    ((prepared kind o s input method result).table i).records = (s.table i).records ∧
      ((prepared kind o s input method result).table i).nextFid = (s.table i).nextFid := by
  rw [prepared, Store.change, Store.table_setTable]
  split
  next h =>
    rw [← h.1]
    exact ⟨rfl, rfl⟩
  next => exact ⟨rfl, rfl⟩

/-- The steps of an overlay lead to its outcome. -/
theorem reaches_outcome (A : RegionAlgebra) (answer : Nat → Bool) (hwritable : result.writable = true)
    (hinputs : collect kind o.skipFailures (input.selected (s.table input.table)) = .ok inputs)
    (hmethods : collect kind o.skipFailures (method.selected (s.table method.table)) = .ok methods) :
    let s₁ := prepared kind o s input method result
    let j := job kind o s input method result inputs methods
    let out := run A kind s input method result o answer
    ∃ w, j.Reaches A answer (j.start result (s₁.table result.table)) w ∧ w.stage = .ended out.value ∧
      w.told.map (fraction j.total) = out.progress ∧ w.view = out.result ∧
      out.store = s₁.setTable result.table w.table := by
  intro s₁ j out
  have htells := Job.tells_start A j answer result (s₁.table result.table)
  rw [Job.Tells] at htells
  cases hsaid : tell answer j.total 0 (milestones j.total) with
  | mk go told =>
    obtain ⟨w, hreach, hview, htable, htold, hstage⟩ := htells
    simp only [Job.start, List.length_nil, List.map_nil, List.nil_append, hsaid] at hview htable htold hstage
    cases go with
    | true =>
      have hwritten := Job.reaches_written A j answer _ w hstage
      rw [hview, htable] at hwritten
      rw [show out = _ from run_of_yes hwritable hinputs hmethods hsaid]
      exact ⟨_, hreach.trans hwritten, rfl, htold, rfl, rfl⟩
    | false =>
      rw [show out = _ from run_of_no hwritable hinputs hmethods hsaid]
      exact ⟨w, hreach, hstage, htold, hview, by rw [htable, Store.setTable_table]⟩

/-- Let `n` be how many records of the input are collected, with those of the method where they give
pieces by themselves. An overlay tells `1` to `n` as done, and `n` again, until it is answered with no.
Answered with no, it fails, having told nothing after that and changed no record. Its steps lead from
the prepared result to its outcome, and one that changes the result comes after everything has been
told and met with yes. If the result is read-only, nothing is collected or told. -/
theorem progress_precedes_writing (A : RegionAlgebra) (answer : Nat → Bool)
    (hinputs : collect kind o.skipFailures (input.selected (s.table input.table)) = .ok inputs)
    (hmethods : collect kind o.skipFailures (method.selected (s.table method.table)) = .ok methods) :
    let out := run A kind s input method result o answer
    let n := inputs.length +
      if kind = .union ∨ kind = .symDifference ∨ kind = .update then methods.length else 0
    let counts := List.range' 1 n ++ [n]
    let s₁ := prepared kind o s input method result
    let j := job kind o s input method result inputs methods
    let start := j.start result (s₁.table result.table)
    (result.writable = false →
      out.value = .error (.refused .unsupportedOperation kind.method "result layer is opened read-only") ∧
        out.progress = [] ∧ out.store = s) ∧
    (result.writable = true →
      (∀ k ≤ n, (∀ i < k, answer i = true) → answer k = false →
        out.progress = (counts.take (k + 1)).map (fraction n) ∧
          out.value = .error (.refused .failure kind.method "User terminated") ∧
          out.input.lastError = "User terminated" ∧
          ∀ i, (out.store.table i).records = (s.table i).records ∧
            (out.store.table i).nextFid = (s.table i).nextFid) ∧
      ((∀ k ≤ n, answer k = true) → out.progress = counts.map (fraction n)) ∧
      (n = 0 → out.progress = [Binary.ofInt 1]) ∧
      (∃ w, j.Reaches A answer start w ∧ w.stage = .ended out.value ∧
        w.told.map (fraction n) = out.progress ∧ w.view = out.result ∧
        out.store = s₁.setTable result.table w.table) ∧
      ∀ w w', j.Reaches A answer start w → j.step A answer w = some w' → w'.table ≠ w.table →
        w.told = counts ∧ ∀ k ≤ n, answer k = true) := by
  intro out n counts s₁ j start
  refine ⟨fun h => ?_, fun hwritable => ?_⟩
  · rw [show out = _ from run_of_read_only h]
    exact ⟨rfl, rfl, rfl⟩
  have htotal : j.total = n := total_job
  have hlength : counts.length = n + 1 := by simp [counts]
  have hrefused : ∀ k ≤ n, (∀ i < k, answer i = true) → answer k = false →
      out = ⟨.error j.cancelled, (counts.take (k + 1)).map (fraction n),
        { input with lastError := j.cancelled.detail }, result, s₁⟩ := fun k hk hyes hno => by
    refine run_of_no hwritable hinputs hmethods ?_
    change tell answer j.total 0 (milestones j.total) = _
    rw [htotal]
    exact tell_of_no n 0 (hlength.symm ▸ Nat.lt_succ_of_le hk : k < counts.length)
      (fun i hi => by simpa using hyes i hi) (by simpa using hno)
  have hagreed : (∀ k ≤ n, answer k = true) → out.progress = counts.map (fraction n) := fun hyes => by
    refine congrArg Outcome.progress (run_of_yes hwritable hinputs hmethods ?_)
    change tell answer j.total 0 (milestones j.total) = _
    rw [htotal]
    refine tell_of_yes n 0 fun k hk => ?_
    rw [Nat.zero_add]
    have hk : k < counts.length := hk
    exact hyes k (by omega)
  have hreach := reaches_outcome A answer hwritable hinputs hmethods
  refine ⟨fun k hk hyes hno => ?_, hagreed, fun hn => ?_, ?_, fun w w' hw hstep hne => ?_⟩
  · rw [hrefused k hk hyes hno]
    exact ⟨rfl, rfl, rfl, prepared_keeps s input method result⟩
  · have hone : counts.map (fraction n) = [Binary.ofInt 1] := by
      simp [counts, hn, fraction]
    cases hfirst : answer 0 with
    | true =>
      have hyes : ∀ k ≤ n, answer k = true := fun k hk => by
        rwa [Nat.le_zero.mp (hk.trans_eq hn)]
      rw [hagreed hyes, hone]
    | false =>
      rw [hrefused 0 (Nat.zero_le n) nofun hfirst, List.take_of_length_le (by omega), hone]
  · rw [← htotal]
    exact hreach
  · have htrack := Job.onTrack_reaches (Job.onTrack_start result (s₁.table result.table)) hw
    obtain ⟨records, hstage⟩ := Job.writing_of_table_ne hstep hne
    rw [Job.OnTrack, hstage, htotal] at htrack
    exact htrack

theorem progress_of_rectangles_refused :
    let out := run .exact .union rectangles (.make 0 0 false false) (.make 1 0 false false)
      (.make 2 0 true false) (.ofList .empty) (· ≠ 2)
    out.progress = [1, 2, 3].map (fraction 4) ∧
      out.value = .error (.refused .failure "OGR_L_Union" "User terminated") ∧
      (out.store.table 2).records = .empty ∧ (out.store.table 2).nextFid = 1 := by
  intro out
  obtain ⟨-, h⟩ := @progress_precedes_writing .union (.ofList .empty) rectangles
    (.make 0 0 false false) (.make 1 0 false false) (.make 2 0 true false) _ _ .exact (· ≠ 2) rfl rfl
  obtain ⟨hrefused, -⟩ := h rfl
  obtain ⟨hprogress, hvalue, -, hkept⟩ := hrefused 2 (by decide +kernel) (by decide) (by decide)
  exact ⟨hprogress, hvalue, hkept 2⟩

end Overlay

end FeatureLayer
