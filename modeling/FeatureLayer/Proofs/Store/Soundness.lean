import Mathlib.Data.List.Nodup
import FeatureLayer.Proofs.Store.Work

namespace FeatureLayer

namespace Store

variable {s s' : Store} {d : Nat}

abbrev Restored (t : FeatureTable) (contents : FidMap Record × Int) : FeatureTable :=
  t.holding contents.1 contents.2

structure Sound (s : Store) : Prop where
  tables : ∀ i, (s.table i).Sound
  listed : ∀ d, ∀ i ∈ (s.source d).tables, i < s.tables.length
  counted : ∀ d, ∀ i ∈ (s.source d).tables, (s.table i).Counted
  nodup : ∀ d, (s.source d).tables.Nodup
  /-- Tables that come after the snapshot stand at the end. -/
  aligned : ∀ d before, (s.source d).snapshot = some before →
    before.contents.length ≤ (s.source d).tables.length
  saved : ∀ d before, (s.source d).snapshot = some before →
    ∀ e ∈ (s.source d).tables.zip before.contents,
      (Restored (s.table e.1) e.2).Sound ∧ (Restored (s.table e.1) e.2).Counted

theorem sound_empty : empty.Sound where
  tables _ := FeatureTable.sound_make "" .empty
  listed _ i hi := by simp [source, empty, default, DataSource.empty] at hi
  counted _ i hi := by simp [source, empty, default, DataSource.empty] at hi
  nodup _ := by simp [source, empty, default, DataSource.empty]
  aligned _ _ h := by simp [source, empty, default, DataSource.empty] at h
  saved _ _ h := by simp [source, empty, default, DataSource.empty] at h

theorem Sound.of_sources (h : s.Sound) (hl : s.tables.length ≤ s'.tables.length)
    (hs : ∀ d, (s'.source d).tables = (s.source d).tables ∧
      (s'.source d).snapshot = (s.source d).snapshot)
    (ht : ∀ i, (s'.table i).Sound)
    (hc : ∀ i < s.tables.length, (s.table i).Counted → (s'.table i).Counted)
    (hr : ∀ i < s.tables.length, ∀ c,
      (Restored (s.table i) c).Sound → (Restored (s'.table i) c).Sound) :
    s'.Sound where
  tables := ht
  listed d i hi := Nat.lt_of_lt_of_le (h.listed d i ((hs d).1 ▸ hi)) hl
  counted d i hi := by
    rw [(hs d).1] at hi
    exact hc i (h.listed d i hi) (h.counted d i hi)
  nodup d := (hs d).1 ▸ h.nodup d
  aligned d before hb := by
    rw [(hs d).2] at hb
    rw [(hs d).1]
    exact h.aligned d before hb
  saved d before hb e he := by
    rw [(hs d).2] at hb
    rw [(hs d).1] at he
    have hi := h.listed d e.1 (List.of_mem_zip (a := e.1) (b := e.2) he).1
    obtain ⟨h₁, h₂⟩ := h.saved d before hb e he
    exact ⟨hr e.1 hi e.2 h₁, h₂⟩

theorem zip_append_left {α β : Type} {xs ys : List α} {zs : List β} (h : zs.length ≤ xs.length) :
    (xs ++ ys).zip zs = xs.zip zs := by
  induction xs generalizing zs with
  | nil => simp [List.length_eq_zero_iff.mp (Nat.le_zero.mp h)]
  | cons x xs ih =>
    cases zs with
    | nil => rfl
    | cons z zs => simp [ih (Nat.le_of_succ_le_succ h)]

theorem sources_setSource_of_eq {i : Nat} {x : DataSource} (ht : x.tables = (s.source i).tables)
    (hs : x.snapshot = (s.source i).snapshot) (d : Nat) :
    ((s.setSource i x).source d).tables = (s.source d).tables ∧
      ((s.setSource i x).source d).snapshot = (s.source d).snapshot :=
  ⟨s.apply_source_setSource (·.tables) ht d, s.apply_source_setSource (·.snapshot) hs d⟩

theorem source_create (s : Store) (name : String) (d : Nat) :
    ({ s with
      sources := s.sources ++ [.empty],
      registry := s.registry ++ [(name, s.sources.length)] } : Store).source d = s.source d := by
  simp only [source, List.getElem?_append]
  split
  · rfl
  · rename_i h
    rw [List.getElem?_eq_none (l := s.sources) (by omega)]
    by_cases hd : d - s.sources.length = 0
    · rw [hd]
      rfl
    · rw [List.getElem?_eq_none (by simp; omega)]

/-! ### Work -/

theorem Sound.setTable (h : s.Sound) {i : Nat} {t : FeatureTable} (ht : (s.table i).Changes t) :
    (s.setTable i t).Sound := by
  refine h.of_sources (by simp) (fun _ => ⟨rfl, rfl⟩) (fun j => ?_) (fun j _ hc => ?_)
    fun j _ c hr => ?_
  all_goals
    rw [table_setTable]
    split
  · exact ht.sound (h.tables i)
  · exact h.tables j
  · rename_i hij
    exact ht.counted (hij.1 ▸ hc)
  · exact hc
  · rename_i hij
    exact ht.holding (hij.1 ▸ hr)
  · exact hr

theorem Sound.addTable (h : s.Sound) {t : FeatureTable} (ht : t.Sound) : (s.addTable t).2.Sound := by
  have hold : ∀ i < s.tables.length, (s.addTable t).2.table i = s.table i := by
    intro i hi
    rw [table_addTable, if_neg (by omega)]
  refine h.of_sources (by simp) (fun _ => ⟨rfl, rfl⟩) (fun j => ?_) (fun j hj hc => ?_)
    fun j hj c hr => ?_
  · rw [table_addTable]
    split
    · exact ht
    · exact h.tables j
  · rw [hold j hj]
    exact hc
  · rw [hold j hj]
    exact hr

theorem sound_resultTable {t : FeatureTable} (h : t.Sound) (v : View) : (resultTable t v).Sound := by
  have hm := FeatureTable.sound_make t.name t.schema
  have hs := (h.select (m := t.records.filter v.admits) fun e he => (FidMap.mem_filter.mp he).1).count
    hm.next_pos hm.next_le
  exact hs.congr rfl rfl rfl

theorem Sound.withTable (h : s.Sound) (d : Nat) (name : String) (schema : Schema) :
    (s.withTable d (.make name schema)).Sound := by
  have ha := h.addTable (FeatureTable.sound_make name schema)
  have hnew : (s.addTable (.make name schema)).2.table s.tables.length = .make name schema := by
    rw [table_addTable, if_pos rfl]
  have htables : ∀ j, ∀ i ∈ ((s.withTable d (.make name schema)).source j).tables,
      i ∈ (s.source j).tables ∨ i = s.tables.length := by
    intro j i hi
    rw [Store.withTable, source_setSource] at hi
    split at hi
    next hj =>
      rw [← hj.1]
      simpa using hi
    next => exact .inl hi
  constructor
  case tables => exact ha.tables
  case listed =>
    intro j i hi
    show i < (s.addTable _).2.tables.length
    rw [length_addTable]
    rcases htables j i hi with hi | rfl
    · have := h.listed j i hi
      omega
    · omega
  case counted =>
    intro j i hi
    show ((s.addTable _).2.table i).Counted
    rcases htables j i hi with hi | rfl
    · exact ha.counted j i hi
    · rw [hnew]
      exact FeatureTable.counted_make name schema
  case nodup =>
    intro j
    rw [Store.withTable, source_setSource]
    split
    next =>
      refine List.nodup_append.mpr ⟨h.nodup d, List.nodup_singleton _, fun a hi b hb hab => ?_⟩
      have := h.listed d a hi
      rw [hab, List.mem_singleton.mp hb] at this
      omega
    next => exact h.nodup j
  case aligned =>
    intro j before hb
    rw [Store.withTable, source_setSource] at hb ⊢
    split at hb
    next hj =>
      rw [if_pos hj]
      have := h.aligned d before hb
      simp only [List.length_append]
      omega
    next hj =>
      rw [if_neg hj]
      exact h.aligned j before hb
  case saved =>
    intro j before hb e he
    -- the snapshot is too short to pair with the new table
    suffices hz : (s.source j).snapshot = some before ∧
        e ∈ (s.source j).tables.zip before.contents from ha.saved j before hz.1 e hz.2
    rw [Store.withTable, source_setSource] at hb he
    split at hb
    next hj =>
      rw [if_pos hj] at he
      obtain ⟨rfl, -⟩ := hj
      have hl := h.aligned d before hb
      refine ⟨hb, ?_⟩
      rwa [zip_append_left hl] at he
    next hj =>
      rw [if_neg hj] at he
      exact ⟨hb, he⟩

variable {q : Prop}

theorem Work.sound (hw : s.Work q s') (h : s.Sound) : s'.Sound := by
  cases hw with
  | table i ht => exact h.setTable ht
  | list d name schema => exact h.withTable d name schema
  | result _ i v => exact h.addTable (sound_resultTable (h.tables i) v)
  | source i ht hs =>
    exact h.of_sources (Nat.le_refl _) (sources_setSource_of_eq ht hs) h.tables (fun _ _ hc => hc)
      fun _ _ _ hr => hr
  | create name =>
    refine h.of_sources (Nat.le_refl _) (fun d => ?_) h.tables (fun _ _ hc => hc) fun _ _ _ hr => hr
    rw [source_create]
    exact ⟨rfl, rfl⟩
  | remove name =>
    exact h.of_sources (Nat.le_refl _) (fun _ => ⟨rfl, rfl⟩) h.tables (fun _ _ hc => hc)
      fun _ _ _ hr => hr

theorem Work.length_le (hw : s.Work q s') : s.tables.length ≤ s'.tables.length := by
  cases hw with
  | table => exact Nat.le_of_eq (length_setTable ..).symm
  | list | result => exact Nat.le_trans (Nat.le_succ _) (Nat.le_of_eq (length_addTable ..).symm)
  | source | create | remove => exact Nat.le_refl _

theorem Work.counted (hw : s.Work q s') {i : Nat} (hi : i < s.tables.length)
    (hc : (s.table i).Counted) : (s'.table i).Counted := by
  have hadd : ∀ t, (s.addTable t).2.table i = s.table i := by
    intro t
    rw [table_addTable, if_neg (by omega)]
  cases hw with
  | table j ht =>
    rw [table_setTable]
    split
    next hj => exact ht.counted (hj.1 ▸ hc)
    next => exact hc
  | list d name schema =>
    show ((s.addTable _).2.table i).Counted
    rw [hadd]
    exact hc
  | result =>
    rw [hadd]
    exact hc
  | source | create | remove => exact hc

theorem Work.all_counted (hw : s.Work q s') (hq : ¬q) (h : ∀ i, (s.table i).Counted) (i : Nat) :
    (s'.table i).Counted := by
  cases hw with
  | table j ht =>
    rw [table_setTable]
    split
    · exact ht.counted (h j)
    · exact h i
  | list d name schema =>
    show ((s.addTable _).2.table i).Counted
    rw [table_addTable]
    split
    · exact FeatureTable.counted_make name schema
    · exact h i
  | result hr => exact absurd hr hq
  | source | create | remove => exact h i

theorem Work.source_grows (hw : s.Work q s') (d : Nat) :
    (s.source d).tables <+: (s'.source d).tables ∧
      (s'.source d).snapshot = (s.source d).snapshot := by
  cases hw with
  | table | result | remove => exact ⟨List.prefix_rfl, rfl⟩
  | list j name schema =>
    rw [withTable, source_setSource]
    split
    next h => exact h.1 ▸ ⟨List.prefix_append _ _, rfl⟩
    next => exact ⟨List.prefix_rfl, rfl⟩
  | source j ht hs =>
    obtain ⟨h₁, h₂⟩ := sources_setSource_of_eq ht hs d
    exact ⟨h₁ ▸ List.prefix_rfl, h₂⟩
  | create name =>
    rw [source_create]
    exact ⟨List.prefix_rfl, rfl⟩

theorem Works.sound (hw : s.Works q s') (h : s.Sound) : s'.Sound := by
  induction hw with
  | refl => exact h
  | tail _ hw ih => exact hw.sound ih

theorem Works.length_le (hw : s.Works q s') : s.tables.length ≤ s'.tables.length := by
  induction hw with
  | refl => exact Nat.le_refl _
  | tail _ hw ih => exact Nat.le_trans ih hw.length_le

theorem Works.counted (hw : s.Works q s') {i : Nat} (hi : i < s.tables.length)
    (hc : (s.table i).Counted) : (s'.table i).Counted := by
  induction hw with
  | refl => exact hc
  | tail hs hw ih => exact hw.counted (Nat.lt_of_lt_of_le hi (Works.length_le hs)) ih

theorem Works.all_counted (hw : s.Works q s') (hq : ¬q) (h : ∀ i, (s.table i).Counted) (i : Nat) :
    (s'.table i).Counted := by
  induction hw generalizing i with
  | refl => exact h i
  | tail _ hw ih => exact hw.all_counted hq ih i

theorem Works.source_grows (hw : s.Works q s') (d : Nat) :
    (s.source d).tables <+: (s'.source d).tables ∧
      (s'.source d).snapshot = (s.source d).snapshot := by
  induction hw with
  | refl => exact ⟨List.prefix_rfl, rfl⟩
  | tail _ hw ih =>
    obtain ⟨ht, hs⟩ := hw.source_grows d
    exact ⟨ih.1.trans ht, hs.trans ih.2⟩

theorem Work.listed {i : Nat} (hw : s.Work q s') (h : i ∈ (s'.source d).tables) :
    i ∈ (s.source d).tables ∨ s.tables.length ≤ i := by
  cases hw with
  | table | result | remove => exact .inl h
  | list j name schema =>
    rw [Store.withTable, source_setSource] at h
    split at h
    next hj =>
      obtain ⟨rfl, -⟩ := hj
      rcases List.mem_append.mp h with h | h
      · exact .inl h
      · exact .inr (Nat.le_of_eq (List.mem_singleton.mp h).symm)
    next => exact .inl h
  | source j ht hs => exact .inl ((sources_setSource_of_eq ht hs d).1 ▸ h)
  | create name =>
    rw [source_create] at h
    exact .inl h

theorem Works.listed {i : Nat} (hw : s.Works q s') (h : i ∈ (s'.source d).tables) :
    i ∈ (s.source d).tables ∨ s.tables.length ≤ i := by
  induction hw with
  | refl => exact .inl h
  | tail hs hw ih =>
    rcases hw.listed h with h | h
    · exact ih h
    · exact .inr (Nat.le_trans (Works.length_le hs) h)

/-! ### Turns of transactions -/

theorem restore_cons (s : Store) (e : Nat × FidMap Record × Int)
    (es : List (Nat × FidMap Record × Int)) :
    s.restore (e :: es) = (s.setTable e.1 (Restored (s.table e.1) e.2)).restore es := rfl

@[simp] theorem source_restore (s : Store) (es : List (Nat × FidMap Record × Int)) (d : Nat) :
    (s.restore es).source d = s.source d := by
  induction es generalizing s with
  | nil => rfl
  | cons e es ih =>
    rw [restore_cons, ih]
    rfl

@[simp] theorem length_restore (s : Store) (es : List (Nat × FidMap Record × Int)) :
    (s.restore es).tables.length = s.tables.length := by
  induction es generalizing s with
  | nil => rfl
  | cons e es ih => rw [restore_cons, ih, length_setTable]

theorem table_restore (s : Store) (es : List (Nat × FidMap Record × Int)) (i : Nat) :
    (s.restore es).table i = s.table i ∨
      ∃ e ∈ es, e.1 = i ∧ (s.restore es).table i = Restored (s.table i) e.2 := by
  induction es generalizing s with
  | nil => exact .inl rfl
  | cons x es ih =>
    rw [restore_cons]
    have hset : (s.setTable x.1 (Restored (s.table x.1) x.2)).table i = s.table i ∨
        x.1 = i ∧
          (s.setTable x.1 (Restored (s.table x.1) x.2)).table i = Restored (s.table i) x.2 := by
      rw [table_setTable]
      split
      next h => exact .inr ⟨h.1, by rw [h.1]⟩
      next => exact .inl rfl
    rcases ih (s.setTable x.1 (Restored (s.table x.1) x.2)) with h | ⟨e, he, hei, h⟩
    · rcases hset with hs | ⟨hx, hs⟩
      · exact .inl (h.trans hs)
      · exact .inr ⟨x, List.mem_cons_self, hx, h.trans hs⟩
    · refine .inr ⟨e, List.mem_cons_of_mem _ he, hei, ?_⟩
      rw [h]
      rcases hset with hs | ⟨-, hs⟩
      · rw [hs]
      · rw [hs]
        rfl

theorem Sound.restore (h : s.Sound) {es : List (Nat × FidMap Record × Int)}
    (hes : ∀ e ∈ es, (Restored (s.table e.1) e.2).Sound ∧ (Restored (s.table e.1) e.2).Counted) :
    (s.restore es).Sound := by
  refine h.of_sources (by simp) (fun d => by simp) (fun i => ?_) (fun i _ hc => ?_)
    fun i _ c hr => ?_
  all_goals
    rcases table_restore s es i with hi | ⟨e, he, rfl, hi⟩
    all_goals rw [hi]
  · exact h.tables i
  · exact (hes e he).1
  · exact hc
  · exact (hes e he).2
  · exact hr
  · exact hr

theorem source_withSnapshot (s : Store) (d : Nat) (snapshot : Option Snapshot) (j : Nat) :
    ((s.withSnapshot d snapshot).source j).tables = (s.source j).tables ∧
      (((s.withSnapshot d snapshot).source j).snapshot = (s.source j).snapshot ∨
        d = j ∧ ((s.withSnapshot d snapshot).source j).snapshot = snapshot) := by
  rw [withSnapshot, source_setSource]
  split
  next h => exact h.1 ▸ ⟨rfl, .inr ⟨rfl, rfl⟩⟩
  next => exact ⟨rfl, .inl rfl⟩

theorem mem_zip_map {α β : Type} {f : α → β} {xs : List α} {e : α × β} (h : e ∈ xs.zip (xs.map f)) :
    e.1 ∈ xs ∧ e.2 = f e.1 := by
  induction xs with
  | nil => cases h
  | cons x xs ih =>
    rcases List.mem_cons.mp h with rfl | h
    · exact ⟨List.mem_cons_self, rfl⟩
    · exact ⟨List.mem_cons_of_mem _ (ih h).1, (ih h).2⟩

theorem Sound.of_mem_zip_contentsOf (h : s.Sound) {e : Nat × FidMap Record × Int}
    (he : e ∈ (s.source d).tables.zip (s.contentsOf (s.source d)).contents) :
    (Restored (s.table e.1) e.2).Sound ∧ (Restored (s.table e.1) e.2).Counted := by
  obtain ⟨hi, hc⟩ := mem_zip_map he
  rw [hc]
  exact ⟨h.tables e.1, h.counted d e.1 hi⟩

theorem Sound.withSnapshot (h : s.Sound) {snapshot : Option Snapshot}
    (ha : ∀ before, snapshot = some before → before.contents.length ≤ (s.source d).tables.length)
    (hs : ∀ before, snapshot = some before → ∀ e ∈ (s.source d).tables.zip before.contents,
      (Restored (s.table e.1) e.2).Sound ∧ (Restored (s.table e.1) e.2).Counted) :
    (s.withSnapshot d snapshot).Sound where
  tables := h.tables
  listed j i hi := h.listed j i ((source_withSnapshot s d snapshot j).1 ▸ hi)
  counted j i hi := h.counted j i ((source_withSnapshot s d snapshot j).1 ▸ hi)
  nodup j := (source_withSnapshot s d snapshot j).1 ▸ h.nodup j
  aligned j before hb := by
    obtain ⟨ht, hsnap⟩ := source_withSnapshot s d snapshot j
    rw [ht]
    rcases hsnap with hsnap | ⟨rfl, hsnap⟩
    · exact h.aligned j before (hsnap ▸ hb)
    · exact ha before (hsnap ▸ hb)
  saved j before hb e he := by
    obtain ⟨ht, hsnap⟩ := source_withSnapshot s d snapshot j
    rw [ht] at he
    rcases hsnap with hsnap | ⟨rfl, hsnap⟩
    · exact h.saved j before (hsnap ▸ hb) e he
    · exact hs before (hsnap ▸ hb) e he

theorem source_cut (s : Store) (d n j : Nat) :
    ((s.cut d n).source j).tables.Sublist (s.source j).tables ∧
      (((s.cut d n).source j).snapshot = none ∨ (s.cut d n).source j = s.source j) := by
  rw [cut, source_setSource]
  split
  next h => exact h.1 ▸ ⟨List.take_sublist n _, .inl rfl⟩
  next => exact ⟨.refl _, .inr rfl⟩

theorem Sound.cut (h : s.Sound) (d n : Nat) : (s.cut d n).Sound where
  tables := h.tables
  listed j i hi := h.listed j i ((source_cut s d n j).1.subset hi)
  counted j i hi := h.counted j i ((source_cut s d n j).1.subset hi)
  nodup j := (h.nodup j).sublist (source_cut s d n j).1
  aligned j before hb := by
    rcases (source_cut s d n j).2 with hn | hs
    · simp [hn] at hb
    · rw [hs] at hb ⊢
      exact h.aligned j before hb
  saved j before hb e he := by
    rcases (source_cut s d n j).2 with hn | hs
    · simp [hn] at hb
    · rw [hs] at hb he
      exact h.saved j before hb e he

theorem mem_zip_take {α β : Type} {n : Nat} {xs : List α} {ys : List β} {e : α × β}
    (h : e ∈ (xs.take n).zip ys) : e ∈ xs.zip ys := by
  induction xs generalizing n ys with
  | nil => cases n <;> cases h
  | cons x xs ih =>
    cases n with
    | zero => cases h
    | succ n =>
      cases ys with
      | nil => cases h
      | cons y ys =>
        rcases List.mem_cons.mp h with rfl | h
        · exact List.mem_cons_self
        · exact List.mem_cons_of_mem _ (ih h)

theorem Turn.sound {c : Control} (ht : s.Turn d c s') (h : s.Sound) : s'.Sound := by
  cases ht with
  | begin =>
    refine h.withSnapshot (fun before hb => ?_) fun before hb e he => ?_
    · cases hb
      exact Nat.le_of_eq (List.length_map _)
    · cases hb
      exact h.of_mem_zip_contentsOf he
  | commit => exact h.withSnapshot nofun nofun
  | rollback hb => exact (h.cut d _).restore fun e he => h.saved d _ hb e (mem_zip_take he)

theorem Turn.length_eq {c : Control} (ht : s.Turn d c s') : s'.tables.length = s.tables.length := by
  cases ht with
  | begin | commit => rfl
  | rollback => exact length_restore ..

/-- Even a rollback leaves the next identifier above all that are in use. -/
theorem Turn.counted {c : Control} (ht : s.Turn d c s') (h : s.Sound) {i : Nat}
    (hc : (s.table i).Counted) : (s'.table i).Counted := by
  cases ht with
  | begin | commit => exact hc
  | rollback hb =>
    rw [rolledBack]
    rcases table_restore (s.cut d _) _ i with hr | ⟨e, he, rfl, hr⟩
    · rw [hr]
      exact hc
    · rw [hr]
      exact (h.saved d _ hb e (mem_zip_take he)).2

end Store

/-! ### What views stand on -/

/-- A view of a table of the store, either of one whose identifiers are counted or of the result of a
query, which it may not write to. -/
structure View.Proper (s : Store) (v : View) : Prop where
  lt : v.table < s.tables.length
  counted : (s.table v.table).Counted ∨ (v.isResultSet = true ∧ v.writable = false)

namespace View.Proper

variable {s s' : Store} {v v' : View}

theorem congr (h : v.Proper s) (hh : v'.handle = v.handle) : v'.Proper s := by
  obtain ⟨ht, -, hw, hr⟩ : v'.table = v.table ∧ v'.source = v.source ∧ v'.writable = v.writable ∧
      v'.isResultSet = v.isResultSet := by simpa [handle] using hh
  constructor
  · rw [ht]
    exact h.lt
  · rw [ht, hw, hr]
    exact h.counted

theorem works {q : Prop} (h : v.Proper s) (hw : s.Works q s') : v.Proper s' where
  lt := Nat.lt_of_lt_of_le h.lt hw.length_le
  counted := h.counted.imp_left (hw.counted h.lt)

theorem turn {d : Nat} {c : Store.Control} (h : v.Proper s) (hs : s.Sound) (ht : s.Turn d c s') :
    v.Proper s' where
  lt := ht.length_eq ▸ h.lt
  counted := h.counted.imp_left (ht.counted hs)

end View.Proper

/-- What holds of a view that has just been made. It is of a table that a source listed before, or
that is new. If it may write, then to a table that is listed, or that is new itself. -/
structure View.New (s s' : Store) (v : View) : Prop where
  proper : s.Sound → v.Proper s'
  placed : (∃ d, v.table ∈ (s.source d).tables) ∨ s.tables.length ≤ v.table
  ignored : v.ignored = .none
  listed : v.writable = true →
    (∃ d, v.table ∈ (s'.source d).tables) ∨ ∃ name schema, s'.table v.table = .make name schema

namespace View.New

variable {s s' s'' : Store} {v v' : View} {c c' : Connection}

theorem congr (h : v.New s s') (hh : v'.handle = v.handle) (hi : v'.ignored = v.ignored) :
    v'.New s s' := by
  obtain ⟨ht, -, hw, -⟩ : v'.table = v.table ∧ v'.source = v.source ∧ v'.writable = v.writable ∧
      v'.isResultSet = v.isResultSet := by simpa [handle] using hh
  refine ⟨fun hs => (h.proper hs).congr hh, ht ▸ h.placed, hi.trans h.ignored, ?_⟩
  rw [ht, hw]
  exact h.listed

theorem after_works (h : v.New s' s'') (hw : s.Works False s') : v.New s s'' where
  proper hs := h.proper (Store.Works.sound hw hs)
  placed := by
    rcases h.placed with ⟨d, hd⟩ | hle
    · exact (Store.Works.listed hw hd).imp_left fun hd => ⟨d, hd⟩
    · exact .inr (Nat.le_trans (Store.Works.length_le hw) hle)
  ignored := h.ignored
  listed := h.listed

theorem works (h : v.New s s') (hw : s'.Works False s'') (ht : s''.tables = s'.tables) :
    v.New s s'' where
  proper hs := (h.proper hs).works hw
  placed := h.placed
  ignored := h.ignored
  listed hwrite := by
    have htable : s''.table v.table = s'.table v.table := by
      rw [Store.table, ht]
      rfl
    rw [htable]
    exact (h.listed hwrite).imp_left
      (Exists.imp fun d hd => (Store.Works.source_grows hw d).1.subset hd)

theorem layerByName {name : String} (h : s.layerByName c name = .ok v) : v.New s s := by
  obtain ⟨hi, hmake⟩ := Store.layerByName_ok h
  refine ⟨fun hs => ⟨hs.listed c.source _ hi, .inl (hs.counted c.source _ hi)⟩,
    .inl ⟨c.source, hi⟩, ?_, fun _ => .inl ⟨c.source, hi⟩⟩
  rw [hmake]
  rfl

theorem createLayer {name : String} {schema : Schema}
    (h : s.createLayer c name schema = .ok (v, s')) : v.New s s' := by
  obtain ⟨rfl, rfl⟩ := Store.createLayer_ok h
  have htable : (s.addTable (.make name schema)).2.table s.tables.length = .make name schema := by
    rw [Store.table_addTable, if_pos rfl]
  refine ⟨fun _ => ⟨?_, .inl ?_⟩, .inr (Nat.le_refl _), rfl, fun _ => .inr ⟨name, schema, htable⟩⟩
  · show s.tables.length < (s.addTable _).2.tables.length
    rw [Store.length_addTable]
    omega
  · show ((s.addTable _).2.table s.tables.length).Counted
    rw [htable]
    exact FeatureTable.counted_make name schema

theorem query {text : String} {spatial : Option Geometry} {dialect : Option String}
    (h : s.query c text spatial dialect = (.ok v, c', s')) : v.New s s' := by
  rcases s.query_cases c text spatial dialect with ⟨e, c₁, he, -⟩ | ⟨i, -, w, he⟩
  · rw [he] at h
    cases h
  · rw [he] at h
    cases h
    refine ⟨fun _ => ⟨?_, .inr ⟨rfl, rfl⟩⟩, .inr (Nat.le_refl _), rfl, nofun⟩
    show s.tables.length < (s.addTable _).2.tables.length
    rw [Store.length_addTable]
    omega

end View.New

end FeatureLayer
