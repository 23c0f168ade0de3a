import FeatureLayer.Store.FidMap

namespace FeatureLayer.FidMap

variable {α : Type}

theorem mem_insertEntry_iff {k : Int} {a : α} {x : Int × α} {es : List (Int × α)}
    (h : es.Pairwise fun a b => a.1 < b.1) :
    x ∈ insertEntry k a es ↔ x = (k, a) ∨ (x ∈ es ∧ x.1 ≠ k) := by
  induction es with
  | nil => simp [insertEntry]
  | cons e es ih =>
    obtain ⟨he, hes⟩ := List.pairwise_cons.mp h
    have hrest : ∀ x ∈ es, e.1 < x.1 := he
    simp only [insertEntry]
    split
    next hk =>
      have hne : x ∈ e :: es → x.1 ≠ k := by
        intro hx
        rcases List.mem_cons.mp hx with rfl | hx
        · omega
        · have := hrest x hx
          omega
      rw [List.mem_cons]
      exact or_congr_right ⟨fun hx => ⟨hx, hne hx⟩, fun hx => hx.1⟩
    next hk =>
      split
      next heq =>
        have hne : x ∈ es → x.1 ≠ k := by
          intro hx
          have := hrest x hx
          omega
        simp only [List.mem_cons]
        constructor
        · rintro (hx | hx)
          · exact .inl hx
          · exact .inr ⟨.inr hx, hne hx⟩
        · rintro (hx | ⟨rfl | hx, hxk⟩)
          · exact .inl hx
          · exact absurd heq.symm hxk
          · exact .inr hx
      next hne =>
        simp only [List.mem_cons, ih hes]
        constructor
        · rintro (rfl | hx | hx)
          · exact .inr ⟨.inl rfl, Ne.symm hne⟩
          · exact .inl hx
          · exact .inr ⟨.inr hx.1, hx.2⟩
        · rintro (hx | ⟨rfl | hx, hxk⟩)
          · exact .inr (.inl hx)
          · exact .inl rfl
          · exact .inr (.inr ⟨hx, hxk⟩)

theorem insertEntry_of_mem {k : Int} {a : α} {es : List (Int × α)}
    (h : es.Pairwise fun a b => a.1 < b.1) (hk : ∃ e ∈ es, e.1 = k) :
    insertEntry k a es = es.map fun e => if e.1 = k then (k, a) else e := by
  induction es with
  | nil =>
    obtain ⟨e, he, -⟩ := hk
    cases he
  | cons e es ih =>
    obtain ⟨hlt, hes⟩ := List.pairwise_cons.mp h
    rw [insertEntry, List.map_cons]
    by_cases he : e.1 = k
    · have hrest : es.map (fun e => if e.1 = k then (k, a) else e) = es := by
        refine (List.map_congr_left fun x hx => ?_).trans (List.map_id es)
        have := hlt x hx
        rw [if_neg (by omega)]
        rfl
      rw [if_neg (by omega), if_pos he.symm, if_pos he, hrest]
    · obtain ⟨x, hx, hxk⟩ := hk
      have hx : x ∈ es := (List.mem_cons.mp hx).resolve_left fun h => he (h ▸ hxk)
      have := hlt x hx
      rw [if_neg (by omega), if_neg (Ne.symm he), if_neg he, ih hes ⟨x, hx, hxk⟩]

theorem insertEntry_of_forall_lt {k : Int} {a : α} {es : List (Int × α)} (h : ∀ e ∈ es, e.1 < k) :
    insertEntry k a es = es ++ [(k, a)] := by
  induction es with
  | nil => rfl
  | cons e es ih =>
    obtain ⟨he, hes⟩ := List.forall_mem_cons.mp h
    rw [insertEntry, if_neg (by omega), if_neg (by omega), ih hes, List.cons_append]

theorem values_insert_of_forall_lt {m : FidMap α} {k : Int} {a : α} (h : ∀ e ∈ m.entries, e.1 < k) :
    (m.insert k a).values = m.values ++ [a] := by
  have hmap := congrArg (List.map Prod.snd) (insertEntry_of_forall_lt (a := a) h)
  rwa [List.map_append] at hmap

@[simp] theorem mem_insert {m : FidMap α} {k : Int} {a : α} {x : Int × α} :
    x ∈ (m.insert k a).entries ↔ x = (k, a) ∨ (x ∈ m.entries ∧ x.1 ≠ k) :=
  mem_insertEntry_iff m.sorted

@[simp] theorem mem_erase {m : FidMap α} {k : Int} {x : Int × α} :
    x ∈ (m.erase k).entries ↔ x ∈ m.entries ∧ x.1 ≠ k := by simp [erase]

@[simp] theorem mem_filter {m : FidMap α} {p : α → Bool} {x : Int × α} :
    x ∈ (m.filter p).entries ↔ x ∈ m.entries ∧ p x.2 := by simp [filter]

@[simp] theorem entries_empty : (empty : FidMap α).entries = [] := rfl

theorem contains_iff {m : FidMap α} {k : Int} : m.contains k = true ↔ ∃ x ∈ m.entries, x.1 = k := by
  simp [contains]

theorem mem_values {m : FidMap α} {a : α} : a ∈ m.values ↔ ∃ x ∈ m.entries, x.2 = a := by
  simp [values]

theorem eq_of_fid_eq {m : FidMap α} {x y : Int × α} (hx : x ∈ m.entries) (hy : y ∈ m.entries)
    (h : x.1 = y.1) : x = y := by
  obtain ⟨i, hi, rfl⟩ := List.mem_iff_getElem.mp hx
  obtain ⟨j, hj, rfl⟩ := List.mem_iff_getElem.mp hy
  have hsorted := List.pairwise_iff_getElem.mp m.sorted
  rcases Nat.lt_trichotomy i j with hij | rfl | hij
  · have := hsorted i j hi hj hij
    omega
  · rfl
  · have := hsorted j i hj hi hij
    omega

theorem find?_eq_some_iff {m : FidMap α} {k : Int} {a : α} :
    m.find? k = some a ↔ (k, a) ∈ m.entries := by
  rw [find?]
  constructor
  · intro h
    obtain ⟨⟨j, b⟩, hf, rfl⟩ := Option.map_eq_some_iff.mp h
    have hk : j = k := by simpa using List.find?_some hf
    exact hk ▸ List.mem_of_find?_eq_some hf
  · intro h
    cases hf : m.entries.find? (·.1 = k) with
    | none => simpa using List.find?_eq_none.mp hf _ h
    | some e =>
      have hk : e.1 = k := by simpa using List.find?_some hf
      rw [eq_of_fid_eq (List.mem_of_find?_eq_some hf) h hk]
      rfl

theorem find?_eq_none_iff {m : FidMap α} {k : Int} : m.find? k = none ↔ k ∉ m.fids := by
  simp only [find?, fids, Option.map_eq_none_iff, List.find?_eq_none, List.mem_map,
    decide_eq_true_eq, not_exists, not_and]

theorem find?_of_getElem? {m : FidMap α} {i : Nat} {k : Int} (h : m.fids[i]? = some k) :
    ∃ a, m.values[i]? = some a ∧ m.find? k = some a := by
  rw [fids, List.getElem?_map, Option.map_eq_some_iff] at h
  obtain ⟨e, he, rfl⟩ := h
  exact ⟨e.2, by simp [values, he], find?_eq_some_iff.mpr (List.mem_of_getElem? he)⟩

theorem head?_filter_values {m : FidMap α} {k : Int} {p : α → Bool}
    (h : ∀ e ∈ m.entries, p e.2 = true ↔ e.1 = k) : (m.values.filter p)[0]? = m.find? k := by
  have hfilter : m.entries.filter (p ·.2) = m.entries.filter (·.1 = k) :=
    List.filter_congr fun e he => by rw [Bool.eq_iff_iff, decide_eq_true_eq, h e he]
  rw [values, List.filter_map, ← List.head?_eq_getElem?, List.head?_map]
  simp only [Function.comp_def, hfilter, List.head?_filter]
  rfl

theorem contains_eq_isSome (m : FidMap α) (k : Int) : m.contains k = (m.find? k).isSome := by
  rw [contains, find?, Option.isSome_map, List.isSome_find?]

theorem find?_insert (m : FidMap α) (k : Int) (a : α) (j : Int) :
    (m.insert k a).find? j = if j = k then some a else m.find? j := by
  apply Option.ext
  intro b
  rw [find?_eq_some_iff, mem_insert]
  by_cases h : j = k
  · simp [h, eq_comm]
  · simp [h, find?_eq_some_iff]

theorem find?_erase (m : FidMap α) (k j : Int) :
    (m.erase k).find? j = if j = k then none else m.find? j := by
  apply Option.ext
  intro b
  rw [find?_eq_some_iff, mem_erase]
  by_cases h : j = k
  · simp [h]
  · simp [h, find?_eq_some_iff]

theorem filter_lt_of_pairwise {xs ys : List (Int × α)} {e : Int × α}
    (h : (xs ++ e :: ys).Pairwise fun a b => a.1 < b.1) :
    (xs ++ e :: ys).filter (e.1 < ·.1) = ys := by
  obtain ⟨-, hys, hxs⟩ := List.pairwise_append.mp h
  have hx : xs.filter (e.1 < ·.1) = [] := by
    rw [List.filter_eq_nil_iff]
    intro x hx
    have := hxs x hx e List.mem_cons_self
    simp only [decide_eq_true_eq]
    omega
  have hy : ys.filter (e.1 < ·.1) = ys := by
    rw [List.filter_eq_self]
    intro y hy
    simpa using (List.pairwise_cons.mp hys).1 y hy
  rw [List.filter_append, hx, List.nil_append, List.filter_cons_of_neg (by simp), hy]

theorem mem_after {m : FidMap α} {position : Option Int} {e : Int × α} :
    e ∈ m.after position ↔ e ∈ m.entries ∧ ∀ k ∈ position, k < e.1 := by
  cases position with
  | none => simp [after]
  | some k => simp [after]

theorem after_of_forall_lt {m : FidMap α} {k : Int} (h : ∀ e ∈ m.entries, e.1 ≤ k) :
    m.after (some k) = [] := by
  rw [after, List.filter_eq_nil_iff]
  intro e he
  have := h e he
  simp only [decide_eq_true_eq]
  omega

theorem after_lastFid (m : FidMap α) (position : Option Int) :
    m.after (m.lastFid? <|> position) = [] := by
  rcases List.eq_nil_or_concat m.entries with h | ⟨xs, e, h⟩
  · have hlast : m.lastFid? = none := by simp [lastFid?, fids, h]
    rw [hlast]
    cases position with
    | none => exact h
    | some k => exact after_of_forall_lt (by simp [h])
  · rw [List.concat_eq_append] at h
    have hlast : m.lastFid? = some e.1 := by simp [lastFid?, fids, h]
    rw [hlast]
    refine after_of_forall_lt fun x hx => ?_
    rw [h] at hx
    rcases List.mem_append.mp hx with hx | hx
    · have hs := m.sorted
      rw [h] at hs
      exact Int.le_of_lt ((List.pairwise_append.mp hs).2.2 x hx e List.mem_cons_self)
    · obtain rfl := List.mem_singleton.mp hx
      omega

theorem after_after {m : FidMap α} {position : Option Int} {e : Int × α}
    (he : e ∈ m.after position) :
    (m.after position).filter (e.1 < ·.1) = m.after (some e.1) := by
  cases position with
  | none => rfl
  | some k =>
    have hk : k < e.1 := by simpa using (List.mem_filter.mp he).2
    simp only [after, List.filter_filter]
    refine List.filter_congr fun x _ => ?_
    simp only [← Bool.decide_and, decide_eq_decide]
    omega

theorem find?_after {m : FidMap α} {position : Option Int} {p : Int × α → Bool} {e : Int × α}
    (h : (m.after position).find? p = some e) :
    (m.after position).filter p = e :: (m.after (some e.1)).filter p := by
  have hsorted : (m.after position).Pairwise fun a b => a.1 < b.1 := by
    cases position with
    | none => exact m.sorted
    | some k => exact m.sorted.filter _
  rw [← after_after (List.mem_of_find?_eq_some h)]
  obtain ⟨hp, xs, ys, hsplit, hxs⟩ := List.find?_eq_some_iff_append.mp h
  rw [hsplit] at hsorted ⊢
  have hnone : xs.filter p = [] := by
    rw [List.filter_eq_nil_iff]
    intro x hx
    simpa using hxs x hx
  rw [filter_lt_of_pairwise hsorted, List.filter_append, hnone, List.nil_append,
    List.filter_cons_of_pos hp]

theorem filter_after_getElem? {m : FidMap α} {p : Int × α → Bool} {j : Nat} {e : Int × α}
    (h : (m.entries.filter p)[j]? = some e) :
    (m.after (some e.1)).filter p = (m.entries.filter p).drop (j + 1) := by
  obtain ⟨hj, he⟩ := List.getElem?_eq_some_iff.mp h
  have hsplit : m.entries.filter p =
      (m.entries.filter p).take j ++ e :: (m.entries.filter p).drop (j + 1) := by
    rw [← he, ← List.drop_eq_getElem_cons hj, List.take_append_drop]
  have hsorted := m.sorted.filter p
  rw [hsplit] at hsorted
  have hcomm : (m.after (some e.1)).filter p = (m.entries.filter p).filter (e.1 < ·.1) := by
    simp only [after, List.filter_filter, Bool.and_comm]
  have hfilter := filter_lt_of_pairwise hsorted
  rw [← hsplit] at hfilter
  rw [hcomm, hfilter]

end FeatureLayer.FidMap
