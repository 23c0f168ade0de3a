import FeatureLayer.OptionList
import FeatureLayer.Proofs.Text
/-!
Lists of options hold each key once, and their texts read back as they are. A list comes about by
edits; those that are refused leave it as it is.
-/

namespace FeatureLayer

namespace OptionList

variable {l l' : OptionList} {name value : String} {es : List (String × String)}

def keys (l : OptionList) : List String := l.entries.map (·.1)

def values (l : OptionList) : List String := l.entries.map (·.2)

theorem isKey_iff : isKey name = true ↔
    name ≠ "" ∧ ∀ c ∈ name.toList, c.isAlphanum = true ∨ c = '_' := by
  simp [isKey]

theorem isLine_iff : isLine value = true ↔ '\n' ∉ value.toList ∧ '\r' ∉ value.toList := by
  simp only [isLine, List.all_eq_true, Bool.and_eq_true, decide_eq_true_eq]
  exact ⟨fun h => ⟨fun hc => (h _ hc).1 rfl, fun hc => (h _ hc).2 rfl⟩,
    fun h c hc => ⟨fun heq => h.1 (heq ▸ hc), fun heq => h.2 (heq ▸ hc)⟩⟩

theorem set_of_isKey (hk : isKey name = true) (hv : isLine value = true) :
    l.set name value = .ok ⟨assign name value l.entries⟩ := by
  rw [set, hk, hv]
  rfl

theorem set_eq_ok_iff : l.set name value = .ok l' ↔
    isKey name = true ∧ isLine value = true ∧ l' = ⟨assign name value l.entries⟩ := by
  cases hk : isKey name with
  | false => simp [set, hk]
  | true =>
    cases hv : isLine value with
    | false => simp [set, hk, hv]
    | true => simp [set_of_isKey hk hv, eq_comm]

theorem plain_of_isKey (h : isKey name = true) :
    (∀ c ∈ name.toList, Text.isWhiteSpace c = false) ∧ '=' ∉ name.toList := by
  obtain ⟨-, hc⟩ := isKey_iff.mp h
  refine ⟨fun c hmem => ?_, fun hmem => by simpa using hc _ hmem⟩
  rcases hc c hmem with hc | rfl
  · rw [Char.isAlphanum, Bool.or_eq_true] at hc
    apply Text.isWhiteSpace_eq_false
    rcases hc with hc | hc
    · have := Text.toNat_of_isAlpha hc
      omega
    · have := Text.toNat_of_isDigit hc
      omega
  · decide

theorem keys_assign (name value : String) (es : List (String × String)) :
    (assign name value es).map (·.1) =
      if es.any (fun e => Text.sameWord e.1 name) then es.map (·.1) else es.map (·.1) ++ [name] := by
  induction es with
  | nil => rfl
  | cons e es ih =>
    rw [assign]
    cases h : Text.sameWord e.1 name with
    | true => simp [h]
    | false =>
      simp only [h, Bool.false_eq_true, if_false, List.map_cons, ih, List.any_cons, Bool.false_or]
      split <;> rfl

theorem assign_of_absent (h : ∀ e ∈ es, Text.sameWord e.1 name = false) (value : String) :
    assign name value es = es ++ [(name, value)] := by
  induction es with
  | nil => rfl
  | cons e es ih =>
    obtain ⟨he, hes⟩ := List.forall_mem_cons.mp h
    rw [assign, he, ih hes]
    rfl

theorem mem_values_assign {v : String} (h : v ∈ (assign name value es).map (·.2)) :
    v ∈ es.map (·.2) ∨ v = value := by
  induction es with
  | nil => exact .inr (List.mem_singleton.mp h)
  | cons e es ih =>
    rw [assign] at h
    split at h
    · rw [List.map_cons, List.mem_cons] at h
      exact h.symm.imp_left (List.mem_cons_of_mem _)
    · rw [List.map_cons, List.mem_cons] at h ⊢
      rcases h with rfl | h
      · exact .inl (.inl rfl)
      · exact (ih h).imp_left .inr

theorem find?_assign (name value key : String) (es : List (String × String)) :
    ((assign name value es).find? fun e => Text.sameWord e.1 key).map (·.2) =
      if Text.sameWord key name then some value
      else (es.find? fun e => Text.sameWord e.1 key).map (·.2) := by
  induction es with
  | nil =>
    rw [Text.sameWord_comm key name]
    cases h : Text.sameWord name key <;> simp [assign, h]
  | cons e es ih =>
    rw [assign]
    by_cases he : Text.sameWord e.1 name = true
    · by_cases hk : Text.sameWord key name = true
      · have hek := Text.sameWord_trans he (Text.sameWord_comm key name ▸ hk)
        simp [he, hk, hek]
      · have hek : Text.sameWord e.1 key = false := Bool.eq_false_iff.mpr fun hek =>
          hk (Text.sameWord_trans (Text.sameWord_comm e.1 key ▸ hek) he)
        simp [he, hk, hek]
    · by_cases hek : Text.sameWord e.1 key = true
      · have hk : ¬Text.sameWord key name = true := fun hk => he (Text.sameWord_trans hek hk)
        simp [he, hk, hek]
      · simp [he, hek, ih]

/-- Keys are words of ASCII letters, digits and underscores that differ by more than case, and values
are single lines. -/
structure Sound (l : OptionList) : Prop where
  keys : ∀ k ∈ l.keys, k ≠ "" ∧ ∀ c ∈ k.toList, c.isAlphanum = true ∨ c = '_'
  apart : l.keys.Pairwise fun a b => Text.sameWord a b = false
  values : ∀ v ∈ l.values, '\n' ∉ v.toList ∧ '\r' ∉ v.toList

theorem sound_empty : empty.Sound where
  keys := nofun
  apart := .nil
  values := nofun

theorem keys_set (h : l.set name value = .ok l') :
    l'.keys = if l.entries.any (fun e => Text.sameWord e.1 name) then l.keys else l.keys ++ [name] := by
  obtain ⟨-, -, rfl⟩ := set_eq_ok_iff.mp h
  exact keys_assign name value l.entries

theorem Sound.set (hl : l.Sound) (h : l.set name value = .ok l') : l'.Sound := by
  have hkeys := keys_set h
  obtain ⟨hk, hv, rfl⟩ := set_eq_ok_iff.mp h
  refine ⟨?_, ?_, fun v hmem => ?_⟩
  · rw [hkeys]
    split
    · exact hl.keys
    · rw [List.forall_mem_append, List.forall_mem_singleton]
      exact ⟨hl.keys, isKey_iff.mp hk⟩
  · rw [hkeys]
    split
    · exact hl.apart
    next hnew =>
      refine List.pairwise_append.mpr ⟨hl.apart, List.pairwise_singleton _ _, fun k hk n hn => ?_⟩
      obtain ⟨e, he, rfl⟩ := List.mem_map.mp hk
      rw [List.mem_singleton.mp hn]
      exact Bool.eq_false_iff.mpr fun hsame => hnew (List.any_eq_true.mpr ⟨e, he, hsame⟩)
  · rcases mem_values_assign hmem with hmem | rfl
    · exact hl.values v hmem
    · exact isLine_iff.mp hv

theorem exists_set_of_add {entry : String} (h : l.add entry = .ok l') :
    ∃ name value, l.set name value = .ok l' := by
  unfold add at h
  split at h
  · cases h
  · exact ⟨_, _, h⟩

theorem Sound.addAll (hl : l.Sound) {entries : List String} (h : entries.foldlM add l = .ok l') :
    l'.Sound := by
  induction entries generalizing l with
  | nil =>
    cases h
    exact hl
  | cons entry entries ih =>
    rw [List.foldlM_cons] at h
    cases hadd : l.add entry with
    | error e =>
      rw [hadd] at h
      cases h
    | ok l₁ =>
      rw [hadd] at h
      obtain ⟨name, value, hset⟩ := exists_set_of_add hadd
      exact ih (hl.set hset) h

theorem splitEntry_append {cs : List Char} (h : '=' ∉ cs) (ds : List Char) :
    splitEntry (cs ++ '=' :: ds) = some (cs, ds) := by
  have hne : ∀ c ∈ cs, decide (c ≠ '=') = true := fun c hc => decide_eq_true fun heq => h (heq ▸ hc)
  rw [splitEntry, List.dropWhile_append_of_pos hne, List.takeWhile_append_of_pos hne]
  simp

theorem trim_of_plain {cs : List Char} (h : ∀ c ∈ cs, Text.isWhiteSpace c = false) :
    Text.trim cs = cs := by
  have hkeep : ∀ ds : List Char, (∀ c ∈ ds, Text.isWhiteSpace c = false) →
      ds.dropWhile Text.isWhiteSpace = ds := fun ds hds => by
    cases ds with
    | nil => rfl
    | cons d ds => rw [List.dropWhile_cons, hds d List.mem_cons_self]; rfl
  rw [Text.trim, hkeep cs h, hkeep cs.reverse fun c hc => h c (List.mem_reverse.mp hc),
    List.reverse_reverse]

theorem add_text (hk : isKey name = true) (hv : isLine value = true) :
    l.add (name ++ "=" ++ value) = .ok ⟨assign name value l.entries⟩ := by
  obtain ⟨hspace, heq⟩ := plain_of_isKey hk
  have htext : (name ++ "=" ++ value).toList = name.toList ++ '=' :: value.toList := by simp
  rw [add, htext, splitEntry_append heq]
  simp only [trim_of_plain hspace, String.ofList_toList]
  exact set_of_isKey hk hv

theorem foldlM_add_texts (pre es : List (String × String)) (h : (⟨pre ++ es⟩ : OptionList).Sound) :
    (es.map fun e => e.1 ++ "=" ++ e.2).foldlM add ⟨pre⟩ = .ok ⟨pre ++ es⟩ := by
  induction es generalizing pre with
  | nil => rw [List.append_nil]; rfl
  | cons e es ih =>
    have hmem : e ∈ pre ++ e :: es := List.mem_append_right pre List.mem_cons_self
    have hk := isKey_iff.mpr (h.keys e.1 (List.mem_map_of_mem hmem))
    have hv := isLine_iff.mpr (h.values e.2 (List.mem_map_of_mem hmem))
    have habsent : ∀ x ∈ pre, Text.sameWord x.1 e.1 = false := fun x hx =>
      (List.pairwise_append.mp (List.pairwise_map.mp h.apart)).2.2 x hx e List.mem_cons_self
    have hnext : pre ++ e :: es = pre ++ [e] ++ es := by simp
    rw [List.map_cons, List.foldlM_cons, add_text hk hv, assign_of_absent habsent]
    rw [hnext] at h ⊢
    exact ih (pre ++ [e]) h

theorem Sound.ofStrings_toStrings (h : l.Sound) : ofStrings l.toStrings = .ok l :=
  foldlM_add_texts [] l.entries h

inductive Edit where
  | set (name value : String)
  | add (entry : String)
  /-- Puts the list that the texts make up in its place. -/
  | load (entries : List String)
  deriving DecidableEq, Repr

def edit? (l : OptionList) : Edit → Except Malformed OptionList
  | .set name value => l.set name value
  | .add entry => l.add entry
  | .load entries => ofStrings entries

def edit (l : OptionList) (e : Edit) : OptionList :=
  match l.edit? e with
  | .ok l' => l'
  | .error _ => l

/-- The list after all of the edits, the first of which meets none. -/
def edited (edits : List Edit) : OptionList := edits.foldl edit empty

theorem Sound.edit (hl : l.Sound) (e : Edit) : (l.edit e).Sound := by
  unfold OptionList.edit
  split
  next h =>
    cases e with
    | set name value => exact hl.set h
    | add entry =>
      obtain ⟨name, value, hset⟩ := exists_set_of_add h
      exact hl.set hset
    | load entries => exact sound_empty.addAll h
  next => exact hl

theorem sound_edited (edits : List Edit) : (edited edits).Sound := by
  have h : ∀ l : OptionList, l.Sound → (edits.foldl OptionList.edit l).Sound := by
    induction edits with
    | nil => exact fun _ hl => hl
    | cons e edits ih => exact fun l hl => ih _ (hl.edit e)
  exact h empty sound_empty

theorem keys_prefix_edit (l : OptionList) {e : Edit} (he : ∀ entries, e ≠ .load entries) :
    l.keys <+: (l.edit e).keys := by
  have hset : ∀ {name value l'}, l.set name value = .ok l' → l.keys <+: l'.keys := fun h => by
    rw [keys_set h]
    split
    · exact List.prefix_refl _
    · exact List.prefix_append _ _
  unfold edit
  split
  next h =>
    cases e with
    | set name value => exact hset h
    | add entry =>
      obtain ⟨name, value, h⟩ := exists_set_of_add h
      exact hset h
    | load entries => exact absurd rfl (he entries)
  next => exact List.prefix_refl _

theorem keys_prefix_edits (l : OptionList) {edits : List Edit}
    (h : ∀ e ∈ edits, ∀ entries, e ≠ .load entries) : l.keys <+: (edits.foldl edit l).keys := by
  induction edits generalizing l with
  | nil => exact List.prefix_refl _
  | cons e edits ih =>
    obtain ⟨he, hedits⟩ := List.forall_mem_cons.mp h
    exact (keys_prefix_edit l he).trans (ih _ hedits)

theorem edited_append (edits more : List Edit) :
    edited (edits ++ more) = more.foldl edit (edited edits) :=
  List.foldl_append

/-- However a list came about, its keys are words that differ by more than case, its values are lines,
and its texts make up the list again. An option is set exactly if it has such a key and value. It is
then found under its key in any case, the others are found as before, and keys stay in the order and
spelling in which they first came. -/
theorem edited_lists_read_back (edits : List Edit) :
    let l := edited edits
    l.Sound ∧ ofStrings l.toStrings = .ok l ∧
      (∀ name value, (∃ l', l.set name value = .ok l') ↔
        (name ≠ "" ∧ ∀ c ∈ name.toList, c.isAlphanum = true ∨ c = '_') ∧
          '\n' ∉ value.toList ∧ '\r' ∉ value.toList) ∧
      (∀ name value l', l.set name value = .ok l' →
        edited (edits ++ [.set name value]) = l' ∧
          (∀ key, l'.find? key = if Text.sameWord key name then some value else l.find? key) ∧
          l'.keys = if l.keys.any (Text.sameWord · name) then l.keys else l.keys ++ [name]) ∧
      (∀ more : List Edit, (∀ e ∈ more, ∀ entries, e ≠ .load entries) →
        l.keys <+: (edited (edits ++ more)).keys) ∧
      ∀ e cause, l.edit? e = .error cause → edited (edits ++ [e]) = l := by
  have hsound := sound_edited edits
  intro l
  refine ⟨hsound, hsound.ofStrings_toStrings, fun name value => ?_, fun name value l' h => ?_,
    fun more hmore => ?_, fun e cause h => ?_⟩
  · rw [← isKey_iff, ← isLine_iff]
    constructor
    · rintro ⟨l', h⟩
      obtain ⟨hk, hv, -⟩ := set_eq_ok_iff.mp h
      exact ⟨hk, hv⟩
    · rintro ⟨hk, hv⟩
      exact ⟨_, set_of_isKey hk hv⟩
  · refine ⟨?_, fun key => ?_, ?_⟩
    · have hedit : l.edit? (.set name value) = .ok l' := h
      rw [edited_append, List.foldl_cons, List.foldl_nil, edit, hedit]
    · obtain ⟨-, -, rfl⟩ := set_eq_ok_iff.mp h
      exact find?_assign name value key l.entries
    · rw [keys_set h, keys, List.any_map]
      rfl
  · rw [edited_append]
    exact keys_prefix_edits l hmore
  · rw [edited_append, List.foldl_cons, List.foldl_nil, edit, h]

theorem edited_list_reads_back :
    let edits : List Edit := [.set "ONE" "1", .add " Two =a=b", .add "THREE", .set "a b" "", .load ["=x"]]
    let l := edited edits
    l.entries = [("ONE", "1"), ("Two", "a=b")] ∧ ofStrings ["ONE=1", "Two=a=b"] = .ok l ∧
      l.set "two" "22" = .ok ⟨[("ONE", "1"), ("Two", "22")]⟩ ∧
      (edited (edits ++ [.set "two" "22"])).find? "TWO" = some "22" ∧
      l.keys <+: (edited (edits ++ [.add "x=", .set "" ""])).keys ∧
      l.edit? (.set "" "") = .error (.name "") ∧ edited (edits ++ [.set "" ""]) = l := by
  intro edits l
  have hentries : l.entries = [("ONE", "1"), ("Two", "a=b")] := by decide +kernel
  have hset : l.set "two" "22" = .ok ⟨[("ONE", "1"), ("Two", "22")]⟩ := rfl
  have hedit : l.edit? (.set "" "") = .error (.name "") := rfl
  obtain ⟨-, hback, -, hfind, hkeys, hsame⟩ := edited_lists_read_back edits
  obtain ⟨hl', hfind, -⟩ := hfind _ _ _ hset
  refine ⟨hentries, ?_, hset, ?_, ?_, hedit, hsame _ _ hedit⟩
  · have htexts : l.toStrings = ["ONE=1", "Two=a=b"] := by decide +kernel
    exact htexts ▸ hback
  · rw [hl', hfind]
    decide +kernel
  · refine hkeys _ fun e he entries => ?_
    rcases List.mem_cons.mp he with rfl | he
    · nofun
    · rw [List.mem_singleton.mp he]
      nofun

end OptionList

end FeatureLayer
