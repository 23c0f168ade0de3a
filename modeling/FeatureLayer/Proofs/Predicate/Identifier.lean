import FeatureLayer.Layer.Reading
import FeatureLayer.Proofs.Predicate.Comparing

namespace FeatureLayer

namespace Text

theorem isAlphabetic_of_isAlpha {c : Char} (h : c.isAlpha = true) : isAlphabetic c = true := by
  have := toNat_of_isAlpha h
  rw [isAlphabetic, if_pos (by omega)]
  exact h

theorem quote_notMem_of_sameWord {s word : String} (h : sameWord s word = true)
    (hword : '"' ∉ word.toList.map Char.toLower) : '"' ∉ s.toList := by
  intro hmem
  rw [sameWord, decide_eq_true_eq] at h
  exact hword (h ▸ List.mem_map.mpr ⟨'"', hmem, by decide⟩)

end Text

namespace Token

open Text

theorem continuesWord_of_plain {c : Char} (h : (c.isAlphanum || c = '_') = true) :
    continuesWord c = true := by
  rw [Bool.or_eq_true, decide_eq_true_eq, Char.isAlphanum, Bool.or_eq_true] at h
  rcases h with (h | h) | rfl
  · simp [continuesWord, isAlphanumeric, isAlphabetic_of_isAlpha h]
  · have := toNat_of_isDigit h
    have hlt : c.toNat < 0x80 := by omega
    simp [continuesWord, isAlphanumeric, isNumeric, h, hlt]
  · decide

theorem isWord_of_isPlainName {name : String} (h : Layer.isPlainName name = true) :
    isWord name.toList = true := by
  unfold Layer.isPlainName at h
  unfold isWord
  split at h
  · cases h
  next c cs hname =>
    rw [Bool.and_eq_true, Bool.or_eq_true] at h
    obtain ⟨hc, hcs⟩ := h
    simp only [hname, Bool.and_eq_true, Bool.or_eq_true]
    exact ⟨hc.imp_left isAlphabetic_of_isAlpha,
      List.all_eq_true.mpr fun d hd => continuesWord_of_plain (List.all_eq_true.mp hcs d hd)⟩

theorem quote_notMem_of_isWord {cs : List Char} (h : isWord cs = true) : '"' ∉ cs := by
  unfold isWord at h
  intro hmem
  split at h
  · rw [Bool.and_eq_true] at h
    rcases List.mem_cons.mp hmem with rfl | hmem
    · exact absurd h.1 (by decide)
    · exact absurd (List.all_eq_true.mp h.2 _ hmem) (by decide)
  · cases h

theorem flatMap_quote {cs : List Char} (h : '"' ∉ cs) :
    (cs.flatMap fun c => if c = '"' then ['"', '"'] else [c]) = cs := by
  have hc : ∀ c ∈ cs, (if c = '"' then ['"', '"'] else [c]) = [c] := fun c hc =>
    if_neg (ne_of_mem_of_not_mem hc h)
  rw [List.flatMap_congr hc, List.flatMap_singleton']

theorem writes_writtenName {name : String} (h : '"' ∉ name.toList) :
    Writes name (Layer.writtenName name) := by
  unfold Layer.writtenName
  split
  next hplain => exact .word (isWord_of_isPlainName hplain)
  · rw [flatMap_quote h, String.ofList_toList]
    exact .quoted h

theorem readAll_quoted {cs rest : List Char} {ts : List Token} {fuel : Nat} (h : '"' ∉ cs)
    (hread : readAll (fuel + 1) ('"' :: (cs ++ '"' :: rest)) = .ok ts) :
    ∃ us, ts = name (.ofList cs) :: us ∧ readAll fuel rest = .ok us := by
  have hname : read '"' (cs ++ '"' :: rest) = .ok (name (.ofList cs), rest) := by
    simp [read, readName_quoted h]
  have hspace : isWhiteSpace '"' = false := by decide
  simp only [readAll, hspace, Bool.false_eq_true, if_false, hname] at hread
  obtain ⟨⟨t, cs⟩, heq, hread⟩ := ok_of_bind_eq_ok hread
  cases heq
  obtain ⟨us, hus, heq⟩ := ok_of_bind_eq_ok hread
  cases heq
  exact ⟨us, rfl, hus⟩

/-- A quote in a name ends it, though it is written twice, and what follows is another name. -/
theorem exists_names_of_tokenize {name : String} (h : '"' ∈ name.toList) {rest : List Char}
    {ts : List Token} (hread : tokenize ((Layer.writtenName name).toList ++ rest) = .ok ts) :
    ∃ s s' us, ts = .name s :: .name s' :: us := by
  obtain ⟨cs, ds, hname, hcs⟩ := List.eq_append_cons_of_mem h
  have hplain : Layer.isPlainName name = false := Bool.eq_false_iff.mpr fun hplain =>
    quote_notMem_of_isWord (isWord_of_isPlainName hplain) h
  obtain ⟨es, hwritten⟩ : ∃ es, (Layer.writtenName name).toList ++ rest =
      '"' :: (cs ++ '"' :: '"' :: (es ++ '"' :: rest)) := by
    refine ⟨ds.flatMap fun c => if c = '"' then ['"', '"'] else [c], ?_⟩
    simp [Layer.writtenName, hplain, hname, flatMap_quote hcs]
  obtain ⟨es', fs, hes, hes'⟩ := List.eq_append_cons_of_mem
    (show '"' ∈ es ++ '"' :: rest from List.mem_append_right es List.mem_cons_self)
  rw [hwritten, hes, tokenize] at hread
  obtain ⟨us, rfl, hus⟩ := readAll_quoted hcs hread
  have hlength : (cs ++ '"' :: '"' :: (es' ++ '"' :: fs)).length =
      cs.length + (es' ++ '"' :: fs).length + 1 + 1 := by
    simp
    omega
  rw [hlength] at hus
  obtain ⟨us, rfl, -⟩ := readAll_quoted hes' hus
  exact ⟨_, _, us, rfl⟩

/-- There is no quote in the name, and it is none of the keywords that may come first in a predicate. -/
structure Legible (name : String) : Prop where
  noQuote : '"' ∉ name.toList
  noNot : Text.sameWord name "NOT" = false
  noNull : Text.sameWord name "NULL" = false

end Token

namespace Predicate

theorem part_of_isChain {word : String} {join : Predicate → Predicate → Predicate}
    {Part : List Token → Predicate → Prop} {ts : List Token} {p : Predicate}
    (h : IsChain word join Part ts p) (hjoin : ∀ q r, join q r ≠ p) : Part ts p := by
  cases h with
  | @intro ts us q qs hts hus =>
    obtain rfl | ⟨qs, r, rfl⟩ := List.eq_nil_or_concat' qs
    · cases hus
      rwa [List.append_nil]
    · rw [List.foldl_append] at hjoin
      exact absurd rfl (hjoin _ r)

theorem sign_of_isDisjunction {v : Vocabulary} {t u : Token} {ts : List Token} {x y : Operand}
    {c : Comparison} (h : IsDisjunction v (t :: u :: ts) (.compare x c y)) (ht : t ≠ .opening) :
    u = .comparison c := by
  have hfactor : IsFactor v (t :: u :: ts) (.compare x c y) :=
    part_of_isChain (part_of_isChain h nofun) nofun
  generalize heq : t :: u :: ts = tokens at hfactor
  cases hfactor with
  | group => exact absurd (List.cons.inj heq).1 ht
  | comparison hts =>
    cases hts with
    | compare =>
      cases heq
      rfl

end Predicate

namespace Vocabulary

def identifier (v : Vocabulary) : String :=
  if v.fidColumn.isEmpty then Row.fidName else v.fidColumn

/-- The identifier has a plain name, which is no keyword and no name of a field. -/
structure Identifies (v : Vocabulary) : Prop where
  plain : Layer.isPlainName v.identifier = true
  noNot : Text.sameWord v.identifier "NOT" = false
  noNull : Text.sameWord v.identifier "NULL" = false
  noField : ∀ f ∈ v.fields, Text.sameWord f.name v.identifier = false

def writtenIdentifier (v : Vocabulary) : String :=
  if v.fidColumn.isEmpty then Row.fidName else Layer.writtenName v.fidColumn

variable {v : Vocabulary}

theorem fidPredicate_eq (v : Vocabulary) (fid : Int) :
    Layer.fidPredicate v.fidColumn fid = comparisonText v.writtenIdentifier "=" fid := by
  simp only [Layer.fidPredicate, comparisonText, writtenIdentifier, String.append_assoc]
  rfl

theorem names_identifier (h : ∀ f ∈ v.fields, Text.sameWord f.name v.identifier = false) :
    v.Names v.identifier .fid := by
  have hself : ∀ w, Text.sameWord w w = true := fun w => by simp [Text.sameWord]
  refine .fid h ?_
  by_cases hc : v.fidColumn.isEmpty
  · exact .inl (by rw [identifier, if_pos hc]; exact hself _)
  · refine .inr ⟨fun hnil => hc (hnil ▸ rfl), ?_⟩
    rw [identifier, if_neg hc]
    exact hself _

theorem writes_identifier (h : '"' ∉ v.identifier.toList) :
    Token.Writes v.identifier v.writtenIdentifier := by
  by_cases hc : v.fidColumn.isEmpty
  · simp only [identifier, writtenIdentifier, if_pos hc]
    exact .word (by decide)
  · simp only [identifier, writtenIdentifier, if_neg hc] at h ⊢
    exact Token.writes_writtenName h

theorem Identifies.legible (h : v.Identifies) : Token.Legible v.identifier :=
  ⟨Token.quote_notMem_of_isWord (Token.isWord_of_isPlainName h.plain), h.noNot, h.noNull⟩

end Vocabulary

theorem Layer.filter_fidPredicate (column : String) (fid : Int) :
    (some (fidPredicate column fid)).filter (!Text.isBlank ·) = some (fidPredicate column fid) := by
  have hsign : '=' ∈ (fidPredicate column fid).toList := by
    rw [fidPredicate, String.toList_append]
    exact List.mem_append_right _ (by simp [String.toList_append, toString])
  have hblank : Text.isBlank (fidPredicate column fid) = false :=
    List.all_eq_false.mpr ⟨'=', hsign, by decide⟩
  simp [hblank]

namespace Predicate

variable {v : Vocabulary}

/-- The predicate for one identifier is read as the comparison that its text states. -/
theorem parse_fidPredicate_of_legible (h : Token.Legible v.identifier)
    (hfield : ∀ f ∈ v.fields, Text.sameWord f.name v.identifier = false) (fid : Int) :
    parse v (Layer.fidPredicate v.fidColumn fid) =
      .ok (.compare .fid .eq (.literal (.number (Binary.ofInt fid)))) := by
  rw [v.fidPredicate_eq]
  exact parse_comparisonText (Vocabulary.writes_identifier h.noQuote) (by decide)
    (.named (not_isWord h.noNull) (Vocabulary.names_identifier hfield)) h.noNot fid

theorem parse_fidPredicate (h : v.Identifies) (fid : Int) :
    parse v (Layer.fidPredicate v.fidColumn fid) =
      .ok (.compare .fid .eq (.literal (.number (Binary.ofInt fid)))) :=
  parse_fidPredicate_of_legible h.legible h.noField fid

theorem parse_fidPredicate_of_not (h : Text.sameWord v.identifier "NOT" = true) (fid : Int) :
    parse v (Layer.fidPredicate v.fidColumn fid) =
      .error (.expected "an operand" (some (.comparison .eq))) := by
  have hwrites := Vocabulary.writes_identifier (Text.quote_notMem_of_sameWord h (by decide))
  rw [v.fidPredicate_eq, parse, Token.tokenize_comparisonText (c := .eq) hwrites (by decide)]
  simp [ofTokens, disjunction, chain, factor, keyword?, comparison, operand, h, bind, Except.bind]

theorem parse_fidPredicate_of_null (h : Text.sameWord v.identifier "NULL" = true) (fid : Int) :
    parse v (Layer.fidPredicate v.fidColumn fid) =
      .ok (.compare (.literal .null) .eq (.literal (.number (Binary.ofInt fid)))) := by
  have hnull : IsWord "NULL" (.name v.identifier) := ⟨_, rfl, h⟩
  have hnot : ¬IsWord "NOT" (.name v.identifier) := hnull.ne (by decide)
  rw [v.fidPredicate_eq]
  exact parse_comparisonText
    (Vocabulary.writes_identifier (Text.quote_notMem_of_sameWord h (by decide))) (by decide)
    (.literal (.null hnull)) (Bool.eq_false_iff.mpr fun heq => hnot ⟨_, rfl, heq⟩) fid

theorem parse_fidPredicate_ne_of_quote (h : '"' ∈ v.identifier.toList) (fid : Int) (x y : Operand)
    (c : Comparison) : parse v (Layer.fidPredicate v.fidColumn fid) ≠ .ok (.compare x c y) := by
  intro hparse
  have hcolumn : ¬v.fidColumn.isEmpty = true := fun hc => by
    rw [Vocabulary.identifier, if_pos hc] at h
    exact absurd h (by decide)
  rw [Vocabulary.identifier, if_neg hcolumn] at h
  obtain ⟨tokens, htokens, hread⟩ := ok_of_bind_eq_ok hparse
  rw [Layer.fidPredicate, if_neg hcolumn, String.toList_append] at htokens
  obtain ⟨s, s', us, rfl⟩ := Token.exists_names_of_tokenize h htokens
  cases sign_of_isDisjunction (isDisjunction_of_ofTokens hread) nofun

theorem parse_fidPredicate_iff
    (hfield : ∀ f ∈ v.fields, Text.sameWord f.name v.identifier = false) (fid : Int) :
    parse v (Layer.fidPredicate v.fidColumn fid) =
      .ok (.compare .fid .eq (.literal (.number (Binary.ofInt fid)))) ↔
      Token.Legible v.identifier := by
  refine ⟨fun h => ⟨fun hquote => ?_, ?_, ?_⟩, fun h => parse_fidPredicate_of_legible h hfield fid⟩
  · exact parse_fidPredicate_ne_of_quote hquote fid _ _ _ h
  · refine Bool.eq_false_iff.mpr fun hnot => ?_
    rw [parse_fidPredicate_of_not hnot] at h
    cases h
  · refine Bool.eq_false_iff.mpr fun hnull => ?_
    rw [parse_fidPredicate_of_null hnull] at h
    cases h

theorem eval_fid_isSome (fid k : Int) (data : List Datum) :
    ((compare .fid .eq (.literal (.number (Binary.ofInt fid)))).eval k data).isSome = true := by
  simp only [eval, scalarOf, Scalar.compare?]
  rw [Binary.compare?_ofInt]
  rfl

/-- The predicate for one identifier holds of it alone, as far as doubles tell integers apart. -/
theorem holds_fid_iff {fid k : Int} (hfid : fid.natAbs ≤ 2 ^ 53) (hk : k.natAbs ≤ 2 ^ 53)
    (data : List Datum) :
    (compare .fid .eq (.literal (.number (Binary.ofInt fid)))).holds k data = true ↔ k = fid := by
  rw [← Binary.compare?_ofInt_eq_iff hk hfid]
  rw [holds, decide_eq_true_eq]
  simp only [eval, scalarOf, Scalar.compare?]
  cases (Binary.ofInt k : Double).compare? (Binary.ofInt fid) with
  | none => simp
  | some c => cases c <;> simp [Comparison.accepts]

end Predicate

end FeatureLayer
