import JniBindings.Proofs.Fusion.Line
import JniBindings.Proofs.Outcome
import Mathlib.Data.List.Nodup
/-!
# Reading back the fusion header

`Fusion.IsWritable` holds of the contents that a header can be written for: its file names and
terms can be written, and none occurs twice. Whatever is read from a text is of this kind as soon as
its file names do not hold the marker in front of the terms, and what is written is read back
(`parse_render`).
-/

namespace JniBindings.Fusion

/-- A header can be written for the contents. -/
structure IsWritable (f : Fusion) : Prop where
  includes : ∀ name ∈ f.includes, IsHeaderName name
  terms : ∀ t ∈ f.terms, t.IsWritable
  nodup_includes : f.includes.Nodup
  nodup_terms : f.terms.Nodup

/-! ### New elements -/

section AddNew

variable {α : Type} [DecidableEq α]

theorem nodup_addNew {xs : List α} (h : xs.Nodup) (x : α) : (addNew xs x).Nodup := by
  rw [addNew]
  split_ifs with hx
  · exact h
  · exact List.nodup_append.2 ⟨h, List.nodup_singleton x, by
      rintro y hy z hz rfl
      exact hx (List.mem_singleton.1 hz ▸ hy)⟩

theorem mem_addNew_iff {xs : List α} {x y : α} : y ∈ addNew xs x ↔ y ∈ xs ∨ y = x := by
  rw [addNew]
  split_ifs with hx
  · exact ⟨Or.inl, fun h => h.elim id fun e => e ▸ hx⟩
  · rw [List.mem_append, List.mem_singleton]

/-- Adding elements one after the other adds those that are not there yet, each at the place of its
first occurrence. -/
theorem foldl_addNew (seen xs : List α) :
    xs.foldl addNew seen = seen ++ (xs.filter (· ∉ seen)).eraseDups := by
  induction xs generalizing seen with
  | nil => simp
  | cons x xs ih =>
    rw [List.foldl_cons, ih, addNew]
    split_ifs with hx
    · rw [List.filter_cons_of_neg (by simpa using hx)]
    · rw [List.filter_cons_of_pos (by simpa using hx), List.eraseDups_cons, List.filter_filter,
        List.append_assoc, List.singleton_append]
      congr 4
      funext y
      simp [beq_eq_decide, Bool.and_comm]

theorem foldl_addNew_eq_eraseDups (xs : List α) : xs.foldl addNew [] = xs.eraseDups := by
  rw [foldl_addNew, List.nil_append, List.filter_eq_self.2 (by simp)]

theorem nodup_foldl_addNew {seen : List α} (h : seen.Nodup) (xs : List α) :
    (xs.foldl addNew seen).Nodup := by
  induction xs generalizing seen with
  | nil => exact h
  | cons x xs ih => exact ih (nodup_addNew h x)

theorem mem_foldl_addNew_iff {seen xs : List α} {y : α} :
    y ∈ xs.foldl addNew seen ↔ y ∈ seen ∨ y ∈ xs := by
  induction xs generalizing seen with
  | nil => simp
  | cons x xs ih => rw [List.foldl_cons, ih, mem_addNew_iff, List.mem_cons, or_assoc]

theorem foldl_addNew_nil {xs : List α} (h : xs.Nodup) : xs.foldl addNew [] = xs := by
  suffices ∀ seen, (seen ++ xs).Nodup → xs.foldl addNew seen = seen ++ xs from this [] h
  clear h
  induction xs with
  | nil => simp
  | cons x xs ih =>
    intro seen hnodup
    have hx : x ∉ seen := fun hx =>
      (List.nodup_append.1 hnodup).2.2 x hx x List.mem_cons_self rfl
    rw [List.foldl_cons, addNew, if_neg hx, ih]
    · simp
    · simpa using hnodup

end AddNew

/-! ### The text of a header -/

/-- The lines in front of the marker in front of the terms. -/
def frontLines (f : Fusion) : List (List Char) :=
  Text.lines opening.toList ++ f.includes.map (fun name => (includeLine name).toList)
    ++ Text.lines functionStart.toList

/-- The lines of the terms. -/
def termLines (f : Fusion) : List (List Char) :=
  f.terms.map fun t => indent.toList ++ (termLine t).toList

/-- The fixed parts of a header in front of the terms are made of lines. -/
theorem unlines_lines_fixed {s : String} (h : s = opening ∨ s = functionStart) :
    Text.unlines (Text.lines s.toList) = s.toList := by
  rcases h with rfl | rfl <;> decide +kernel

theorem fixed_line {s : String} (h : s = opening ∨ s = functionStart) :
    ∀ l ∈ Text.lines s.toList, Text.IsLine l ∧ Text.lacks beginMarker.toList l = true
      ∧ includedName? (Text.trimList l) = none := by
  rcases h with rfl | rfl <;> decide +kernel

theorem toList_render (f : Fusion) :
    f.render.toList = Text.unlines f.frontLines ++ (indent.toList ++ (beginMarker.toList
      ++ '\n' :: (Text.unlines f.termLines ++ (indent.toList ++ (endMarker.toList
        ++ '\n' :: functionEnd.toList))))) := by
  simp only [render, String.toList_append, Text.toList_concat_lines, frontLines, termLines,
    Text.unlines_append, unlines_lines_fixed, true_or, or_true, List.append_assoc]
  rfl

/-! ### Lines of a header -/

theorem lacks_includeLine {name : String} (h : IsHeaderName name) :
    Text.lacks beginMarker.toList (includeLine name).toList := by
  have hquote : '"' ∉ beginMarker.toList := by decide
  have hstart : Text.lacks beginMarker.toList "#include ".toList := by decide
  have hname := Text.lacks_of_not_infix h.no_marker
  have hskipped := (Text.skipped_append_singleton hquote hstart).append
    (Text.skipped_append_singleton hquote hname)
  have hlacks := hskipped.lacks_append (show Text.lacks beginMarker.toList [] by decide)
  simpa [toList_includeLine] using hlacks

/-- A line feed and a slash are not written in a term. -/
theorem not_mem_termLine {t : FusionTerm} (h : t.IsWritable) {c : Char} (hw : isWordChar c = false)
    (hc : c ∉ termMarks) : c ∉ indent.toList ++ (termLine t).toList := by
  intro hmem
  have hindent : indent.toList.all termMarks.contains := by decide
  rcases List.mem_append.1 hmem with hmem | hmem
  · exact hc (List.contains_iff_mem.1 (List.all_eq_true.1 hindent c hmem))
  · rcases mem_termLine h hmem with hword | hmem
    · exact Bool.false_ne_true (hw.symm.trans hword)
    · exact hc hmem

theorem getLast?_termLine (t : FusionTerm) : (termLine t).toList.getLast? = some ')' := by
  have hcall : termLine t = "&& " ++ ("::" ++ (Namespace.ofText t.namespacePath).qualify t.className
      ++ "::" ++ initName) ++ "(env)" := by
    simp only [termLine, FusionTerm.call, String.append_assoc]
  rw [hcall, String.toList_append, List.getLast?_append]
  rfl

theorem toList_termLine (t : FusionTerm) :
    (termLine t).toList = '&' :: '&' :: ' ' :: (FusionTerm.call t).toList := by
  simp [termLine]

theorem isTight_termLine (t : FusionTerm) : Text.IsTight (termLine t).toList := by
  constructor
  · intro c hc
    rw [toList_termLine] at hc
    obtain rfl : '&' = c := Option.some.inj hc
    decide
  · intro c hc
    rw [getLast?_termLine] at hc
    obtain rfl : ')' = c := Option.some.inj hc
    decide

theorem trimList_termLine (t : FusionTerm) :
    Text.trimList (indent.toList ++ (termLine t).toList) = (termLine t).toList :=
  Text.trimList_append (List.all_eq_true.1 (by decide)) (isTight_termLine t)

theorem map_trimList_termLines (f : Fusion) :
    f.termLines.map Text.trimList = f.terms.map fun t => (termLine t).toList := by
  simp only [termLines, List.map_map, Function.comp_def, trimList_termLine]

theorem isLine_termLine {t : FusionTerm} (h : t.IsWritable) :
    Text.IsLine (indent.toList ++ (termLine t).toList) := by
  refine ⟨not_mem_termLine h (by decide) (by decide), ?_⟩
  rw [List.getLast?_append, getLast?_termLine]
  decide

theorem isLine_of_mem_termLines {f : Fusion} (h : f.IsWritable) :
    ∀ l ∈ f.termLines, Text.IsLine l := by
  intro l hl
  obtain ⟨t, ht, rfl⟩ := List.mem_map.1 hl
  exact isLine_termLine (h.terms t ht)

theorem isLine_of_mem_frontLines {f : Fusion} (h : f.IsWritable) :
    ∀ l ∈ f.frontLines, Text.IsLine l := by
  intro l hl
  simp only [frontLines, List.mem_append, List.mem_map] at hl
  rcases hl with (hl | ⟨name, hname, rfl⟩) | hl
  · exact (fixed_line (Or.inl rfl) l hl).1
  · exact isLine_includeLine (h.includes name hname).no_newline
  · exact (fixed_line (Or.inr rfl) l hl).1

theorem skipped_frontLines {f : Fusion} (h : f.IsWritable) :
    Text.Skipped beginMarker.toList (Text.unlines f.frontLines) := by
  refine Text.skipped_unlines (by decide) fun l hl => ?_
  simp only [frontLines, List.mem_append, List.mem_map] at hl
  rcases hl with (hl | ⟨name, hname, rfl⟩) | hl
  · exact (fixed_line (Or.inl rfl) l hl).2.1
  · exact lacks_includeLine (h.includes name hname)
  · exact (fixed_line (Or.inr rfl) l hl).2.1

/-! ### Reading -/

/-- The first marker is found where it has been written. -/
theorem cutAt_beginMarker {f : Fusion} (h : f.IsWritable) :
    Text.cutAt beginMarker.toList f.render.toList
      = some (Text.unlines f.frontLines ++ indent.toList,
          '\n' :: (Text.unlines f.termLines ++ (indent.toList ++ (endMarker.toList
            ++ '\n' :: functionEnd.toList)))) := by
  rw [toList_render]
  exact (skipped_frontLines h).cutAt_append (Text.cutAt_append_of_head_not_mem (by decide) _)

theorem endMarker_eq_cons : endMarker.toList = '/' :: "/ end-init-block".toList := by decide

/-- The second marker is found where it has been written, since no term holds a slash. -/
theorem cutAt_endMarker {f : Fusion} (h : f.IsWritable) (rest : List Char) :
    Text.cutAt endMarker.toList ('\n' :: (Text.unlines f.termLines ++ (indent.toList
      ++ (endMarker.toList ++ rest))))
      = some ('\n' :: (Text.unlines f.termLines ++ indent.toList), rest) := by
  have hterms : '/' ∉ Text.unlines f.termLines := by
    refine Text.not_mem_unlines (by decide) fun l hl => ?_
    obtain ⟨t, ht, rfl⟩ := List.mem_map.1 hl
    exact not_mem_termLine (h.terms t ht) (by decide) (by decide)
  have hslash : '/' ∉ '\n' :: (Text.unlines f.termLines ++ indent.toList) := by
    simp only [List.mem_cons, List.mem_append, not_or]
    exact ⟨by decide, hterms, by decide⟩
  rw [endMarker_eq_cons, ← List.append_assoc, ← List.cons_append]
  exact Text.cutAt_append_of_head_not_mem hslash rest

/-- Only the lines written for files are read as such. -/
theorem includesOf_render {f : Fusion} (h : f.IsWritable) :
    includesOf f.render.toList = f.includes := by
  have hfixed {s : String} (hs : s = opening ∨ s = functionStart) :
      ((Text.lines s.toList).map Text.trimList).filterMap includedName? = [] := by
    rw [List.filterMap_eq_nil_iff, List.forall_mem_map]
    exact fun l hl => (fixed_line hs l hl).2.2
  have hincludes : ((f.includes.map fun name => (includeLine name).toList).map
      Text.trimList).filterMap includedName? = f.includes := by
    have hread : ∀ name ∈ f.includes,
        includedName? (Text.trimList (includeLine name).toList) = some name := by
      intro name hname
      rw [Text.trimList_of_isTight (isTight_includeLine name)]
      exact includedName?_includeLine (h.includes name hname).ne_nil
        (h.includes name hname).no_quote
    rw [List.map_map, List.filterMap_map]
    exact (List.filterMap_congr hread).trans List.filterMap_some
  have hterms : (f.termLines.map Text.trimList).filterMap includedName? = [] := by
    rw [map_trimList_termLines, List.filterMap_eq_nil_iff, List.forall_mem_map]
    intro t _
    rw [toList_termLine, includedName?]
    rfl
  have hend : ((Text.lines (indent.toList ++ (endMarker.toList ++ '\n' ::
      functionEnd.toList))).map Text.trimList).filterMap includedName? = [] := by decide +kernel
  have hmarker : Text.IsLine (indent.toList ++ beginMarker.toList) := by decide
  have hlines : Text.lines f.render.toList = f.frontLines
      ++ (indent.toList ++ beginMarker.toList) :: (f.termLines
        ++ Text.lines (indent.toList ++ (endMarker.toList ++ '\n' :: functionEnd.toList))) := by
    rw [toList_render, Text.lines_unlines_append (isLine_of_mem_frontLines h), ← List.append_assoc,
      Text.lines_append_newline hmarker, Text.lines_unlines_append (isLine_of_mem_termLines h)]
  have hmarkerNone :
      includedName? (Text.trimList (indent.toList ++ beginMarker.toList)) = none := by
    decide
  rw [includesOf, trimmedLines, hlines, frontLines]
  simp only [List.map_append, List.map_cons, List.filterMap_append, hfixed (Or.inl rfl),
    hfixed (Or.inr rfl), hincludes, List.filterMap_cons_none hmarkerNone, hterms, hend,
    List.nil_append, List.append_nil]
  exact foldl_addNew_nil h.nodup_includes

theorem mapM_termOfLine_termLines {f : Fusion} (h : f.IsWritable) :
    ((trimmedLines ('\n' :: (Text.unlines f.termLines ++ indent.toList))).filter
      (!·.isEmpty)).mapM termOfLine = .ok f.terms := by
  have hlines : Text.lines ('\n' :: (Text.unlines f.termLines ++ indent.toList))
      = [] :: (f.termLines ++ [indent.toList]) := by
    rw [Text.lines, Text.lines_unlines_append (isLine_of_mem_termLines h)]
    rfl
  have hterms : (f.terms.map fun t => (termLine t).toList).filter (!·.isEmpty)
      = f.terms.map fun t => (termLine t).toList := by
    rw [List.filter_eq_self, List.forall_mem_map]
    intro t _
    rw [toList_termLine]
    rfl
  have hends : Text.trimList indent.toList = [] := by decide
  have hnil : Text.trimList [] = [] := rfl
  have hfilter : ([] :: (f.terms.map (fun t => (termLine t).toList) ++ [[]])).filter (!·.isEmpty)
      = f.terms.map fun t => (termLine t).toList := by
    rw [List.filter_cons_of_neg (by decide), List.filter_append, hterms]
    exact List.append_nil _
  rw [trimmedLines, hlines, List.map_cons, List.map_append, map_trimList_termLines,
    List.map_singleton, hends, hnil, hfilter]
  exact mapM_map_of_forall fun t ht => termOfLine_termLine (h.terms t ht)

/-- A header that has been written is read back. -/
theorem parse_render {f : Fusion} (h : f.IsWritable) : parse f.render = .ok f := by
  rw [parse, cutAt_beginMarker h]
  dsimp only
  rw [cutAt_endMarker h]
  dsimp only
  rw [mapM_termOfLine_termLines h, includesOf_render h]
  change Except.ok _ = _
  rw [foldl_addNew_nil h.nodup_terms]

/-- Contents that can be written are told apart by what is written for them. -/
theorem render_inj {f g : Fusion} (hf : f.IsWritable) (hg : g.IsWritable)
    (h : f.render = g.render) : f = g := by
  have hparse := parse_render hf
  rw [h, parse_render hg] at hparse
  exact (Except.ok.inj hparse).symm

/-- A parsed text has the files that it includes and the terms of some of its lines. -/
theorem of_parse {x : String} {f : Fusion} (h : parse x = .ok f) :
    f.includes = includesOf x.toList ∧
      ∃ ts : List FusionTerm, f.terms = ts.foldl addNew [] ∧ ∀ t ∈ ts, t.IsWritable := by
  rw [parse] at h
  split at h
  · obtain rfl := Except.ok.inj h
    exact ⟨rfl, [], rfl, fun t ht => absurd ht List.not_mem_nil⟩
  · split at h
    · cases h
    · obtain ⟨ts, hts, h⟩ := bind_eq_ok_iff.1 h
      obtain rfl := Except.ok.inj h
      refine ⟨rfl, ts, rfl, fun t ht => ?_⟩
      obtain ⟨line, -, hline⟩ := exists_of_mem_mapM hts ht
      exact isWritable_of_termOfLine hline

/-- Only terms with words for names are read from a text. -/
theorem isWritable_of_mem_terms {x : String} {f : Fusion} (h : parse x = .ok f) {t : FusionTerm}
    (ht : t ∈ f.terms) : t.IsWritable := by
  obtain ⟨-, ts, hterms, hwritable⟩ := of_parse h
  rw [hterms, mem_foldl_addNew_iff] at ht
  exact hwritable t (ht.resolve_left List.not_mem_nil)

/-- What is read from a text can be written, as long as its file names do not hold the marker. -/
theorem isWritable_of_parse {x : String} {f : Fusion} (h : parse x = .ok f)
    (hm : ∀ name ∈ f.includes, ¬ beginMarker.toList <:+: name.toList) : f.IsWritable := by
  obtain ⟨hincludes, ts, hterms, -⟩ := of_parse h
  refine ⟨fun name hname => ?_, fun t ht => isWritable_of_mem_terms h ht, ?_, ?_⟩
  · have hmem := hname
    rw [hincludes, includesOf, mem_foldl_addNew_iff] at hmem
    obtain ⟨line, hline, hread⟩ := List.mem_filterMap.1 (hmem.resolve_left List.not_mem_nil)
    obtain ⟨l, hl, rfl⟩ := List.mem_map.1 hline
    obtain ⟨hne, hquote, between, after, -, htrim⟩ := exists_of_includedName? hread
    refine ⟨hne, hquote, fun hn => ?_, hm name hname⟩
    have hline : '\n' ∈ Text.trimList l := by
      rw [htrim]
      simp [hn]
    exact Text.newline_not_mem_of_mem_lines hl ((Text.infix_trimList l).subset hline)
  · rw [hincludes]
    exact nodup_foldl_addNew List.nodup_nil _
  · rw [hterms]
    exact nodup_foldl_addNew List.nodup_nil _

end JniBindings.Fusion
