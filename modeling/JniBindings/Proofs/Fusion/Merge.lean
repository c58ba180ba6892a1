import JniBindings.Proofs.Fusion.RoundTrip
/-!
# Merging proxies into the fusion header

Every merge reads the text that the one before it has written. Since what is written is read back, a
sequence of merges adds what is new to the contents of the first text, in order and without
duplicates, and merging a proxy once more changes nothing (`parse_foldlM_merge`).
-/

namespace JniBindings

/-- A proxy that can be added to a fusion header. -/
structure FusionEntry.IsWritable (e : FusionEntry) : Prop where
  term : (Fusion.termOf e).IsWritable
  header : IsHeaderName e.header

namespace Fusion

theorem isWritable_insert {f : Fusion} (hf : f.IsWritable) {e : FusionEntry} (he : e.IsWritable) :
    (f.insert e).IsWritable := by
  refine ⟨fun name hname => ?_, fun t ht => ?_, nodup_addNew hf.nodup_includes _,
    nodup_addNew hf.nodup_terms _⟩
  · rcases mem_addNew_iff.1 hname with hname | rfl
    · exact hf.includes name hname
    · exact he.header
  · rcases mem_addNew_iff.1 ht with ht | rfl
    · exact hf.terms t ht
    · exact he.term

/-- A proxy that is there already adds nothing. -/
theorem insert_eq_self {f : Fusion} {e : FusionEntry} (hheader : e.header ∈ f.includes)
    (hterm : termOf e ∈ f.terms) : f.insert e = f := by
  rw [insert, addNew, if_pos hheader, addNew, if_pos hterm]

theorem includes_foldl_insert (f : Fusion) (es : List FusionEntry) :
    (es.foldl insert f).includes = (es.map FusionEntry.header).foldl addNew f.includes := by
  induction es generalizing f with
  | nil => rfl
  | cons e es ih => exact ih (f.insert e)

theorem terms_foldl_insert (f : Fusion) (es : List FusionEntry) :
    (es.foldl insert f).terms = (es.map termOf).foldl addNew f.terms := by
  induction es generalizing f with
  | nil => rfl
  | cons e es ih => exact ih (f.insert e)

theorem isWritable_foldl_insert {f : Fusion} (hf : f.IsWritable) {es : List FusionEntry}
    (he : ∀ e ∈ es, e.IsWritable) : (es.foldl insert f).IsWritable := by
  induction es generalizing f with
  | nil => exact hf
  | cons e es ih =>
    exact ih (isWritable_insert hf (he e List.mem_cons_self)) fun e' he' =>
      he e' (List.mem_cons_of_mem e he')

theorem insert_foldl_insert {f : Fusion} {es : List FusionEntry} {e : FusionEntry} (h : e ∈ es) :
    (es.foldl insert f).insert e = es.foldl insert f := by
  apply insert_eq_self
  · rw [includes_foldl_insert, mem_foldl_addNew_iff]
    exact Or.inr (List.mem_map_of_mem h)
  · rw [terms_foldl_insert, mem_foldl_addNew_iff]
    exact Or.inr (List.mem_map_of_mem h)

theorem parse_empty : parse "" = .ok empty := by decide

theorem isWritable_empty : empty.IsWritable :=
  ⟨nofun, nofun, List.nodup_nil, List.nodup_nil⟩

theorem merge_of_parse {x : String} {f : Fusion} (h : parse x = .ok f) (e : FusionEntry) :
    merge x e = .ok (f.insert e).render := by
  rw [merge, h]
  rfl

/-- Only what can be read is merged into. -/
theorem exists_parse_of_foldlM_merge {es : List FusionEntry} (hne : es ≠ []) {x y : String}
    (h : es.foldlM merge x = .ok y) : ∃ f, parse x = .ok f := by
  obtain ⟨e, es, rfl⟩ := List.exists_cons_of_ne_nil hne
  rw [List.foldlM_cons] at h
  obtain ⟨z, hmerge, -⟩ := bind_eq_ok_iff.1 h
  obtain ⟨f, hparse, -⟩ := bind_eq_ok_iff.1 hmerge
  exact ⟨f, hparse⟩

/-- A sequence of merges that starts from a header writes the header with everything added. -/
theorem foldlM_merge_render {f : Fusion} (hf : f.IsWritable) {es : List FusionEntry}
    (he : ∀ e ∈ es, e.IsWritable) :
    es.foldlM merge f.render = .ok (es.foldl insert f).render := by
  induction es generalizing f with
  | nil => rfl
  | cons e es ih =>
    rw [List.foldlM_cons, merge_of_parse (parse_render hf) e]
    exact ih (isWritable_insert hf (he e List.mem_cons_self)) fun e' he' =>
      he e' (List.mem_cons_of_mem e he')

/-- A sequence of merges that starts from any text writes the contents of that text with everything
added. -/
theorem foldlM_merge_eq_render {x : String} {f : Fusion} (hx : parse x = .ok f)
    (hf : f.IsWritable) {es : List FusionEntry} (hne : es ≠ []) (he : ∀ e ∈ es, e.IsWritable) :
    es.foldlM merge x = .ok (es.foldl insert f).render := by
  obtain ⟨e, es, rfl⟩ := List.exists_cons_of_ne_nil hne
  rw [List.foldlM_cons, merge_of_parse hx e]
  exact foldlM_merge_render (isWritable_insert hf (he e List.mem_cons_self)) fun e' he' =>
    he e' (List.mem_cons_of_mem e he')

/-- A sequence of merges that starts from any text succeeds, and what it leaves is read as the
contents of that text with everything added. -/
theorem foldlM_merge_of_parse {x : String} {f : Fusion} (hx : parse x = .ok f)
    (hf : f.IsWritable) {es : List FusionEntry} (he : ∀ e ∈ es, e.IsWritable) :
    ∃ text, es.foldlM merge x = .ok text ∧ parse text = .ok (es.foldl insert f)
      ∧ ∀ e ∈ es, merge text e = .ok text := by
  by_cases hne : es = []
  · subst hne
    exact ⟨x, rfl, hx, fun e h => absurd h List.not_mem_nil⟩
  · have hparse := parse_render (isWritable_foldl_insert hf he)
    refine ⟨_, foldlM_merge_eq_render hx hf hne he, hparse, fun e he' => ?_⟩
    rw [merge_of_parse hparse, insert_foldl_insert he']

/-- Merging any proxies into any text whose file names do not hold the marker succeeds. The result
has what the text had, followed by what is new, in the order of first occurrence; nothing is there
twice, and merging one of the proxies again leaves the text as it is. -/
theorem parse_foldlM_merge {x : String} {f : Fusion} (hx : parse x = .ok f)
    (hm : ∀ name ∈ f.includes, ¬ beginMarker.toList <:+: name.toList)
    {es : List FusionEntry} (he : ∀ e ∈ es, e.IsWritable) :
    ∃ text g, es.foldlM merge x = .ok text ∧ parse text = .ok g
      ∧ g.terms = f.terms ++ ((es.map termOf).filter (· ∉ f.terms)).eraseDups
      ∧ g.includes = f.includes ++ ((es.map FusionEntry.header).filter (· ∉ f.includes)).eraseDups
      ∧ g.terms.Nodup ∧ g.includes.Nodup
      ∧ ∀ e ∈ es, merge text e = .ok text := by
  have hf := isWritable_of_parse hx hm
  have hg := isWritable_foldl_insert hf he
  obtain ⟨text, htext, hparse, hagain⟩ := foldlM_merge_of_parse hx hf he
  refine ⟨text, es.foldl insert f, htext, hparse, ?_, ?_, hg.nodup_terms, hg.nodup_includes, hagain⟩
  · rw [terms_foldl_insert, foldl_addNew]
  · rw [includes_foldl_insert, foldl_addNew]

theorem parse_foldlM_merge_shared :
    parse "#include \"a.h\"\n// begin-init-block\n && ::a::A::initClazz(env)\n// end-init-block\n"
        = .ok ⟨["a.h"], [⟨"a", "A"⟩]⟩
      ∧ (∀ e ∈ [⟨"a::b", "B", "b.h"⟩, ⟨"", "C", "a.h"⟩, ⟨"a::b", "B", "b.h"⟩],
        FusionEntry.IsWritable e)
      ∧ ∃ text g,
        [⟨"a::b", "B", "b.h"⟩, ⟨"", "C", "a.h"⟩, ⟨"a::b", "B", "b.h"⟩].foldlM merge
          "#include \"a.h\"\n// begin-init-block\n && ::a::A::initClazz(env)\n// end-init-block\n"
            = .ok text
          ∧ parse text = .ok g
          ∧ g.terms = [⟨"a", "A"⟩, ⟨"a::b", "B"⟩, ⟨"", "C"⟩]
          ∧ g.includes = ["a.h", "b.h"]
          ∧ merge text ⟨"", "C", "a.h"⟩ = .ok text := by
  have hx : parse
      "#include \"a.h\"\n// begin-init-block\n && ::a::A::initClazz(env)\n// end-init-block\n"
        = .ok ⟨["a.h"], [⟨"a", "A"⟩]⟩ := by decide +kernel
  have hm : ∀ name ∈ ["a.h"], ¬ beginMarker.toList <:+: name.toList := by decide
  have hB : FusionEntry.IsWritable ⟨"a::b", "B", "b.h"⟩ :=
    ⟨⟨by decide, ["a", "b"], rfl, by decide⟩, by decide, by decide, by decide, by decide⟩
  have hC : FusionEntry.IsWritable ⟨"", "C", "a.h"⟩ :=
    ⟨⟨by decide, [], rfl, by decide⟩, by decide, by decide, by decide, by decide⟩
  have he : ∀ e ∈ [⟨"a::b", "B", "b.h"⟩, ⟨"", "C", "a.h"⟩, ⟨"a::b", "B", "b.h"⟩],
      FusionEntry.IsWritable e := by
    simp [hB, hC]
  obtain ⟨text, g, htext, hparse, hterms, hincludes, -, -, hagain⟩ := parse_foldlM_merge hx hm he
  exact ⟨hx, he, text, g, htext, hparse, hterms.trans (by decide), hincludes.trans (by decide),
    hagain _ (by simp)⟩

end Fusion

end JniBindings
