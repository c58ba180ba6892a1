import JniBindings.Overload
import JniBindings.Proofs.Member
import JniBindings.Proofs.Symbol.Unique
/-!
# Suffixes of overloaded functions

An overloaded function has two underscores after its name, and after these the descriptors of its
parameters. Where the name ends can be told although names may hold underscores too: these are the
last two underscores side by side that no digit follows (`Symbol.eq_of_append_eq`). So the name and
the parameters can be told from the name of the function (`Method.eq_of_append_overloadSuffix_eq`).
-/

namespace JniBindings.Symbol

theorem isCoding_tokenChar : IsCoding '/' tokenChar where
  char_separator := rfl
  decode_char c hc h s := by
    rw [tokenChar, if_neg hc]
    split_ifs with hsemicolon
    · rw [hsemicolon]; rfl
    · exact decode_escapeChar h s
  noEscape c h s := by
    rw [tokenChar]
    split_ifs
    · exact noEscape_underscore _
    · exact noEscape_underscore _
    · exact noEscape_escapeChar h s

/-! ### Underscores side by side -/

/-- Two underscores side by side are followed by a digit. -/
def IsEscaped (s : List Char) : Prop :=
  ∀ before rest, s = before ++ '_' :: '_' :: rest → Text.StartsWith (·.isDigit) rest

theorem isEscaped_nil : IsEscaped [] := by
  intro before rest h
  simp at h

theorem IsEscaped.cons {c : Char} {s : List Char}
    (hc : c = '_' → ∀ rest, s = '_' :: rest → Text.StartsWith (·.isDigit) rest)
    (hs : IsEscaped s) : IsEscaped (c :: s) := by
  intro before rest h
  cases before with
  | nil =>
    obtain ⟨rfl, hrest⟩ := List.cons.inj h
    exact hc rfl rest hrest
  | cons d before => exact hs before rest (List.cons.inj h).2

theorem IsEscaped.append {w s : List Char} (hw : '_' ∉ w) (hs : IsEscaped s) :
    IsEscaped (w ++ s) := by
  induction w with
  | nil => exact hs
  | cons c w ih =>
    rw [List.mem_cons, not_or] at hw
    exact (ih hw.2).cons fun hc => absurd hc.symm hw.1

/-- A name followed by a suffix ends where the last two underscores stand that no digit follows. -/
theorem eq_of_append_eq {name name' s s' : List Char} (hs : IsEscaped ('_' :: s))
    (hs' : IsEscaped ('_' :: s')) (hstart : NoEscape s) (hstart' : NoEscape s')
    (h : name ++ '_' :: '_' :: s = name' ++ '_' :: '_' :: s') : name = name' ∧ s = s' := by
  -- if one of the names were longer, the suffix of the other would hold two such underscores
  have hshort {e s s' : List Char} (hs : IsEscaped ('_' :: s)) (hstart' : NoEscape s')
      (he : '_' :: '_' :: s = e ++ '_' :: '_' :: s') : e = [] := by
    cases e with
    | nil => rfl
    | cons c e =>
      obtain ⟨d, rest, rfl, hd⟩ := hs e s' (List.cons.inj he).2
      rw [hstart' d rfl] at hd
      cases hd
  rcases List.append_eq_append_iff.1 h with ⟨e, rfl, he⟩ | ⟨e, rfl, he⟩
  · obtain rfl := hshort hs hstart' he
    refine ⟨(List.append_nil name).symm, ?_⟩
    simpa using he
  · obtain rfl := hshort hs' hstart he
    refine ⟨List.append_nil name', ?_⟩
    simpa using he.symm

/-! ### Parameters in a suffix -/

/-- A character that separates nothing is written as it is, or as an escape. -/
theorem tokenChar_cases {c : Char} (hc : c ≠ '/') (hlow : c.toNat ≤ 0xFFFF) :
    (c ≠ '_' ∧ tokenChar c = [c])
      ∨ ∃ d w, tokenChar c = '_' :: d :: w ∧ d.isDigit ∧ '_' ∉ d :: w := by
  rw [tokenChar, if_neg hc, escapeChar]
  split_ifs with hsemicolon hunderscore halphanum
  · exact Or.inr ⟨'2', [], rfl, by decide, by decide⟩
  · exact Or.inr ⟨'1', [], rfl, by decide, by decide⟩
  · exact Or.inl ⟨hunderscore, rfl⟩
  · refine Or.inr ⟨'0', _, by rw [Text.codePoint_of_le hlow], by decide, ?_⟩
    rw [← Text.codePoint_of_le hlow]
    intro h
    exact absurd (Text.isAlphanum_of_mem_codePoint h) (by decide)

theorem isEscaped_flatMap_tokenChar {s : List Char} (hlow : ∀ c ∈ s, c.toNat ≤ 0xFFFF)
    (hs : Text.Followed '/' (· ≠ '/') s) :
    IsEscaped (s.flatMap tokenChar)
      ∧ (s.head? ≠ some '/' → IsEscaped ('_' :: s.flatMap tokenChar)) := by
  induction s with
  | nil => exact ⟨isEscaped_nil, fun _ => isEscaped_nil.cons fun _ _ h => nomatch h⟩
  | cons c s ih =>
    obtain ⟨hrest, hunderscore⟩ := ih (fun d hd => hlow d (List.mem_cons_of_mem c hd)) hs.of_cons
    rw [List.flatMap_cons]
    by_cases hc : c = '/'
    · subst hc
      obtain ⟨d, tail, rfl, hd⟩ := hs.startsWith
      refine ⟨hunderscore fun h => hd (Option.some.inj h), fun h => absurd rfl h⟩
    · have hchar := tokenChar_cases hc (hlow c List.mem_cons_self)
      rcases hchar with ⟨hne, htoken⟩ | ⟨d, w, htoken, hd, hw⟩
      · rw [htoken, List.singleton_append]
        have hletter := hrest.cons fun h => absurd h hne
        refine ⟨hletter, fun _ => hletter.cons fun _ rest h => ?_⟩
        exact absurd (List.cons.inj h).1 hne
      · rw [htoken, List.cons_append, List.cons_append]
        have hescape : IsEscaped ('_' :: d :: (w ++ s.flatMap tokenChar)) := by
          refine (hrest.append hw).cons fun _ rest h => ?_
          obtain ⟨rfl, -⟩ := List.cons.inj h
          exact absurd List.mem_cons_self hw
        refine ⟨hescape, fun _ => hescape.cons fun _ rest h => ?_⟩
        exact ⟨d, _, (List.cons.inj h).2.symm, hd⟩

/-! ### Parameters of methods -/

section Types

variable {ts us : List JavaType} (hts : ∀ t ∈ ts, t.HasNames IsDeclaredName)
include hts

theorem isEscaped_token :
    IsEscaped ('_' :: (ts.flatMap JavaType.descriptorChars).flatMap tokenChar) := by
  have hfollowed : Text.Followed '/' (· ≠ '/') (ts.flatMap JavaType.descriptorChars) :=
    (JavaType.followed_flatMap_descriptorChars hts).imp fun _ => And.left
  refine (isEscaped_flatMap_tokenChar (JavaType.low_flatMap_descriptorChars hts) hfollowed).2 ?_
  intro hslash
  cases ts with
  | nil => cases hslash
  | cons t ts =>
    obtain ⟨c, rest, hchars, hc⟩ := JavaType.exists_descriptorChars_cons (hts t List.mem_cons_self)
    rw [List.flatMap_cons, hchars] at hslash
    obtain rfl : c = '/' := Option.some.inj hslash
    revert hc
    decide

theorem noEscape_token : NoEscape ((ts.flatMap JavaType.descriptorChars).flatMap tokenChar) := by
  have hnil : NoEscape [] := by simp [NoEscape]
  have h := isCoding_tokenChar.noEscape_flatMap (JavaType.head_flatMap_descriptorChars hts) hnil
  rwa [List.append_nil] at h

/-- The parameters are read back from a suffix. -/
theorem eq_of_token_eq (hus : ∀ u ∈ us, u.HasNames IsDeclaredName)
    (h : (ts.flatMap JavaType.descriptorChars).flatMap tokenChar
      = (us.flatMap JavaType.descriptorChars).flatMap tokenChar) : ts = us := by
  have hdecode {vs : List JavaType} (hvs : ∀ v ∈ vs, v.HasNames IsDeclaredName) :
      decode ((vs.flatMap JavaType.descriptorChars).flatMap tokenChar)
        = marked '/' (vs.flatMap JavaType.descriptorChars) := by
    have hfollowed : Text.Followed '/' (·.isDigit = false) (vs.flatMap JavaType.descriptorChars) :=
      (JavaType.followed_flatMap_descriptorChars hvs).imp fun _ => And.right
    have h := isCoding_tokenChar.decode_flatMap (JavaType.low_flatMap_descriptorChars hvs)
      hfollowed []
    rwa [List.append_nil, decode, List.append_nil] at h
  have hmarked := hdecode hts
  rw [h, hdecode hus] at hmarked
  have hdescribed {vs : List JavaType} (hvs : ∀ v ∈ vs, v.HasNames IsDeclaredName) :
      ∀ v ∈ vs, v.HasNames JavaType.IsDescribed := fun v hv =>
    (hvs v hv).imp fun _ hname => hname.isDescribed
  exact JavaType.eq_of_flatMap_descriptorChars_eq (hdescribed hts) (hdescribed hus)
    (marked_injective '/' hmarked.symm)

end Types

end JniBindings.Symbol

namespace JniBindings.Method

variable {m n : Method} {enclosing : Option JavaType} {s t : String}

theorem overloadSuffix_eq_ok_iff : m.overloadSuffix enclosing = .ok s
    ↔ ∃ d, JavaType.listDescriptor (m.jvmParameters enclosing) = .ok d
      ∧ s = "__" ++ Symbol.token d := by
  rw [overloadSuffix, blame_eq_ok_iff, bind_eq_ok_iff]
  refine exists_congr fun d => and_congr_right fun _ => ?_
  exact ⟨fun h => (Except.ok.inj h).symm, fun h => congrArg Except.ok h.symm⟩

theorem overloadSuffix_spec (hm : ∀ t ∈ m.jvmParameters enclosing, t.NamesHave IsDeclaredName)
    (h : m.overloadSuffix enclosing = .ok s) :
    (∀ t ∈ m.jvmParameters enclosing, t.HasNames IsDeclaredName)
      ∧ s.toList = '_' :: '_' :: ((m.jvmParameters enclosing).flatMap
        JavaType.descriptorChars).flatMap Symbol.tokenChar := by
  obtain ⟨d, hd, rfl⟩ := overloadSuffix_eq_ok_iff.1 h
  rw [JavaType.listDescriptor] at hd
  split_ifs at hd with hall
  obtain rfl := Except.ok.inj hd
  refine ⟨fun t ht => JavaType.hasNames_iff.2 ⟨List.all_eq_true.1 hall t ht, hm t ht⟩, ?_⟩
  simp [Symbol.token, Symbol.write]

/-- The parts of the name of an overloaded function tell the name and the parameters. -/
theorem eq_of_append_overloadSuffix_eq {name name' : String}
    (hm : ∀ t ∈ m.jvmParameters enclosing, t.NamesHave IsDeclaredName)
    (hn : ∀ t ∈ n.jvmParameters enclosing, t.NamesHave IsDeclaredName)
    (hs : m.overloadSuffix enclosing = .ok s) (ht : n.overloadSuffix enclosing = .ok t)
    (h : name ++ s = name' ++ t) :
    name = name' ∧ m.jvmParameters enclosing = n.jvmParameters enclosing := by
  obtain ⟨hmtypes, hschars⟩ := overloadSuffix_spec hm hs
  obtain ⟨hntypes, htchars⟩ := overloadSuffix_spec hn ht
  rw [← String.toList_inj, String.toList_append, String.toList_append, hschars, htchars] at h
  obtain ⟨hname, htoken⟩ := Symbol.eq_of_append_eq (Symbol.isEscaped_token hmtypes)
    (Symbol.isEscaped_token hntypes) (Symbol.noEscape_token hmtypes)
    (Symbol.noEscape_token hntypes) h
  exact ⟨String.toList_inj.1 hname, Symbol.eq_of_token_eq hmtypes hntypes htoken⟩

end JniBindings.Method
