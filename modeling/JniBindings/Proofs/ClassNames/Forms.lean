import JniBindings.Proofs.ClassNames
import JniBindings.Proofs.Member
import JniBindings.Proofs.Namespace
import JniBindings.Proofs.Text.Segments
/-!
# A class as an owner and as a type

The name of a class is mangled in two ways. In front of the name of a native method stands the
dotted name: it is cut at the dots, its parts are escaped one by one, and underscores join them
(`Symbol.className_eq_joinWith`). Behind the name of an overloaded method stands the descriptor of
its parameters, where the name has slashes, and brackets and semicolons have short forms. Both give
the same, because a dotted name that is accepted holds none of the characters on which the two
differ (`Symbol.write_descriptorChar_slashed`). So all forms of the name of a class agree
(`ClassNames.forms_agree`).
-/

namespace JniBindings

/-! ### Mangled names -/

namespace Symbol

/-- A mangled class name consists of the escaped segments of the name, joined by underscores. -/
theorem className_eq_joinWith (name : String) :
    className name
      = Text.joinWith "_"
          ((Text.splitOn '.' name.toList).map fun s => escape (String.ofList s)) := by
  suffices h : ∀ s : List Char, String.ofList (s.flatMap classChar)
      = Text.joinWith "_" ((Text.splitOn '.' s).map fun s => escape (String.ofList s)) from
    h name.toList
  intro s
  induction s with
  | nil => rfl
  | cons c s ih =>
    by_cases hc : c = '.'
    · subst hc
      have hne : (Text.splitOn '.' s).map (fun s => escape (String.ofList s)) ≠ [] := by
        simpa using Text.splitOn_ne_nil '.' s
      rw [Text.splitOn_cons_self, List.map_cons, Text.joinWith_cons_of_ne_nil _ _ hne, ← ih,
        ← String.toList_inj]
      simp [escape, write, classChar]
    · -- The character goes in front of the first segment, and its escape in front of that one's.
      obtain ⟨part, parts, hs, hcs⟩ := Text.exists_splitOn_cons hc s
      have hescape : escape (String.ofList (c :: part))
          = String.ofList (escapeChar c) ++ escape (String.ofList part) := by
        rw [← String.toList_inj]
        simp [escape, write]
      rw [hs, List.map_cons] at ih
      rw [hcs, List.map_cons, hescape, Text.joinWith_append_cons, ← ih, ← String.toList_inj]
      simp [classChar, hc]

/-- A slashed name in a descriptor is mangled like the dotted name that it is made from. -/
theorem write_descriptorChar_slashed {name : String}
    (h : ∀ c ∈ name.toList, ClassNames.isForeignChar c = false) :
    write descriptorChar (Text.replaceChar '.' '/' name) = className name := by
  rw [className, write, write, JavaType.toList_replaceChar, List.flatMap_map]
  congr 1
  refine List.flatMap_congr fun c hc => ?_
  have hforeign := h c hc
  simp only [ClassNames.isForeignChar, Bool.or_eq_false_iff, decide_eq_false_iff_not] at hforeign
  obtain ⟨⟨⟨hslash, hsemicolon⟩, hbracket⟩, -⟩ := hforeign
  by_cases hdot : c = '.'
  · subst hdot
    rfl
  · simp [descriptorChar, classChar, hdot, hslash, hsemicolon, hbracket]

end Symbol

/-! ### Names that are accepted -/

namespace ClassNames

variable {c : ClassModel} {names : ClassNames}

/-- The qualified name of a class with names is a dotted name that is not empty. -/
theorem qualified_of_ofModel (h : ofModel c = .ok names) :
    names.qualified.toList ≠ [] ∧ ∀ d ∈ names.qualified.toList, isForeignChar d = false := by
  obtain ⟨hnamed, hmade⟩ := isNamed_and_isMadeFrom_of_ofModel h
  rw [hmade.qualified]
  refine ⟨by simpa using hnamed.name, fun d hd => ?_⟩
  simpa using fun hforeign => hnamed.dotted (List.any_eq_true.2 ⟨d, hd, hforeign⟩)

theorem isDescribed_qualified (h : ofModel c = .ok names) :
    JavaType.IsDescribed names.qualified := by
  obtain ⟨hne, hforeign⟩ := qualified_of_ofModel h
  refine ⟨hne, fun hslash => ?_, fun hsemicolon => ?_⟩
  · exact absurd (hforeign '/' hslash) (by decide)
  · exact absurd (hforeign ';' hsemicolon) (by decide)

/-- The descriptor of a class with names. -/
theorem descriptor_qualified (h : ofModel c = .ok names) :
    (JavaType.declared names.qualified).descriptor = .ok ("L" ++ names.slashed ++ ";") := by
  have hmade := isMadeFrom_of_ofModel h
  have hdescribable : (JavaType.declared names.qualified).isDescribable := rfl
  rw [JavaType.descriptor, if_pos hdescribable, hmade.slashed, hmade.qualified]
  refine congrArg Except.ok ?_
  rw [← String.toList_inj]
  simp [JavaType.descriptorChars]

/-- The forms of the name of a class agree: its descriptor holds the slashed name and is read back
as the class, and behind the name of an overloaded method it is mangled like the class in front of
it, whose dotted name is mangled segment by segment. -/
theorem forms_agree (h : ofModel c = .ok names) :
    (JavaType.declared names.qualified).descriptor = .ok ("L" ++ names.slashed ++ ";")
      ∧ JavaType.ofDescriptor ("L" ++ names.slashed ++ ";") = .ok (.declared names.qualified)
      ∧ (∀ owner method, Symbol.long owner method ("L" ++ names.slashed ++ ";")
          = Symbol.short owner method ++ "__" ++ ("L" ++ names.symbol ++ "_2"))
      ∧ names.symbol = Text.joinWith "_"
          ((Text.splitOn '.' names.qualified.toList).map fun s => Symbol.escape (String.ofList s))
      := by
  have hmade := isMadeFrom_of_ofModel h
  have hdescriptor := descriptor_qualified h
  refine ⟨hdescriptor, ?_, fun owner method => ?_, ?_⟩
  · exact JavaType.ofDescriptor_of_descriptor hdescriptor (isDescribed_qualified h)
  · have hslashed : Symbol.write Symbol.descriptorChar names.slashed = names.symbol := by
      rw [hmade.slashed, hmade.symbol, ← hmade.qualified]
      exact Symbol.write_descriptorChar_slashed (qualified_of_ofModel h).2
    rw [Symbol.long, ← hslashed, ← String.toList_inj]
    simp [Symbol.write, Symbol.descriptorChar, Symbol.escapeChar]
  · rw [hmade.symbol, hmade.qualified]
    exact Symbol.className_eq_joinWith _

/-- A nested class in a package with an underscore, whose own name is not ASCII. -/
theorem forms_agree_nested :
    ∃ names, ofModel (.ofName "my_app.Outer$Größe") = .ok names
      ∧ (JavaType.declared names.qualified).descriptor = .ok "Lmy_app/Outer$Größe;"
      ∧ JavaType.ofDescriptor "Lmy_app/Outer$Größe;" = .ok (.declared "my_app.Outer$Größe")
      ∧ Symbol.long names.symbol "f" "Lmy_app/Outer$Größe;"
        = "Java_my_1app_Outer_00024Gr_000f6_000dfe_f__Lmy_1app_Outer_00024Gr_000f6_000dfe_2" := by
  obtain ⟨names, hnames, hmade⟩ := exists_ofModel (c := .ofName "my_app.Outer$Größe")
    (by decide) (by decide) (by decide)
  have hqualified : names.qualified = "my_app.Outer$Größe" := hmade.qualified.trans (by decide)
  have hslashed : names.slashed = "my_app/Outer$Größe" := hmade.slashed.trans (by decide)
  have hsymbol : names.symbol = "my_1app_Outer_00024Gr_000f6_000dfe" :=
    hmade.symbol.trans (by decide)
  obtain ⟨hdescriptor, hread, hlong, -⟩ := forms_agree hnames
  have htext : "L" ++ names.slashed ++ ";" = "Lmy_app/Outer$Größe;" := by rw [hslashed]; decide
  rw [htext] at hdescriptor hread hlong
  refine ⟨names, hnames, hdescriptor, ?_, ?_⟩
  · rw [hread, hqualified]
  · rw [hlong, hsymbol]
    decide

end ClassNames

end JniBindings
