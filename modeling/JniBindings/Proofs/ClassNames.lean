import JniBindings.ClassNames
import JniBindings.Proofs.Text.CodePoint
import JniBindings.Proofs.Word
import Mathlib.Data.List.Basic
/-!
# Names of classes

An identifier is made of letters, digits and underscores, whatever name it is made from. The simple
name of a class is one, and the name of its proxy is made from it.
-/

namespace JniBindings

theorem isWordChar_of_mem_identifier {name : String} {c : Char}
    (h : c ∈ (identifier name).toList) : isWordChar c := by
  rw [identifier, String.toList_ofList, List.mem_flatMap] at h
  obtain ⟨d, -, hc⟩ := h
  rw [identifierChar] at hc
  split at hc
  · next hword =>
    rw [List.mem_singleton.1 hc]
    exact hword
  · rcases List.mem_cons.1 hc with rfl | hc
    · decide
    · rw [isWordChar, Text.isAlphanum_of_mem_codePoint hc, Bool.true_or]

theorem identifier_of_isWord {s : String} (h : IsWord s) : identifier s = s := by
  have hchar : ∀ c ∈ s.toList, identifierChar c = [c] := fun c hc =>
    if_pos (List.all_eq_true.1 h.2 c hc)
  rw [identifier, List.flatMap_congr hchar, List.flatMap_singleton', String.ofList_toList]

namespace ClassNames

variable {c : ClassModel} {names : ClassNames}

/-- All forms of a name are made from the names in the class model. -/
structure IsMadeFrom (c : ClassModel) (names : ClassNames) : Prop where
  simple : names.simple = identifier (Text.trim c.simpleName)
  qualified : names.qualified = Text.trim c.name
  slashed : names.slashed = Text.replaceChar '.' '/' (Text.trim c.name)
  symbol : names.symbol = Symbol.className (Text.trim c.name)
  proxy : names.proxy = names.simple ++ proxyEnding
  enclosingInstance : names.enclosingInstance = c.enclosingInstance

/-- The class model is called something, by a dotted name. -/
structure IsNamed (c : ClassModel) : Prop where
  name : ¬ (Text.trim c.name).isEmpty
  simpleName : ¬ (Text.trim c.simpleName).isEmpty
  dotted : ¬ (Text.trim c.name).toList.any isForeignChar

theorem isNamed_and_isMadeFrom_of_ofModel (h : ofModel c = .ok names) :
    IsNamed c ∧ names.IsMadeFrom c := by
  unfold ofModel at h
  dsimp only at h
  split at h
  · cases h
  · next hname =>
    split at h
    · cases h
    · next hsimple =>
      split at h
      · cases h
      · next hdotted =>
        have hnames := Except.ok.inj h
        subst hnames
        exact ⟨⟨hname, hsimple, hdotted⟩, ⟨rfl, rfl, rfl, rfl, rfl, rfl⟩⟩

theorem isMadeFrom_of_ofModel (h : ofModel c = .ok names) : names.IsMadeFrom c :=
  (isNamed_and_isMadeFrom_of_ofModel h).2

/-- A class has names if it is called something and its qualified name is a dotted one. -/
theorem exists_ofModel (hname : ¬ (Text.trim c.name).isEmpty)
    (hsimple : ¬ (Text.trim c.simpleName).isEmpty)
    (hbinary : ¬ (Text.trim c.name).toList.any isForeignChar) :
    ∃ names, ofModel c = .ok names ∧ names.IsMadeFrom c := by
  obtain ⟨names, hnames⟩ : ∃ names, ofModel c = .ok names := by
    rw [ofModel, if_neg hname, if_neg hsimple, if_neg hbinary]
    exact ⟨_, rfl⟩
  exact ⟨names, hnames, isMadeFrom_of_ofModel hnames⟩

theorem IsMadeFrom.isWordChar_of_mem_simple (h : names.IsMadeFrom c) {d : Char}
    (hd : d ∈ names.simple.toList) : isWordChar d :=
  isWordChar_of_mem_identifier (h.simple ▸ hd)

theorem IsMadeFrom.isWord_proxy (h : names.IsMadeFrom c) : IsWord names.proxy := by
  have hending : proxyEnding.toList.all isWordChar := by decide
  rw [h.proxy, IsWord, String.toList_append, List.all_eq_true]
  refine ⟨List.append_ne_nil_of_right_ne_nil _ (by decide), fun d hd => ?_⟩
  rcases List.mem_append.1 hd with hd | hd
  · exact h.isWordChar_of_mem_simple hd
  · exact List.all_eq_true.1 hending d hd

end ClassNames

end JniBindings
