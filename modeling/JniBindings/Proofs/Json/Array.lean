import JniBindings.Json.Reader
import JniBindings.Proofs.Namespace
import Mathlib.Data.List.Forall2
/-!
# Arrays of JSON texts

The text of an array holds the texts of its elements, and each of them is read there as it is read
alone. For the tokens this is so because neither a comma nor a closing bracket goes on with a word
or a number (`Json.tokens?_append`), and for the values because what is read inside an array never
looks at the array (`Json.foldlM_step?_above`). So an array of texts is read as the array of their
values (`Json.parse?_array`).
-/

namespace JniBindings.Json

/-! ### Tokens in front of a text -/

theorem withPiece_append {piece : Piece} {read read' : Option (List Piece × List Char)}
    {pieces : List Piece} {after rest : List Char} (h : withPiece piece read = some (pieces, after))
    (hread : ∀ others, read = some (others, after) → read' = some (others, after ++ rest)) :
    withPiece piece read' = some (pieces, after ++ rest) := by
  obtain ⟨others, hothers, rfl⟩ := withPiece_eq_some_iff.1 h
  exact withPiece_eq_some_iff.2 ⟨others, hread others hothers, rfl⟩

theorem readString_append {s after : List Char} {pieces : List Piece}
    (h : readString s = some (pieces, after)) (rest : List Char) :
    readString (s ++ rest) = some (pieces, after ++ rest) := by
  fun_induction readString s generalizing pieces after with
  | case1 | case3 | case5 | case6 | case8 | case9 => cases h
  | case2 s =>
    obtain ⟨rfl, rfl⟩ := Prod.mk.inj (Option.some.inj h)
    rw [List.cons_append, readString.eq_def]
    rfl
  | case4 h₁ h₂ h₃ h₄ s n hn _ ih =>
    simpa [readString, hn] using withPiece_append h fun _ => ih
  | case7 e s he d hd _ ih =>
    rw [List.cons_append, readString.eq_def]
    simpa [he, hd] using withPiece_append h fun _ => ih
  | case10 c s hquote hbackslash hcontrol ih =>
    rw [List.cons_append, readString.eq_def]
    simpa [hquote, hbackslash, hcontrol] using withPiece_append h fun _ => ih

theorem tokens?_space {c : Char} (hc : isSpace c) (s : List Char) :
    tokens? (c :: s) = tokens? s := by
  rw [tokens?, if_pos hc]

theorem tokens?_punctuation {c : Char} {token : Token} (hc : punctuation? c = some token)
    (s : List Char) : tokens? (c :: s) = (tokens? s).map (token :: ·) := by
  have hspace : ¬ isSpace c := by
    intro hspace
    simp only [isSpace, Bool.or_eq_true, decide_eq_true_eq] at hspace
    rcases hspace with ((rfl | rfl) | rfl) | rfl <;> cases hc
  rw [tokens?, if_neg hspace, hc]

theorem tokens?_string {s after : List Char} {pieces : List Piece}
    (h : readString s = some (pieces, after)) :
    tokens? ('"' :: s) = (tokens? after).map (.string pieces :: ·) := by
  have hspace : ¬ isSpace '"' := by decide
  have hpunctuation : punctuation? '"' = none := by decide
  rw [tokens?, if_neg hspace, hpunctuation]
  dsimp only
  rw [if_pos rfl]
  split
  · next h' =>
    rw [h] at h'
    obtain ⟨rfl, rfl⟩ := Prod.mk.inj (Option.some.inj h')
    rfl
  · next h' => rw [h] at h'; cases h'

theorem tokens?_word {c : Char} {s : List Char} {token : Token} (hspace : ¬ isSpace c)
    (hc : punctuation? c = none) (hquote : c ≠ '"') (hword : c.isAlpha)
    (htoken : word? (c :: s.takeWhile Char.isAlpha) = some token) :
    tokens? (c :: s) = (tokens? (s.dropWhile Char.isAlpha)).map (token :: ·) := by
  rw [tokens?, if_neg hspace, hc]
  dsimp only
  rw [if_neg hquote, if_pos hword, htoken]

theorem tokens?_number {c : Char} {s : List Char} {n : Number} (hspace : ¬ isSpace c)
    (hc : punctuation? c = none) (hquote : c ≠ '"') (hword : ¬ c.isAlpha)
    (hn : number? (c :: s.takeWhile isNumberChar) = some n) :
    tokens? (c :: s) = (tokens? (s.dropWhile isNumberChar)).map (.number n :: ·) := by
  rw [tokens?, if_neg hspace, hc]
  dsimp only
  rw [if_neg hquote, if_neg hword, hn]

/-- Nothing at the front of the text goes on with a word or a number. -/
def EndsToken (s : List Char) : Prop :=
  ∀ c, s.head? = some c → c.isAlpha = false ∧ isNumberChar c = false

theorem endsToken_cons {c : Char} (hword : c.isAlpha = false) (hnumber : isNumberChar c = false)
    (s : List Char) : EndsToken (c :: s) := by
  intro d hd
  obtain rfl : c = d := Option.some.inj hd
  exact ⟨hword, hnumber⟩

/-- The longest prefix with a property ends in front of a text that begins without it. -/
theorem takeWhile_append_of_head? {p : Char → Bool} {s rest : List Char}
    (h : ∀ c, rest.head? = some c → p c = false) :
    (s ++ rest).takeWhile p = s.takeWhile p ∧ (s ++ rest).dropWhile p = s.dropWhile p ++ rest := by
  induction s with
  | nil =>
    cases rest with
    | nil => exact ⟨rfl, rfl⟩
    | cons c rest => simp [h c rfl]
  | cons c s ih =>
    by_cases hc : p c
    · simp [hc, ih]
    · simp [hc]

/-- The tokens of a text come first if another text follows that does not go on with the last of
them. -/
theorem tokens?_append {s rest : List Char} {tokens : List Token} (h : tokens? s = some tokens)
    (hrest : EndsToken rest) : tokens? (s ++ rest) = (tokens? rest).map (tokens ++ ·) := by
  have hcons (token : Token) (others : List Token) :
      ((tokens? rest).map (others ++ ·)).map (token :: ·)
        = (tokens? rest).map (token :: others ++ ·) := Option.map_map ..
  fun_induction tokens? s generalizing tokens with
  | case1 =>
    obtain rfl := Option.some.inj h
    exact Option.map_id'.symm
  | case2 c s hspace ih =>
    rw [List.cons_append, tokens?_space hspace]
    exact ih h
  | case3 c s _ token hc ih =>
    obtain ⟨others, hs, rfl⟩ := Option.map_eq_some_iff.1 h
    rw [List.cons_append, tokens?_punctuation hc, ih hs, hcons]
  | case4 s pieces after hread _ _ _ ih =>
    obtain ⟨others, hs, rfl⟩ := Option.map_eq_some_iff.1 h
    rw [List.cons_append, tokens?_string (readString_append hread rest), ih hs, hcons]
  | case6 c s hspace hc hquote hword _ token htoken ih =>
    obtain ⟨others, hs, rfl⟩ := Option.map_eq_some_iff.1 h
    -- The word ends with the text, since no letter follows.
    obtain ⟨htake, hdrop⟩ := takeWhile_append_of_head? (s := s) fun d hd => (hrest d hd).1
    rw [← htake] at htoken
    rw [List.cons_append, tokens?_word hspace hc hquote hword htoken, hdrop, ih hs, hcons]
  | case8 c s hspace hc hquote hword _ n hn ih =>
    obtain ⟨others, hs, rfl⟩ := Option.map_eq_some_iff.1 h
    obtain ⟨htake, hdrop⟩ := takeWhile_append_of_head? (s := s) fun d hd => (hrest d hd).2
    rw [← htake] at hn
    rw [List.cons_append, tokens?_number hspace hc hquote hword hn, hdrop, ih hs, hcons]
  | case5 | case7 | case9 => cases h

/-! ### Values inside a container -/

/-- What comes next if the open containers stand inside others. -/
def Reading.above (outer : List Container) : Reading → Reading
  | value opened => value (opened ++ outer)
  | firstElement opened => firstElement (opened ++ outer)
  | firstKey opened => firstKey (opened ++ outer)
  | nextKey done opened => nextKey done (opened ++ outer)
  | colon done key opened => colon done key (opened ++ outer)
  | after v opened => after v (opened ++ outer)

theorem beginValue?_append {opened : List Container} {token : Token} {r : Reading}
    (h : beginValue? opened token = some r) (outer : List Container) :
    beginValue? (opened ++ outer) token = some (r.above outer) := by
  cases token <;> cases h <;> rfl

theorem afterValue?_append {v : Json} {opened : List Container} {token : Token} {r : Reading}
    (h : afterValue? v opened token = some r) (outer : List Container) :
    afterValue? v (opened ++ outer) token = some (r.above outer) := by
  rcases opened with _ | ⟨_ | _, opened⟩ <;> cases token <;> cases h <;> rfl

/-- What comes first in an array, if anything does, begins a value. -/
theorem step?_firstElement_of_ne {token : Token} (h : token ≠ .closeArray)
    {opened : List Container} :
    (Reading.firstElement opened).step? token = beginValue? (.array [] :: opened) token := by
  cases token with
  | closeArray => exact absurd rfl h
  | _ => rfl

/-- A step that is possible in the open containers does the same if these stand inside others. -/
theorem step?_above {r r' : Reading} {token : Token} (h : r.step? token = some r')
    (outer : List Container) : (r.above outer).step? token = some (r'.above outer) := by
  cases r with
  | value opened => exact beginValue?_append h outer
  | firstElement opened =>
    by_cases hclose : token = .closeArray
    · subst hclose
      cases h
      rfl
    · rw [step?_firstElement_of_ne hclose] at h
      exact (step?_firstElement_of_ne hclose).trans (beginValue?_append h outer)
  | firstKey | nextKey | colon => cases token <;> cases h <;> rfl
  | after v opened => exact afterValue?_append h outer

theorem foldlM_step?_above {r r' : Reading} {tokens : List Token}
    (h : tokens.foldlM Reading.step? r = some r') (outer : List Container) :
    tokens.foldlM Reading.step? (r.above outer) = some (r'.above outer) := by
  induction tokens generalizing r with
  | nil =>
    obtain rfl := Option.some.inj h
    rfl
  | cons token tokens ih =>
    rw [List.foldlM_cons] at h ⊢
    obtain ⟨next, hnext, h⟩ := Option.bind_eq_some_iff.1 h
    exact Option.bind_eq_some_iff.2 ⟨next.above outer, step?_above hnext outer, ih h⟩

/-! ### Texts -/

/-- Reading the text moves from one reading to the other. -/
def Reads (r : Reading) (s : List Char) (r' : Reading) : Prop :=
  ∃ tokens, tokens? s = some tokens ∧ tokens.foldlM Reading.step? r = some r'

theorem Reading.result?_eq_some_iff {r : Reading} {v : Json} :
    r.result? = some v ↔ r = .after v [] := by
  constructor
  · intro h
    rcases r with _ | _ | _ | _ | _ | ⟨w, _ | _⟩ <;> cases h
    rfl
  · rintro rfl
    rfl

theorem parse?_eq_some_iff {text : String} {v : Json} :
    parse? text = some v ↔ Reads (.value []) text.toList (.after v []) := by
  constructor
  · intro h
    obtain ⟨tokens, htokens, h⟩ := Option.bind_eq_some_iff.1 h
    obtain ⟨final, hfinal, h⟩ := Option.bind_eq_some_iff.1 h
    exact ⟨tokens, htokens, Reading.result?_eq_some_iff.1 h ▸ hfinal⟩
  · rintro ⟨tokens, htokens, hfinal⟩
    refine Option.bind_eq_some_iff.2 ⟨tokens, htokens, ?_⟩
    exact Option.bind_eq_some_iff.2 ⟨_, hfinal, Reading.result?_eq_some_iff.2 rfl⟩

theorem Reads.above {r r' : Reading} {s : List Char} (h : Reads r s r') (outer : List Container) :
    Reads (r.above outer) s (r'.above outer) := by
  obtain ⟨tokens, htokens, h⟩ := h
  exact ⟨tokens, htokens, foldlM_step?_above h outer⟩

/-- A value is read wherever a value may come. -/
theorem reads_value {text : String} {v : Json} (h : parse? text = some v)
    (opened : List Container) : Reads (.value opened) text.toList (.after v opened) :=
  (parse?_eq_some_iff.1 h).above opened

theorem Reads.append {r r' r'' : Reading} {s rest : List Char} (h : Reads r s r')
    (hrest : Reads r' rest r'') (hends : EndsToken rest) : Reads r (s ++ rest) r'' := by
  obtain ⟨tokens, htokens, h⟩ := h
  obtain ⟨others, hothers, hrest⟩ := hrest
  refine ⟨tokens ++ others, ?_, ?_⟩
  · rw [tokens?_append htokens hends, hothers]
    rfl
  · rw [List.foldlM_append, h]
    exact hrest

theorem Reads.punctuation {c : Char} (token : Token) (hc : punctuation? c = some token)
    {r r' r'' : Reading} (hstep : r.step? token = some r') {s : List Char} (h : Reads r' s r'') :
    Reads r (c :: s) r'' := by
  obtain ⟨tokens, htokens, h⟩ := h
  refine ⟨token :: tokens, ?_, ?_⟩
  · rw [tokens?_punctuation hc, htokens]
    rfl
  · rw [List.foldlM_cons, hstep]
    exact h

theorem Reads.space {space : List Char} (hspace : space.all isSpace) {r r' : Reading}
    {s : List Char} (h : Reads r s r') : Reads r (space ++ s) r' := by
  induction space with
  | nil => exact h
  | cons c space ih =>
    rw [List.all_cons, Bool.and_eq_true] at hspace
    obtain ⟨tokens, htokens, h⟩ := ih hspace.2
    exact ⟨tokens, (tokens?_space hspace.1 _).trans htokens, h⟩

theorem reads_nil (r : Reading) : Reads r [] r := ⟨[], by rw [tokens?], rfl⟩

/-- What is read as a value may come first in an array. -/
theorem Reads.firstElement {v : Json} {opened : List Container} {s : List Char}
    (h : Reads (.value (.array [] :: opened)) s (.after v opened)) :
    Reads (.firstElement opened) s (.after v opened) := by
  obtain ⟨_ | ⟨token, tokens⟩, htokens, h⟩ := h
  · cases h
  · rw [List.foldlM_cons] at h
    obtain ⟨next, hnext, h⟩ := Option.bind_eq_some_iff.1 h
    have hclose : token ≠ .closeArray := by
      rintro rfl
      cases hnext
    refine ⟨token :: tokens, htokens, ?_⟩
    rw [List.foldlM_cons, step?_firstElement_of_ne hclose]
    exact Option.bind_eq_some_iff.2 ⟨next, hnext, h⟩

/-! ### Arrays -/

/-- The elements of an array are read one after the other, up to the bracket that closes it. -/
theorem reads_elements {text : String} {texts : List String} {v : Json} {vs : List Json}
    (done : List Json) {opened : List Container} {after : List Char} {r : Reading}
    (htext : parse? text = some v)
    (htexts : List.Forall₂ (fun text v => parse? text = some v) texts vs)
    (hafter : Reads (.after (array (done.reverse ++ v :: vs)) opened) after r) :
    Reads (.value (.array done :: opened))
      ((Text.joinWith "," (text :: texts)).toList ++ ']' :: after) r := by
  -- What has been read of the array grows by one element with every comma.
  induction htexts generalizing text v done with
  | nil =>
    refine (reads_value htext _).append (.punctuation .closeArray rfl rfl ?_)
      (endsToken_cons rfl rfl _)
    rwa [List.reverse_cons]
  | @cons next w texts vs hnext _ ih =>
    rw [Text.joinWith_cons_of_ne_nil _ _ (List.cons_ne_nil next texts), String.toList_append,
      String.toList_append, List.append_assoc, List.append_assoc]
    refine (reads_value htext _).append (.punctuation .comma rfl rfl ?_)
      (endsToken_cons rfl rfl _)
    refine ih (v :: done) hnext ?_
    rwa [List.reverse_cons, List.append_assoc]

/-- The text is an array with the texts as its elements, and with white space around and inside. -/
def IsArrayOf (text : String) (texts : List String) : Prop :=
  ∃ before inside after : List Char,
    before.all isSpace ∧ inside.all isSpace ∧ after.all isSpace ∧
      text.toList
        = before ++ '[' :: (inside ++ ((Text.joinWith "," texts).toList ++ ']' :: after))

/-- An array of texts is read as the array of what the texts are read as. -/
theorem parse?_array {text : String} {texts : List String} {vs : List Json}
    (htext : IsArrayOf text texts)
    (htexts : List.Forall₂ (fun text v => parse? text = some v) texts vs) :
    parse? text = some (array vs) := by
  obtain ⟨before, inside, after, hbefore, hinside, hafter, htext⟩ := htext
  have hend : Reads (.after (array vs) []) after (.after (array vs) []) := by
    rw [← List.append_nil after]
    exact .space hafter (reads_nil _)
  rw [parse?_eq_some_iff, htext]
  refine .space hbefore (.punctuation .openArray rfl rfl (.space hinside ?_))
  cases htexts with
  | nil => exact .punctuation .closeArray rfl rfl hend
  | cons hfirst hothers =>
    exact Reads.firstElement (reads_elements [] hfirst hothers hend)

end JniBindings.Json
