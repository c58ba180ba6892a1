import JniBindings.Proofs.Cpp.StringBody
import JniBindings.Proofs.Text.Lines
import JniBindings.Proofs.Word
/-!
# Tokens of generated C++

`lineTokens?` reads a line as words, string literals and single marks. It goes along the characters
and keeps what it has begun (`Scan`), so what it reads from two texts one after the other is told by
what it reads from each (`run_append`). A text `Yields` tokens if reading it begins and ends between
two tokens; lines are put together from such texts.
-/

namespace JniBindings.Cpp

/-- A word, the text between the quotes of a string literal, or any other character. -/
inductive LineToken
  | word (s : String)
  | literal (body : String)
  | mark (c : Char)
deriving DecidableEq, Repr

/-- What has been begun: nothing, a word, or a string literal. Nothing goes on behind a character
that ends a line. -/
inductive Scan
  | between
  | inWord (front : List Char)
  | inLiteral (front : List Char)
  | broken
deriving DecidableEq, Repr

namespace Scan

/-- A character that belongs to nothing that has been begun. -/
def start (c : Char) : Scan × List LineToken :=
  if endsLine c then (broken, [])
  else if c = ' ' then (between, [])
  else if c = '"' then (inLiteral [], [])
  else if isWordChar c then (inWord [c], [])
  else (between, [.mark c])

/-- The next character, and the tokens that end with it or in front of it. -/
def next (c : Char) : Scan → Scan × List LineToken
  | between => start c
  | inWord front =>
    if isWordChar c then (inWord (front ++ [c]), [])
    else ((start c).1, .word (String.ofList front) :: (start c).2)
  | inLiteral front =>
    if endsLine c then (broken, [])
    else if c = '"' && !opensEscape front then (between, [.literal (String.ofList front)])
    else (inLiteral (front ++ [c]), [])
  | broken => (broken, [])

/-- The characters of a text, one after the other. -/
def run : Scan → List Char → Scan × List LineToken
  | s, [] => (s, [])
  | s, c :: rest => ((run (s.next c).1 rest).1, (s.next c).2 ++ (run (s.next c).1 rest).2)

theorem run_append (s : Scan) (front rest : List Char) :
    s.run (front ++ rest)
      = (((s.run front).1.run rest).1, (s.run front).2 ++ ((s.run front).1.run rest).2) := by
  induction front generalizing s with
  | nil => rfl
  | cons c front ih =>
    simp only [List.cons_append, run, ih (s.next c).1, List.append_assoc]

theorem run_broken (s : List Char) : broken.run s = (broken, []) := by
  induction s with
  | nil => rfl
  | cons c s ih => simp only [run, next, ih, List.append_nil]

theorem next_of_endsLine {c : Char} (hc : endsLine c) (s : Scan) : (s.next c).1 = broken := by
  have hstart : (start c).1 = broken := by rw [start, if_pos hc]
  have hword : isWordChar c = false := by
    rcases eq_of_endsLine hc with rfl | rfl <;> rfl
  cases s with
  | between => exact hstart
  | inWord front =>
    rw [next, if_neg (by simp [hword])]
    exact hstart
  | inLiteral front => rw [next, if_pos hc]
  | broken => rfl

end Scan

/-- The tokens of a line, if it does not break off in a string literal. -/
def lineTokens? (line : List Char) : Option (List LineToken) :=
  match Scan.between.run line with
  | (.between, ts) => some ts
  | (.inWord front, ts) => some (ts ++ [.word (String.ofList front)])
  | _ => none

/-- The tokens of all lines of a text, line by line, without those of blank lines. -/
def tokenLines? (text : List Char) : Option (List (List LineToken)) :=
  ((Text.lines text).mapM lineTokens?).map (·.filter (· ≠ []))

theorem isLine_of_lineTokens? {line : List Char} {ts : List LineToken}
    (h : lineTokens? line = some ts) : Text.IsLine line := by
  have hends : ∀ c ∈ line, endsLine c = false := by
    intro c hc
    by_contra hends
    obtain ⟨front, rest, rfl⟩ := List.append_of_mem hc
    have hbroken : (Scan.between.run (front ++ c :: rest)).1 = .broken := by
      rw [Scan.run_append, Scan.run, Scan.next_of_endsLine (Bool.not_eq_false _ ▸ hends),
        Scan.run_broken]
    rw [lineTokens?] at h
    split at h
    · next heq => rw [heq] at hbroken; cases hbroken
    · next heq => rw [heq] at hbroken; cases hbroken
    · cases h
  refine ⟨fun hc => absurd (hends _ hc) (by decide), fun hc => ?_⟩
  exact absurd (hends _ (List.mem_of_getLast? hc)) (by decide)

/-! ### Literals -/

/-- Between two quotes the text is one literal: it does not leave its line, and quotes in it and the
one behind it are escaped or not as they should be. -/
structure IsEnclosed (body : List Char) : Prop where
  quote : ∀ front rest, body = front ++ '"' :: rest → opensEscape front
  lineEnd : ∀ c ∈ body, endsLine c = false
  complete : opensEscape body = false

theorem opensEscape_concat (front : List Char) (c : Char) :
    opensEscape (front ++ [c]) = (!opensEscape front && c = '\\') := by
  rw [opensEscape, List.foldl_append]
  rfl

theorem IsLiteralBody.isEnclosed {body : List Char} (h : IsLiteralBody body) :
    IsEnclosed body where
  quote := h.quote
  lineEnd c hc := by
    by_contra hends
    rcases eq_of_endsLine (Bool.not_eq_false _ ▸ hends) with rfl | rfl
    · exact h.lineEnd.1 hc
    · exact h.lineEnd.2 hc
  complete := by
    rcases List.eq_nil_or_concat body with rfl | ⟨front, c, rfl⟩
    · rfl
    · rw [List.concat_eq_append, opensEscape_concat]
      cases hfront : opensEscape front with
      | true => rfl
      | false =>
        have hc : c ≠ '\\' := by
          rintro rfl
          obtain ⟨d, hd, -⟩ := h.backslash front [] List.concat_eq_append hfront
          cases hd
        simp [hc]

theorem isOrdinary_of_isWordChar {c : Char} (h : isWordChar c) : isOrdinary c := by
  have hne (d : Char) (hd : isWordChar d = false) : c ≠ d := fun heq => by simp [heq, hd] at h
  simp [isOrdinary, endsLine, hne '"' rfl, hne '\\' rfl, hne '\n' rfl, hne '\r' rfl]

theorem isEnclosed_of_all {body : List Char} (h : body.all isOrdinary) : IsEnclosed body where
  quote front rest hbody := by
    have hmem : '"' ∈ body := hbody ▸ List.mem_append_right front List.mem_cons_self
    cases List.all_eq_true.1 h '"' hmem
  lineEnd c hc := endsLine_of_isOrdinary (List.all_eq_true.1 h c hc)
  complete := by
    rcases List.eq_nil_or_concat body with rfl | ⟨front, c, rfl⟩
    · rfl
    · have hc := ne_backslash_of_isOrdinary (List.all_eq_true.1 h c (by simp))
      rw [List.concat_eq_append, opensEscape_concat]
      simp [hc]

/-! ### Texts put together -/

/-- Reading a text from between two tokens gives some tokens and ends between two tokens again. -/
def Yields (s : String) (ts : List LineToken) : Prop := Scan.between.run s.toList = (.between, ts)

instance (s : String) (ts : List LineToken) : Decidable (Yields s ts) :=
  inferInstanceAs (Decidable (_ = _))

namespace Yields

variable {s t : String} {ts us : List LineToken}

theorem append (hs : Yields s ts) (ht : Yields t us) : Yields (s ++ t) (ts ++ us) := by
  have hs : Scan.between.run s.toList = (.between, ts) := hs
  have ht : Scan.between.run t.toList = (.between, us) := ht
  rw [Yields, String.toList_append, Scan.run_append, hs, ht]

theorem lineTokens? (h : Yields s ts) : lineTokens? s.toList = some ts := by
  have h : Scan.between.run s.toList = (.between, ts) := h
  rw [Cpp.lineTokens?, h]

/-- The characters of a literal are at hand, while `toList` would have to decode them. -/
theorem ofList {s : List Char} (h : Scan.between.run s = (.between, ts)) :
    Yields (String.ofList s) ts := by
  rwa [Yields, String.toList_ofList]

theorem spaces (n : Nat) : Yields (String.ofList (List.replicate n ' ')) [] := by
  rw [Yields, String.toList_ofList]
  induction n with
  | zero => rfl
  | succ n ih =>
    rw [List.replicate_succ, Scan.run]
    exact ih

theorem run_inWord (front : List Char) {s : List Char} (hs : s.all isWordChar) :
    (Scan.inWord front).run s = (.inWord (front ++ s), []) := by
  induction s generalizing front with
  | nil => rw [List.append_nil]; rfl
  | cons c s ih =>
    obtain ⟨hc, hs⟩ := Bool.and_eq_true_iff.1 hs
    have hnext : (Scan.inWord front).next c = (.inWord (front ++ [c]), []) := if_pos hc
    rw [Scan.run, hnext, ih _ hs, List.append_assoc]
    rfl

theorem start_of_isWordChar {c : Char} (h : isWordChar c) : Scan.start c = (.inWord [c], []) := by
  have hc := toNat_of_isWordChar h
  have hne (d : Char) (hd : ¬ (48 ≤ d.toNat ∧ d.toNat ≤ 122)) : c ≠ d := fun heq => hd (heq ▸ hc)
  have hn := hne '\n' (by decide)
  have hr := hne '\r' (by decide)
  have hblank := hne ' ' (by decide)
  have hquote := hne '"' (by decide)
  simp [Scan.start, endsLine, hn, hr, hblank, hquote, h]

/-- A word goes on up to the first character that is not one of its own. -/
theorem word {w : String} (hw : IsWord w) (hs : Yields s ts)
    (hhead : ∃ c ∈ s.toList.head?, isWordChar c = false) : Yields (w ++ s) (.word w :: ts) := by
  obtain ⟨hne, hw⟩ := hw
  have hrun : Scan.between.run w.toList = (.inWord w.toList, []) := by
    cases hlist : w.toList with
    | nil => exact absurd hlist hne
    | cons c rest =>
      rw [hlist] at hw
      obtain ⟨hc, hrest⟩ := Bool.and_eq_true_iff.1 hw
      rw [Scan.run, Scan.next, start_of_isWordChar hc, run_inWord [c] hrest]
      rfl
  have hs : Scan.between.run s.toList = (.between, ts) := hs
  rw [Yields, String.toList_append, Scan.run_append, hrun]
  obtain ⟨c, hc, hword⟩ := hhead
  cases hlist : s.toList with
  | nil => rw [hlist] at hc; cases hc
  | cons d rest =>
    rw [hlist] at hc hs
    obtain rfl := Option.some.inj hc
    -- the first character behind the word is read as if nothing had been begun
    have hnext : (Scan.inWord w.toList).next d
        = ((Scan.start d).1, .word w :: (Scan.start d).2) := by
      rw [Scan.next, if_neg (by simp [hword]), String.ofList_toList]
    rw [Scan.run, Scan.next] at hs
    rw [Scan.run, hnext, List.nil_append, List.cons_append]
    injection hs with hbetween hts
    rw [hbetween, hts]

/-- No character of the body ends the literal. -/
theorem run_inLiteral {body front rest : List Char} (h : IsEnclosed body)
    (hbody : body = front ++ rest) : (Scan.inLiteral front).run rest = (.inLiteral body, []) := by
  induction rest generalizing front with
  | nil => rw [hbody, List.append_nil]; rfl
  | cons c rest ih =>
    have hends := h.lineEnd c (hbody ▸ List.mem_append_right front List.mem_cons_self)
    have hquote : (c = '"' && !opensEscape front) = false := by
      rw [Bool.and_eq_false_imp]
      intro hc
      obtain rfl := of_decide_eq_true hc
      rw [h.quote front rest hbody]
      rfl
    have hnext : (Scan.inLiteral front).next c = (.inLiteral (front ++ [c]), []) := by
      rw [Scan.next, if_neg (by simp [hends]), hquote]
      rfl
    rw [Scan.run, hnext, ih (by rw [hbody, List.append_assoc]; rfl)]
    rfl

theorem literal {body : String} (h : IsEnclosed body.toList) :
    Yields (quoted body) [.literal body] := by
  have hclose : (Scan.inLiteral body.toList).next '"' = (.between, [.literal body]) := by
    rw [Scan.next, if_neg (by decide), h.complete, String.ofList_toList]
    rfl
  have hopen : Scan.between.run ("\"" : String).toList = (.inLiteral [], []) := by decide
  have hquote : ("\"" : String).toList = ['"'] := by decide
  rw [Yields, quoted, String.toList_append, String.toList_append, Scan.run_append, Scan.run_append,
    hopen, run_inLiteral h (List.nil_append _).symm, hquote, Scan.run, hclose]
  rfl

end Yields

/-! ### Lines put together -/

/-- A text is made of complete lines with given tokens. -/
def YieldsLines (text : String) (lines : List (List LineToken)) : Prop :=
  ∀ rest, tokenLines? (text.toList ++ rest) = (tokenLines? rest).map (lines ++ ·)

namespace YieldsLines

variable {s t : String} {ls ms : List (List LineToken)}

theorem tokenLines? (h : YieldsLines s ls) : tokenLines? s.toList = some ls := by
  have hnil := h []
  rw [List.append_nil] at hnil
  rw [hnil]
  simp [Cpp.tokenLines?, Text.lines]

theorem nil : YieldsLines "" [] := fun rest => by simp

theorem append (hs : YieldsLines s ls) (ht : YieldsLines t ms) :
    YieldsLines (s ++ t) (ls ++ ms) := fun rest => by
  rw [String.toList_append, List.append_assoc, hs, ht, Option.map_map]
  exact congrArg (Option.map · _) (funext fun _ => (List.append_assoc _ _ _).symm)

theorem blank : YieldsLines "\n" [] := fun rest => by
  have hlines : Text.lines ("\n".toList ++ rest) = [] :: Text.lines rest := by
    rw [show "\n".toList = ['\n'] by decide, List.singleton_append, Text.lines]
  have htokens : lineTokens? [] = some [] := rfl
  rw [Cpp.tokenLines?, hlines, List.mapM_cons, htokens, Cpp.tokenLines?, Option.map_map]
  cases (Text.lines rest).mapM lineTokens? with
  | none => rfl
  | some ls => rfl

theorem line {ts : List LineToken} (h : lineTokens? s.toList = some ts) (hne : ts ≠ []) :
    YieldsLines (s ++ "\n") [ts] := fun rest => by
  have hlines : Text.lines ((s ++ "\n").toList ++ rest) = s.toList :: Text.lines rest := by
    rw [String.toList_append, show "\n".toList = ['\n'] by decide, List.append_assoc]
    exact Text.lines_append_newline (isLine_of_lineTokens? h) rest
  rw [Cpp.tokenLines?, hlines, List.mapM_cons, h, Cpp.tokenLines?, Option.map_map]
  cases (Text.lines rest).mapM lineTokens? with
  | none => rfl
  | some ls => exact congrArg some (List.filter_cons_of_pos (decide_eq_true hne))

theorem ofList {s : List Char} {ts : List (List LineToken)} (h : Text.unlines (Text.lines s) = s
    ∧ (∀ l ∈ Text.lines s, Text.IsLine l) ∧ Cpp.tokenLines? s = some ts) :
    YieldsLines (String.ofList s) ts := fun rest => by
  obtain ⟨hunlines, hlines, hts⟩ := h
  have hsplit : Text.lines (s ++ rest) = Text.lines s ++ Text.lines rest := by
    have happend := Text.lines_unlines_append hlines rest
    rwa [hunlines] at happend
  obtain ⟨ls, hls, rfl⟩ := Option.map_eq_some_iff.1 hts
  rw [String.toList_ofList, Cpp.tokenLines?, hsplit, List.mapM_append, hls, Cpp.tokenLines?,
    Option.map_map]
  cases (Text.lines rest).mapM lineTokens? with
  | none => rfl
  | some ms => exact congrArg some (List.filter_append ls ms)

end YieldsLines

end JniBindings.Cpp
