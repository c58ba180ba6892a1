import JniBindings.Text.Segments
/-!
# Parts between separators

A text that is cut at separators into non-empty parts has no separator at its end and no two
separators side by side. `followed_of_splitOn` says so for parts whose first characters have any
given property: then every separator is followed by a character with that property.
-/

namespace JniBindings.Text

variable {α : Type}

/-- The part is not empty, and its first character has a given property. -/
def StartsWith (p : α → Prop) (s : List α) : Prop := ∃ c rest, s = c :: rest ∧ p c

theorem splitOn_cons_self (separator : Char) (s : List Char) :
    splitOn separator (separator :: s) = [] :: splitOn separator s := by
  rw [splitOn, if_pos rfl]

theorem exists_splitOn_cons {separator c : Char} (h : c ≠ separator) (s : List Char) :
    ∃ part parts, splitOn separator s = part :: parts
      ∧ splitOn separator (c :: s) = (c :: part) :: parts := by
  cases hs : splitOn separator s with
  | nil => exact absurd hs (splitOn_ne_nil separator s)
  | cons part parts =>
    refine ⟨part, parts, rfl, ?_⟩
    rw [splitOn, if_neg h, hs]

theorem splitOn_of_not_mem {separator : Char} {s : List Char} (h : separator ∉ s) :
    splitOn separator s = [s] := by
  induction s with
  | nil => rfl
  | cons c s ih =>
    rw [List.mem_cons, not_or] at h
    rw [splitOn, if_neg (Ne.symm h.1), ih h.2]

theorem splitOn_append_cons (separator : Char) (s rest : List Char) :
    splitOn separator (s ++ separator :: rest)
      = splitOn separator s ++ splitOn separator rest := by
  induction s with
  | nil => exact splitOn_cons_self separator rest
  | cons c s ih =>
    by_cases hc : c = separator
    · subst hc
      rw [List.cons_append, splitOn_cons_self, splitOn_cons_self, ih, List.cons_append]
    · obtain ⟨part, parts, hs, hcs⟩ := exists_splitOn_cons hc s
      rw [List.cons_append, splitOn, if_neg hc, ih, hcs, hs]
      rfl

/-- A character that separates nothing stands in one of the parts. -/
theorem exists_mem_splitOn {separator c : Char} (hc : c ≠ separator) {s : List Char} (h : c ∈ s) :
    ∃ part ∈ splitOn separator s, c ∈ part := by
  induction s with
  | nil => cases h
  | cons d s ih =>
    by_cases hd : d = separator
    · subst hd
      obtain ⟨part, hpart, hmem⟩ := ih ((List.mem_cons.1 h).resolve_left hc)
      rw [splitOn_cons_self]
      exact ⟨part, List.mem_cons_of_mem _ hpart, hmem⟩
    · obtain ⟨first, others, hs, hds⟩ := exists_splitOn_cons hd s
      rw [hds]
      rcases List.mem_cons.1 h with rfl | h
      · exact ⟨c :: first, List.mem_cons_self, List.mem_cons_self⟩
      · obtain ⟨part, hpart, hmem⟩ := ih h
        rw [hs] at hpart
        rcases List.mem_cons.1 hpart with rfl | hpart
        · exact ⟨d :: part, List.mem_cons_self, List.mem_cons_of_mem d hmem⟩
        · exact ⟨part, List.mem_cons_of_mem _ hpart, hmem⟩

theorem of_mem_splitOn {separator c : Char} {s part : List Char} (h : part ∈ splitOn separator s)
    (hc : c ∈ part) : c ≠ separator ∧ c ∈ s := by
  induction s generalizing part with
  | nil =>
    obtain rfl := List.mem_singleton.1 h
    cases hc
  | cons d s ih =>
    by_cases hd : d = separator
    · subst hd
      rw [splitOn_cons_self] at h
      rcases List.mem_cons.1 h with rfl | h
      · cases hc
      · exact (ih h hc).imp_right (List.mem_cons_of_mem d)
    · obtain ⟨first, others, hs, hds⟩ := exists_splitOn_cons hd s
      rw [hs] at ih
      rw [hds] at h
      rcases List.mem_cons.1 h with rfl | h
      · rcases List.mem_cons.1 hc with rfl | hc
        · exact ⟨hd, List.mem_cons_self⟩
        · exact (ih List.mem_cons_self hc).imp_right (List.mem_cons_of_mem d)
      · exact (ih (List.mem_cons_of_mem first h) hc).imp_right (List.mem_cons_of_mem d)

/-- Another separator in place of the first one makes no difference to the parts. -/
theorem splitOn_map {old new : Char} {s : List Char} (h : new ∉ s) :
    splitOn new (s.map fun c => if c = old then new else c) = splitOn old s := by
  induction s with
  | nil => rfl
  | cons c s ih =>
    rw [List.mem_cons, not_or] at h
    rw [List.map_cons, splitOn, splitOn, ih h.2]
    by_cases hc : c = old
    · rw [if_pos hc, if_pos hc, if_pos rfl]
    · rw [if_neg hc, if_neg hc, if_neg (Ne.symm h.1)]

/-- The first part begins like the text. -/
theorem startsWith_of_splitOn {p : Char → Prop} {separator : Char} {s : List Char}
    (h : ∀ part ∈ splitOn separator s, StartsWith p part) :
    StartsWith (fun c => c ≠ separator ∧ p c) s := by
  cases s with
  | nil =>
    obtain ⟨c, rest, hnil, -⟩ := h [] List.mem_cons_self
    cases hnil
  | cons c s =>
    by_cases hc : c = separator
    · subst hc
      rw [splitOn_cons_self] at h
      obtain ⟨d, rest, hnil, -⟩ := h [] List.mem_cons_self
      cases hnil
    · obtain ⟨part, parts, -, hcs⟩ := exists_splitOn_cons hc s
      obtain ⟨d, rest, hd, hp⟩ := h (c :: part) (hcs ▸ List.mem_cons_self)
      obtain ⟨rfl, rfl⟩ := List.cons.inj hd
      exact ⟨c, s, rfl, hc, hp⟩

/-- Every separator in the text is followed by a character with a given property. -/
def Followed (separator : α) (p : α → Prop) (s : List α) : Prop :=
  ∀ before rest, s = before ++ separator :: rest → StartsWith p rest

/-- The induction runs over the text, of whose first part only a piece may be left. -/
theorem followed_of_tail_splitOn {p : Char → Prop} {separator : Char} {s : List Char}
    (h : ∀ part ∈ (splitOn separator s).tail, StartsWith p part) :
    Followed separator (fun c => c ≠ separator ∧ p c) s := by
  intro before rest hs
  induction before generalizing s with
  | nil =>
    subst hs
    rw [List.nil_append, splitOn_cons_self] at h
    exact startsWith_of_splitOn h
  | cons c before ih =>
    subst hs
    rw [List.cons_append] at h
    by_cases hc : c = separator
    · subst hc
      rw [splitOn_cons_self] at h
      exact ih (fun part hpart => h part (List.mem_of_mem_tail hpart)) rfl
    · obtain ⟨part, parts, hs, hcs⟩ := exists_splitOn_cons hc (before ++ separator :: rest)
      rw [hcs] at h
      exact ih (hs ▸ h) rfl

theorem followed_of_splitOn {p : Char → Prop} {separator : Char} {s : List Char}
    (h : ∀ part ∈ splitOn separator s, StartsWith p part) :
    Followed separator (fun c => c ≠ separator ∧ p c) s :=
  followed_of_tail_splitOn fun part hpart => h part (List.mem_of_mem_tail hpart)

theorem Followed.of_cons {separator c : α} {p : α → Prop} {s : List α}
    (h : Followed separator p (c :: s)) : Followed separator p s := by
  intro before rest hs
  exact h (c :: before) rest (congrArg (c :: ·) hs)

theorem Followed.startsWith {separator : α} {p : α → Prop} {s : List α}
    (h : Followed separator p (separator :: s)) : StartsWith p s := h [] s rfl

theorem Followed.imp {separator : α} {p q : α → Prop} (h : ∀ c, p c → q c) {s : List α}
    (hs : Followed separator p s) : Followed separator q s := by
  intro before rest heq
  obtain ⟨c, tail, rfl, hc⟩ := hs before rest heq
  exact ⟨c, tail, rfl, h c hc⟩

/-- What follows a separator stands in the text. -/
theorem Followed.and_mem {separator : α} {p : α → Prop} {s : List α} (h : Followed separator p s) :
    Followed separator (fun c => p c ∧ c ∈ s) s := by
  intro before rest hs
  obtain ⟨c, tail, rfl, hc⟩ := h before rest hs
  exact ⟨c, tail, rfl, hc, by simp [hs]⟩

theorem followed_of_not_mem {separator : α} {s : List α} (h : separator ∉ s)
    (p : α → Prop) : Followed separator p s := by
  rintro before rest rfl
  exact absurd (by simp) h

theorem Followed.cons {c : α} {p : α → Prop} {separator : α} {s : List α} (hc : StartsWith p s)
    (hs : Followed separator p s) : Followed separator p (c :: s) := by
  intro before rest heq
  cases before with
  | nil =>
    obtain ⟨-, rfl⟩ := List.cons.inj heq
    exact hc
  | cons d before => exact hs before rest (List.cons.inj heq).2

theorem Followed.append {separator : α} {p : α → Prop} {s t : List α}
    (hs : Followed separator p s) (ht : Followed separator p t) :
    Followed separator p (s ++ t) := by
  induction s with
  | nil => exact ht
  | cons c s ih =>
    intro before rest heq
    cases before with
    | nil =>
      obtain ⟨rfl, rfl⟩ := List.cons.inj heq
      obtain ⟨d, tail, rfl, hd⟩ := hs.startsWith
      exact ⟨d, tail ++ t, rfl, hd⟩
    | cons d before => exact ih hs.of_cons before rest (List.cons.inj heq).2

theorem Followed.flatMap {β : Type} {separator : α} {p : α → Prop} {f : β → List α}
    {xs : List β} (h : ∀ x ∈ xs, Followed separator p (f x)) :
    Followed separator p (xs.flatMap f) := by
  induction xs with
  | nil => exact followed_of_not_mem List.not_mem_nil p
  | cons x xs ih =>
    rw [List.flatMap_cons]
    exact (h x List.mem_cons_self).append (ih fun y hy => h y (List.mem_cons_of_mem x hy))

/-- One separator is put in place of another one. -/
theorem Followed.replace {β : Type} [DecidableEq α] {separator : α} {p : α → Prop} {s : List α}
    (hs : Followed separator (fun c => c ≠ separator ∧ p c) s) {f : α → β} {separator' : β}
    {q : β → Prop} (hf : ∀ c ∈ s, f c ≠ separator') (hpq : ∀ c, p c → q (f c)) :
    Followed separator' q (s.map fun c => if c = separator then separator' else f c) := by
  intro before rest heq
  obtain ⟨before, rest', rfl, -, hrest⟩ := List.map_eq_append_iff.1 heq
  obtain ⟨c, rest, rfl, hc, rfl⟩ := List.map_eq_cons_iff.1 hrest
  have hseparator : c = separator := by
    by_cases h : c = separator
    · exact h
    · rw [if_neg h] at hc
      exact absurd hc (hf c (by simp))
  subst hseparator
  obtain ⟨d, tail, rfl, hne, hd⟩ := hs before rest rfl
  rw [List.map_cons, if_neg hne]
  exact ⟨f d, _, rfl, hpq d hd⟩

/-! ### Where two separators stand side by side -/

theorem not_followed_ne_of_double {separator : α} {before rest : List α} :
    ¬ Followed separator (· ≠ separator) (before ++ separator :: separator :: rest) := by
  intro h
  obtain ⟨c, tail, heq, hc⟩ := h before (separator :: rest) rfl
  exact hc (List.cons.inj heq).1.symm

theorem not_followed_of_last {separator : α} {p : α → Prop} {before : List α} :
    ¬ Followed separator p (before ++ [separator]) := by
  intro h
  obtain ⟨c, tail, heq, -⟩ := h before [] rfl
  cases heq

/-- Nothing follows, or two separators do. -/
def IsDoubled (separator : α) (s : List α) : Prop :=
  s = [] ∨ ∃ rest, s = separator :: separator :: rest

/-- A text that ends with a separator only in front of something else, and that is followed by
nothing or by two separators, ends where these begin. -/
theorem Followed.eq_nil_of_append {separator : α} {s e t t' : List α}
    (h : Followed separator (· ≠ separator) (s ++ e)) (ht : IsDoubled separator t)
    (hett : t = e ++ t') : e = [] := by
  rcases ht with rfl | ⟨rest, rfl⟩
  · exact (List.append_eq_nil_iff.1 hett.symm).1
  · match e with
    | [] => rfl
    | [c] =>
      obtain ⟨rfl, -⟩ := List.cons.inj hett
      exact absurd h not_followed_of_last
    | c :: d :: e =>
      obtain ⟨rfl, hrest⟩ := List.cons.inj hett
      obtain ⟨rfl, -⟩ := List.cons.inj hrest
      exact absurd h not_followed_ne_of_double

theorem Followed.append_inj {separator : α} {s s' t t' : List α}
    (hs : Followed separator (· ≠ separator) s) (hs' : Followed separator (· ≠ separator) s')
    (ht : IsDoubled separator t) (ht' : IsDoubled separator t') (h : s ++ t = s' ++ t') :
    s = s' ∧ t = t' := by
  rcases List.append_eq_append_iff.1 h with ⟨e, rfl, hett⟩ | ⟨e, rfl, hett⟩
  · obtain rfl := hs'.eq_nil_of_append ht hett
    exact ⟨(List.append_nil s).symm, hett⟩
  · obtain rfl := hs.eq_nil_of_append ht' hett
    exact ⟨List.append_nil s', hett.symm⟩

/-! ### The last separator -/

theorem eq_nil_of_last {separator : α} {e t t' : List α} (ht : separator ∉ t)
    (h : separator :: t = e ++ separator :: t') : e = [] := by
  cases e with
  | nil => rfl
  | cons c e =>
    obtain ⟨-, rfl⟩ := List.cons.inj h
    exact absurd (by simp) ht

/-- A text with a separator is cut at the last one in one way only. -/
theorem append_inj_of_last {separator : α} {s s' t t' : List α} (ht : separator ∉ t)
    (ht' : separator ∉ t') (h : s ++ separator :: t = s' ++ separator :: t') : s = s' ∧ t = t' := by
  rcases List.append_eq_append_iff.1 h with ⟨e, rfl, hett⟩ | ⟨e, rfl, hett⟩
  · obtain rfl := eq_nil_of_last ht hett
    exact ⟨(List.append_nil s).symm, (List.cons.inj hett).2⟩
  · obtain rfl := eq_nil_of_last ht' hett
    exact ⟨List.append_nil s', (List.cons.inj hett).2.symm⟩

end JniBindings.Text
