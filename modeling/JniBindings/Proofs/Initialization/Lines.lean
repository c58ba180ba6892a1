import JniBindings.Proofs.Initialization.Routines
import JniBindings.Proofs.Text.Joined
import JniBindings.Proxy.Printer
/-!
# Lines about initialisation

Every line that a proxy prints about its initialisation is read as what it says
(`Statement.reads_lines`), provided that slots are words and that the lookups have literals. From
the lines come the blocks of the two functions (`Guarded.reads_text`) and the macro that checks
lookups (`yieldsLines_continuedLines`).
-/

namespace JniBindings

open Cpp (LineToken Yields YieldsLines IsEnclosed)

/-! ### Single lines -/

namespace Line

/-- A text is read as a line. -/
def IsReadIn (l : Line) (s : String) : Prop :=
  (Cpp.Scan.between.run s.toList).1 = .between
    ∧ ofTokens? (Cpp.Scan.between.run s.toList).2 = some l

theorem isReadIn_of_yields {l : Line} {s : String} {ts : List LineToken} (h : Yields s ts)
    (hl : ofTokens? ts = some l) : l.IsReadIn s := by
  have h : Cpp.Scan.between.run s.toList = (.between, ts) := h
  rw [IsReadIn, h]
  exact ⟨rfl, hl⟩

theorem IsReadIn.exists_yields {l : Line} {s : String} (h : l.IsReadIn s) :
    ∃ ts, Yields s ts ∧ ofTokens? ts = some l := ⟨_, Prod.ext h.1 rfl, h.2⟩

theorem ne_nil_of_ofTokens? {l : Line} {ts : List LineToken} (h : ofTokens? ts = some l) :
    ts ≠ [] := by
  rintro rfl
  cases h

/-- The characters of a literal are at hand, while `toList` would have to decode them. -/
theorem isReadIn_ofList {l : Line} {s : List Char} (h : (Cpp.Scan.between.run s).1 = .between
    ∧ ofTokens? (Cpp.Scan.between.run s).2 = some l) : l.IsReadIn (String.ofList s) := by
  rwa [IsReadIn, String.toList_ofList]

/-- Spaces in front of a line make no difference. -/
theorem IsReadIn.indented {l : Line} {s indent : String} (hindent : Yields indent [])
    (h : l.IsReadIn s) : l.IsReadIn (indent ++ s) := by
  obtain ⟨ts, hts, hl⟩ := h.exists_yields
  exact isReadIn_of_yields (hindent.append hts) hl

theorem isReadIn_close : (code .close).IsReadIn "\x7d" := isReadIn_ofList (by decide +kernel)

theorem exists_yields_of_forall₂ {ss : List String} {ls : List Line}
    (h : List.Forall₂ (fun s l => IsReadIn l s) ss ls) :
    ∃ tss, List.Forall₂ Yields ss tss ∧ tss.mapM ofTokens? = some ls := by
  induction h with
  | nil => exact ⟨[], .nil, rfl⟩
  | cons hl _ ih =>
    obtain ⟨ts, hts, hl⟩ := hl.exists_yields
    obtain ⟨tss, htss, hls⟩ := ih
    exact ⟨ts :: tss, .cons hts htss, by simp [hl, hls]⟩

end Line

/-- What is read in some lines, which begin and end as lines. -/
def ReadsAs (text : String) (lines : List Line) : Prop :=
  ∃ ts, YieldsLines text ts ∧ ts.mapM Line.ofTokens? = some lines

namespace ReadsAs

variable {s t : String} {ls ms : List Line}

theorem nil : ReadsAs "" [] := ⟨[], .nil, rfl⟩

theorem blank : ReadsAs "\n" [] := ⟨[], .blank, rfl⟩

theorem append (hs : ReadsAs s ls) (ht : ReadsAs t ms) : ReadsAs (s ++ t) (ls ++ ms) := by
  obtain ⟨ts, hts, hls⟩ := hs
  obtain ⟨us, hus, hms⟩ := ht
  refine ⟨ts ++ us, hts.append hus, ?_⟩
  rw [List.mapM_append, hls, hms]
  rfl

theorem line {l : Line} (h : l.IsReadIn s) : ReadsAs (s ++ "\n") [l] := by
  obtain ⟨ts, hts, hl⟩ := h.exists_yields
  exact ⟨[ts], .line hts.lineTokens? (Line.ne_nil_of_ofTokens? hl), by simp [hl]⟩

theorem ofList {s : List Char} (h : Text.unlines (Text.lines s) = s
    ∧ (∀ l ∈ Text.lines s, Text.IsLine l)
    ∧ (Cpp.tokenLines? s).bind (·.mapM Line.ofTokens?) = some ls) :
    ReadsAs (String.ofList s) ls := by
  obtain ⟨hunlines, hlines, hts⟩ := h
  obtain ⟨ts, hts, hls⟩ := Option.bind_eq_some_iff.1 hts
  exact ⟨ts, .ofList ⟨hunlines, hlines, hts⟩, hls⟩

theorem indented {indent : String} {l : Line} (hindent : Yields indent []) (h : l.IsReadIn s) :
    ReadsAs (indented indent s) [l] := by
  have hs : s.isEmpty = false := by
    rw [← Bool.not_eq_true, String.isEmpty_iff]
    rintro rfl
    exact Line.ne_nil_of_ofTokens? h.2 rfl
  rw [JniBindings.indented, hs]
  exact line (h.indented hindent)

theorem flatMap {α : Type} {text : α → String} {lines : α → List Line} {xs : List α}
    (h : ∀ x ∈ xs, ReadsAs (text x) (lines x)) :
    ReadsAs (Text.concat (xs.map text)) (xs.flatMap lines) := by
  induction xs with
  | nil => exact nil
  | cons x xs ih =>
    exact (h x List.mem_cons_self).append (ih fun y hy => h y (List.mem_cons_of_mem x hy))

end ReadsAs

/-! ### Lines about members -/

section Member

variable {member : String} (hm : IsWord member)
include hm

theorem yields_member {rest : String} {ts : List LineToken} (hrest : Yields rest ts)
    (hhead : ∃ c ∈ rest.toList.head?, isWordChar c = false) :
    Yields ("state." ++ (member ++ rest)) (.word "state" :: .mark '.' :: .word member :: ts) :=
  Yields.append (t := member ++ rest) (by decide : Yields "state." [.word "state", .mark '.'])
    (hrest.word hm hhead)

theorem isReadIn_clear :
    (Line.code (.clear member)).IsReadIn ("state." ++ member ++ " = nullptr;") := by
  have hrest : Yields " = nullptr;" [.mark '=', .word "nullptr", .mark ';'] :=
    .ofList (by decide +kernel)
  rw [String.append_assoc]
  exact Line.isReadIn_of_yields (yields_member hm hrest ⟨' ', by decide, by decide⟩) rfl

theorem isReadIn_check :
    (Line.check (.member member)).IsReadIn (checkText ("state." ++ member)) := by
  have hmember : Yields ("state." ++ (member ++ ");"))
      [.word "state", .mark '.', .word member, .mark ')', .mark ';'] :=
    yields_member hm (by decide) ⟨')', by decide, by decide⟩
  have hcheck : Yields "JNICPP_CHECK_NULL(" [.word "JNICPP_CHECK_NULL", .mark '('] :=
    .ofList (by decide +kernel)
  have htext : checkText ("state." ++ member)
      = "JNICPP_CHECK_NULL(" ++ ("state." ++ (member ++ ");")) := by
    simp only [checkText, checkMacro, String.append_assoc]
    rfl
  rw [htext]
  exact Line.isReadIn_of_yields (hcheck.append hmember) rfl

end Member

/-! ### Lookups -/

namespace Lookup

/-- The slot is a word, and what names the member can stand in literals. -/
structure IsReadable (id : Lookup) : Prop where
  slot : IsWord id.slot
  name : IsEnclosed id.nameLiteral.toList
  descriptor : IsEnclosed id.descriptorLiteral.toList

/-- The name of the interface function. -/
def function (id : Lookup) : String := "Get" ++ Proxy.staticWord id.isStatic ++ id.kind.word ++ "ID"

/-- What stands between the slot and the literals. -/
def callText (id : Lookup) : String :=
  " = env->Get" ++ Proxy.staticWord id.isStatic ++ id.kind.word ++ "ID(state.sClazz, "

theorem yields_callText (id : Lookup) : Yields id.callText [.mark '=', .word "env", .mark '-',
    .mark '>', .word id.function, .mark '(', .word "state", .mark '.', .word "sClazz",
    .mark ','] := by
  rw [callText, function]
  cases id.kind <;> cases id.isStatic <;> decide +kernel

/-- The name of the function tells what is looked up. -/
theorem ofTokens?_lookUp (id : Lookup) : Line.ofTokens? [.word "state", .mark '.', .word id.slot,
    .mark '=', .word "env", .mark '-', .mark '>', .word id.function, .mark '(', .word "state",
    .mark '.', .word "sClazz", .mark ',', .literal id.nameLiteral, .mark ',',
    .literal id.descriptorLiteral, .mark ')', .mark ';'] = some (.code (.lookUp id)) := by
  obtain ⟨slot, kind, isStatic, name, descriptor⟩ := id
  cases kind <;> cases isStatic <;> rfl

theorem isReadIn_text {id : Lookup} (h : id.IsReadable) :
    (Line.code (.lookUp id)).IsReadIn id.text := by
  have htext : id.text = "state." ++ (id.slot ++ (id.callText ++ (Cpp.quoted id.nameLiteral
      ++ (", " ++ (Cpp.quoted id.descriptorLiteral ++ ");"))))) := by
    unfold text callText
    simp only [String.append_assoc]
  have hliterals := (Yields.literal h.name).append
    ((by decide : Yields ", " [.mark ',']).append ((Yields.literal h.descriptor).append
      (by decide : Yields ");" [.mark ')', .mark ';'])))
  have hhead (rest : String) : ∃ c ∈ (id.callText ++ rest).toList.head?, isWordChar c = false :=
    ⟨' ', by simp [callText], by decide⟩
  rw [htext]
  exact Line.isReadIn_of_yields
    (yields_member h.slot (id.yields_callText.append hliterals) (hhead _)) id.ofTokens?_lookUp

end Lookup

/-! ### Statements -/

namespace Statement

/-- Names and literals in the statement can be read. -/
def IsReadable : Statement → Prop
  | lookUp id => id.IsReadable
  | checkSlot slot | clearSlot slot => IsWord slot
  | findClass | checkFound | holdClass | dropFound | checkClass | setInitialized _ | dropClass
  | clearClass | dropClassIfHeld | skip => True

/-- What the lines of a statement are. -/
def code : Statement → List Line
  | findClass => [.code .findClass]
  | checkFound => [.check .clazz]
  | holdClass => [.code (.hold "sClazz")]
  | dropFound => [.code .deleteFound]
  | checkClass => [.check (.member "sClazz")]
  | lookUp id => [.code (.lookUp id)]
  | checkSlot slot => [.check (.member slot)]
  | setInitialized value => [.code (.setFlag value)]
  | dropClass => [.code (.deleteHeld "sClazz")]
  | clearClass => [.code (.clear "sClazz")]
  | clearSlot slot => [.code (.clear slot)]
  | dropClassIfHeld =>
    [.code (.enter (.isHeld "sClazz")), .code (.deleteHeld "sClazz"), .code (.clear "sClazz"),
      .code .close]
  | skip => []

variable {indent : String} {s : Statement}

/-- The lines of a statement are read as what they are, be they indented by spaces or not. -/
theorem reads_lines (hindent : Yields indent []) (h : s.IsReadable) :
    ReadsAs (Text.concat (s.lines.map (indented indent))) s.code := by
  have hsingle {line : String} {l : Line} (h : l.IsReadIn line) :
      ReadsAs (Text.concat ([line].map (indented indent))) [l] := by
    have hread := (ReadsAs.indented hindent h).append .nil
    rwa [List.append_nil] at hread
  cases s with
  | findClass => exact hsingle (Line.isReadIn_ofList (by decide +kernel))
  | checkFound =>
    have hcheck : (Line.check .clazz).IsReadIn "JNICPP_CHECK_NULL(clazz);" :=
      Line.isReadIn_ofList (by decide +kernel)
    exact hsingle hcheck
  | holdClass => exact hsingle (Line.isReadIn_ofList (by decide +kernel))
  | dropFound => exact hsingle (Line.isReadIn_ofList (by decide +kernel))
  | checkClass => exact hsingle (isReadIn_check (by decide))
  | lookUp id => exact hsingle (Lookup.isReadIn_text h)
  | checkSlot slot => exact hsingle (isReadIn_check h)
  | setInitialized value =>
    cases value with
    | true =>
      have hset : (Line.code (.setFlag true)).IsReadIn "state.sInited = true;" :=
        Line.isReadIn_ofList (by decide +kernel)
      exact hsingle hset
    | false =>
      have hset : (Line.code (.setFlag false)).IsReadIn "state.sInited = false;" :=
        Line.isReadIn_ofList (by decide +kernel)
      exact hsingle hset
  | dropClass => exact hsingle (Line.isReadIn_ofList (by decide +kernel))
  | clearClass => exact hsingle (isReadIn_clear (by decide))
  | clearSlot slot => exact hsingle (isReadIn_clear h)
  | dropClassIfHeld =>
    have hheld : (Line.code (.enter (.isHeld "sClazz"))).IsReadIn
        "if (state.sClazz != nullptr) \x7b" :=
      Line.isReadIn_ofList (by decide +kernel)
    have hdelete : (Line.code (.deleteHeld "sClazz")).IsReadIn
        "    env->DeleteGlobalRef(state.sClazz);" := Line.isReadIn_ofList (by decide +kernel)
    have hclear : (Line.code (.clear "sClazz")).IsReadIn "    state.sClazz = nullptr;" :=
      Line.isReadIn_ofList (by decide +kernel)
    simp only [lines, List.map_cons, List.map_nil, Text.concat]
    exact (ReadsAs.indented hindent hheld).append <| (ReadsAs.indented hindent hdelete).append <|
      (ReadsAs.indented hindent hclear).append <|
        (ReadsAs.indented hindent Line.isReadIn_close).append .nil
  | skip => exact ReadsAs.blank.append .nil

end Statement

theorem reads_statementText {indent : String} (hindent : Yields indent [])
    {statements : List Statement} (h : ∀ s ∈ statements, s.IsReadable) :
    ReadsAs (statementText indent statements) (statements.flatMap Statement.code) := by
  have htext : statementText indent statements
      = Text.concat (statements.map fun s => Text.concat (s.lines.map (indented indent))) := by
    rw [statementText, List.map_flatMap]
    induction statements with
    | nil => rfl
    | cons s statements ih =>
      rw [List.flatMap_cons, Text.concat_append, ih fun t ht => h t (List.mem_cons_of_mem s ht)]
      rfl
  rw [htext]
  exact ReadsAs.flatMap fun s hs => Statement.reads_lines hindent (h s hs)

/-- What the lines of a guarded program are. -/
def Guarded.code (g : Guarded) : List Line :=
  .code (.enter (.flagIs g.whenInitialized))
    :: ((if g.locked then .code .lock :: .code (.enter (.flagIs g.whenInitialized))
        :: (g.body.flatMap Statement.code ++ [.code .close])
      else g.body.flatMap Statement.code) ++ [.code .close])

/-- The line that begins a block if the flag has a given value. -/
def conditionText (value : Bool) : String :=
  "if (" ++ (if value then "" else "!") ++ "state.sInited) \x7b\n"

theorem reads_conditionText {indent : String} (hindent : Yields indent []) (value : Bool) :
    ReadsAs (indent ++ conditionText value) [.code (.enter (.flagIs value))] := by
  cases value with
  | true =>
    have hline : (Line.code (.enter (.flagIs true))).IsReadIn "if (state.sInited) \x7b" :=
      Line.isReadIn_ofList (by decide +kernel)
    simpa [conditionText, String.append_assoc] using ReadsAs.line (hline.indented hindent)
  | false =>
    have hline : (Line.code (.enter (.flagIs false))).IsReadIn "if (!state.sInited) \x7b" :=
      Line.isReadIn_ofList (by decide +kernel)
    simpa [conditionText, String.append_assoc] using ReadsAs.line (hline.indented hindent)

theorem Guarded.text_eq (g : Guarded) : g.text = "    " ++ conditionText g.whenInitialized
    ++ (if g.locked then
        "        std::lock_guard<std::mutex> lg(state.sInitLock);\n"
          ++ ("        " ++ conditionText g.whenInitialized)
          ++ statementText "            " g.body
          ++ "        \x7d\n"
      else statementText "        " g.body)
    ++ "    \x7d\n" := by
  unfold text conditionText
  simp only [String.append_assoc]

theorem Guarded.reads_text {g : Guarded} (h : ∀ s ∈ g.body, s.IsReadable) :
    ReadsAs g.text g.code := by
  have hfour : Yields "    " [] := .spaces 4
  have height : Yields "        " [] := .spaces 8
  have htwelve : Yields "            " [] := .spaces 12
  have hlock : ReadsAs "        std::lock_guard<std::mutex> lg(state.sInitLock);\n" [.code .lock] :=
    .ofList (by decide +kernel)
  have hinner : ReadsAs "        \x7d\n" [.code .close] := .ofList (by decide +kernel)
  have houter : ReadsAs "    \x7d\n" [.code .close] := .ofList (by decide +kernel)
  rw [text_eq, code]
  have hbody : ReadsAs
      (if g.locked then
        "        std::lock_guard<std::mutex> lg(state.sInitLock);\n"
          ++ ("        " ++ conditionText g.whenInitialized)
          ++ statementText "            " g.body
          ++ "        \x7d\n"
      else statementText "        " g.body)
      (if g.locked then .code .lock
      :: .code (.enter (.flagIs g.whenInitialized))
        :: (g.body.flatMap Statement.code ++ [.code .close])
      else g.body.flatMap Statement.code) := by
    split
    · have hbody := reads_statementText htwelve h
      exact ((hlock.append (reads_conditionText height g.whenInitialized)).append hbody).append
        hinner
    · exact reads_statementText height h
  exact ((reads_conditionText hfour g.whenInitialized).append hbody).append houter

end JniBindings
