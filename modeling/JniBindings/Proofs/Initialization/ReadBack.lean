import JniBindings.Proofs.Initialization.Lines
/-!
# Reading the code of a proxy back

The files of a proxy define `initClazz` and `releaseClazz`, and the header declares the state. The
definitions are read as the program of the proxy, and the state as the flag, the lock and a pointer
for the class and for each slot (`Proxy.emits`). Names have to be words for that, and what names a
member must not end its literal.
-/

namespace JniBindings

open Cpp (LineToken Yields YieldsLines IsEnclosed)

/-! ### The macro -/

theorem yields_padTo {s : String} {ts : List LineToken} (h : Yields s ts) (width : Nat) :
    Yields (padTo width s) ts := by
  have hpadded := h.append (.spaces (width - s.length))
  rwa [List.append_nil] at hpadded

theorem yieldsLines_joinWith {lines : List String} {tss : List (List LineToken)}
    (h : List.Forall₂ Yields lines tss) {last : String} {ts : List LineToken}
    (hlast : Yields last ts) (hne : ts ≠ []) :
    YieldsLines (Text.joinWith "\\\n" (lines ++ [last]) ++ "\n")
      (tss.map (· ++ [.mark '\\']) ++ [ts]) := by
  induction h with
  | nil => exact .line hlast.lineTokens? hne
  | @cons line us lines tss hline _ ih =>
    have hfirst : YieldsLines (line ++ "\\" ++ "\n") [us ++ [.mark '\\']] :=
      .line (hline.append (by decide)).lineTokens? (by simp)
    have htext : Text.joinWith "\\\n" (line :: lines ++ [last]) ++ "\n"
        = line ++ "\\" ++ "\n" ++ (Text.joinWith "\\\n" (lines ++ [last]) ++ "\n") := by
      rw [List.cons_append, Text.joinWith_cons_of_ne_nil _ _ (by simp)]
      simp only [String.append_assoc]
      rfl
    rw [htext]
    exact hfirst.append ih

/-- Each line but the last one ends with a backslash. -/
theorem yieldsLines_continuedLines {lines : List String} {tss : List (List LineToken)}
    (h : List.Forall₂ Yields lines tss) {last : String} {ts : List LineToken}
    (hlast : Yields last ts) (hne : ts ≠ []) :
    YieldsLines (continuedLines (lines ++ [last])) (tss.map (· ++ [.mark '\\']) ++ [ts]) := by
  have hpadded (width : Nat) : List.Forall₂ Yields (lines.map (padTo width)) tss := by
    rw [List.forall₂_map_left_iff]
    exact h.imp fun line ts hline => yields_padTo hline width
  unfold continuedLines
  rw [List.dropLast_concat, List.getLast?_concat]
  exact yieldsLines_joinWith (hpadded _) hlast hne

theorem splitContinued_append (tss : List (List LineToken)) {ts : List LineToken}
    (hlast : ts.getLast? ≠ some (.mark '\\')) (rest : List (List LineToken)) :
    splitContinued (tss.map (· ++ [.mark '\\']) ++ ts :: rest) = (tss ++ [ts], rest) := by
  induction tss with
  | nil => rw [List.map_nil, List.nil_append, splitContinued, if_neg hlast, List.nil_append]
  | cons us tss ih =>
    rw [List.map_cons, List.cons_append, splitContinued, if_pos List.getLast?_concat, ih,
      List.dropLast_concat]
    rfl

/-! ### What reports failed checks -/

/-- The text is the name of a function, possibly qualified. -/
def IsFunctionName (s : String) : Prop :=
  ∃ names ≠ [], (∀ name ∈ names, Line.isFree name) ∧ s = Text.joinWith "::" names

theorem isWord_of_isFree {name : String} (h : Line.isFree name) : IsWord name := by
  have h : isIdentifier name := (Bool.and_eq_true_iff.1 h).1
  unfold isIdentifier at h
  rw [IsWord]
  cases hname : name.toList with
  | nil => simp [hname] at h
  | cons c rest =>
    simp only [hname, Bool.and_eq_true, Bool.or_eq_true, decide_eq_true_eq] at h
    obtain ⟨hc, hrest⟩ := h
    refine ⟨List.cons_ne_nil c rest, ?_⟩
    rw [List.all_cons, hrest, Bool.and_true, isWordChar, Char.isAlphanum]
    rcases hc with hc | rfl
    · simp [hc]
    · rfl

theorem yields_functionName {names : List String} (hne : names ≠ [])
    (hfree : ∀ name ∈ names, Line.isFree name) {rest : String} {ts : List LineToken}
    (hrest : Yields ("(" ++ rest) (.mark '(' :: ts)) :
    ∃ us, Yields (Text.joinWith "::" names ++ ("(" ++ rest)) us
      ∧ Line.qualifiedName? us = some (names, .mark '(' :: ts) := by
  induction names with
  | nil => exact absurd rfl hne
  | cons name names ih =>
    have hword := isWord_of_isFree (hfree name List.mem_cons_self)
    cases names with
    | nil => exact ⟨_, hrest.word hword ⟨'(', by simp, by decide⟩, rfl⟩
    | cons next names =>
      obtain ⟨us, hus, hname⟩ := ih (List.cons_ne_nil next names)
        fun n hn => hfree n (List.mem_cons_of_mem name hn)
      have hqualified : Yields (Text.joinWith "::" (name :: next :: names) ++ ("(" ++ rest))
          (.word name :: .mark ':' :: .mark ':' :: us) := by
        have hcolons : Yields "::" [.mark ':', .mark ':'] := by decide
        rw [Text.joinWith_cons_of_ne_nil _ _ (List.cons_ne_nil next names)]
        simp only [String.append_assoc]
        exact (hcolons.append hus).word hword ⟨':', by simp, by decide⟩
      exact ⟨_, hqualified, by simp [Line.qualifiedName?, hname]⟩

/-- The call of a function with what could not be found. -/
theorem isReadIn_report {logger proxy : String} (hlogger : IsFunctionName logger)
    (hproxy : IsWord proxy) : (Line.code .skip).IsReadIn
      (logger ++ "(env, \"can't init " ++ proxy ++ "::\" #val);") := by
  obtain ⟨names, hne, hfree, rfl⟩ := hlogger
  have hbody : IsEnclosed ("can't init " ++ proxy ++ "::").toList := by
    have hfront : ("can't init " : String).toList.all Cpp.isOrdinary := by decide +kernel
    have hback : ("::" : String).toList.all Cpp.isOrdinary := by decide +kernel
    have hname : proxy.toList.all Cpp.isOrdinary := List.all_eq_true.2 fun c hc =>
      Cpp.isOrdinary_of_isWordChar (List.all_eq_true.1 hproxy.2 c hc)
    refine Cpp.isEnclosed_of_all ?_
    simp only [String.toList_append, List.all_append, hfront, hname, hback, Bool.and_self]
  have hopen : Yields "env, " [.word "env", .mark ','] := .ofList (by decide +kernel)
  have hend : Yields " #val);" [.mark '#', .word "val", .mark ')', .mark ';'] :=
    .ofList (by decide +kernel)
  have hcall : Yields
      ("(" ++ ("env, " ++ (Cpp.quoted ("can't init " ++ proxy ++ "::") ++ " #val);")))
      _ := (by decide : Yields "(" [.mark '(']).append
    (hopen.append ((Yields.literal hbody).append hend))
  obtain ⟨us, hus, hname⟩ := yields_functionName hne hfree hcall
  have htext : Text.joinWith "::" names ++ "(env, \"can't init " ++ proxy ++ "::\" #val);"
      = Text.joinWith "::" names
        ++ ("(" ++ ("env, " ++ (Cpp.quoted ("can't init " ++ proxy ++ "::") ++ " #val);"))) := by
    rw [← String.toList_inj]
    simp [Cpp.quoted]
  have hreport : Line.report? us = some (.code .skip) := by
    rw [Line.report?, hname]
    exact if_pos (List.all_eq_true.2 hfree)
  rw [htext]
  exact Line.isReadIn_of_yields hus (by rw [Line.ofTokens?, hreport]; rfl)

namespace Proxy

/-- The code of a proxy can be read. -/
structure IsReadable (p : Proxy) : Prop where
  proxy : IsWord p.names.proxy
  lookups : ∀ id ∈ p.lookups, id.IsReadable
  logger : ∀ logger ∈ p.config.errorLogger, IsFunctionName logger

variable {p : Proxy}

theorem isReadIn_failureReport (h : p.IsReadable) :
    (Line.code .skip).IsReadIn p.failureReport := by
  unfold failureReport
  cases hlogger : p.config.errorLogger with
  | none => exact Line.isReadIn_ofList (by decide +kernel)
  | some logger => exact isReadIn_report (h.logger logger hlogger) h.proxy

/-- What the macro stands for. -/
def checkLines : List Line :=
  [.code (.enter .always), .test, .code .skip, .rollback, .code (.give false), .code .close,
    .code .close]

/-- The macro is defined in lines that go on, so that it is cut off as a whole. -/
theorem yieldsLines_checkDefinition (h : p.IsReadable) :
    ∃ pieces ts, pieces.mapM Line.ofTokens? = some checkLines ∧ YieldsLines p.checkDefinition ts
      ∧ ∀ rest, splitContinued (ts ++ rest) = (Program.checkHead :: pieces, rest) := by
  have hdefine : Yields "#define JNICPP_CHECK_NULL(val)" Program.checkHead :=
    .ofList (by decide +kernel)
  have hreport : (Line.code .skip).IsReadIn ("            " ++ p.failureReport) :=
    (isReadIn_failureReport h).indented (.spaces 12)
  have hpieces : List.Forall₂ (fun s l => Line.IsReadIn l s)
      ["    do \x7b", "        if ((val) == nullptr) \x7b", "            " ++ p.failureReport,
        "            rollback();", "            return false;", "        \x7d"]
      [.code (.enter .always), .test, .code .skip, .rollback, .code (.give false), .code .close] :=
    .cons (Line.isReadIn_ofList (by decide +kernel)) <|
      .cons (Line.isReadIn_ofList (by decide +kernel)) <| .cons hreport <|
        .cons (Line.isReadIn_ofList (by decide +kernel)) <|
          .cons (Line.isReadIn_ofList (by decide +kernel)) <|
            .cons (Line.isReadIn_ofList (by decide +kernel)) .nil
  have hlast : Yields "    \x7d while (false)" [.mark '\x7d', .word "while", .mark '(',
      .word "false", .mark ')'] := .ofList (by decide +kernel)
  obtain ⟨tss, htss, hlines⟩ := Line.exists_yields_of_forall₂ hpieces
  refine ⟨tss ++ [[.mark '\x7d', .word "while", .mark '(', .word "false", .mark ')']], _, ?_,
    yieldsLines_continuedLines (.cons hdefine htss) hlast (by simp), fun rest => ?_⟩
  · rw [List.mapM_append, hlines]
    rfl
  · rw [List.append_assoc]
    exact splitContinued_append _ (by simp) rest

end Proxy

/-! ### Blocks and expansion -/

theorem Statement.isBalanced_code (s : Statement) : IsBalanced Line.bracket s.code := by
  cases s with
  | dropClassIfHeld =>
    have hbody : IsBalanced Line.bracket
        [.code (.deleteHeld "sClazz"), .code (.clear "sClazz")] :=
      (IsBalanced.nil.cons rfl).cons rfl
    exact hbody.block (x := .code (.enter (.isHeld "sClazz"))) (y := .code .close) rfl rfl .nil
  | skip => exact .nil
  | _ => exact IsBalanced.nil.cons rfl

theorem Guarded.isBalanced_code (g : Guarded) : IsBalanced Line.bracket g.code := by
  have hbody : IsBalanced Line.bracket (g.body.flatMap Statement.code) :=
    .flatMap fun s _ => s.isBalanced_code
  have hinner := (hbody.block (x := .code (.enter (.flagIs g.whenInitialized)))
    (y := .code .close) rfl rfl .nil).cons (x := .code .lock) rfl
  rw [code]
  split
  · exact hinner.block (x := .code (.enter (.flagIs g.whenInitialized))) (y := .code .close) rfl rfl
      .nil
  · exact hbody.block (x := .code (.enter (.flagIs g.whenInitialized))) (y := .code .close) rfl rfl
      .nil

theorem Line.mapM_instruction?_map (code : List Instruction) :
    (code.map Line.code).mapM Line.instruction? = some code := by
  induction code with
  | nil => rfl
  | cons i code ih => simp [ih, Line.instruction?]

namespace Proxy

/-- The instructions of a statement. -/
def statementCode (p : Proxy) : Statement → List Instruction
  | .findClass => [.findClass]
  | .checkFound => p.checkCode .clazz
  | .holdClass => [.hold "sClazz"]
  | .dropFound => [.deleteFound]
  | .checkClass => p.checkCode (.member "sClazz")
  | .lookUp id => [.lookUp id]
  | .checkSlot slot => p.checkCode (.member slot)
  | .setInitialized value => [.setFlag value]
  | .dropClass => [.deleteHeld "sClazz"]
  | .clearClass => [.clear "sClazz"]
  | .clearSlot slot => [.clear slot]
  | .dropClassIfHeld =>
    [.enter (.isHeld "sClazz"), .deleteHeld "sClazz", .clear "sClazz", .close]
  | .skip => []

/-- A line with the macro and the lambda expanded. -/
def expand (p : Proxy) (l : Line) : List Line :=
  (Line.expandCheck checkLines l).flatMap (Line.expandRollback (p.undoCode.map .code))

variable {p : Proxy}

theorem flatMap_code_rollbackProgram (p : Proxy) :
    p.rollbackProgram.flatMap Statement.code = p.undoCode.map .code := by
  simp [rollbackProgram, undoCode, Statement.code, List.flatMap_map, ← List.map_eq_flatMap]

theorem flatMap_code_releaseProgram (p : Proxy) :
    p.releaseProgram.body.flatMap Statement.code = p.releaseCode.map .code := by
  simp [releaseProgram, releaseCode, Statement.code, List.flatMap_map, ← List.map_eq_flatMap]

theorem expand_check (p : Proxy) (operand : Operand) :
    p.expand (.check operand) = (p.checkCode operand).map .code := by
  simp [expand, Line.expandCheck, checkLines, Line.fill, Line.expandRollback, checkCode]

theorem flatMap_expand_code (p : Proxy) (s : Statement) :
    s.code.flatMap p.expand = (p.statementCode s).map .code := by
  cases s with
  | checkFound | checkClass | checkSlot slot =>
    simp only [Statement.code, List.flatMap_singleton, expand_check, statementCode]
  | _ => rfl

theorem flatMap_expand (p : Proxy) (statements : List Statement) :
    (statements.flatMap Statement.code).flatMap p.expand
      = (statements.flatMap p.statementCode).map .code := by
  simp only [List.flatMap_assoc, flatMap_expand_code, List.map_flatMap]

theorem flatMap_expand_guarded (p : Proxy) {g : Guarded} {body : List Instruction}
    (hlocked : g.locked = p.config.threadSafe) (hbody : g.body.flatMap p.statementCode = body) :
    g.code.flatMap p.expand = (p.guardedCode g.whenInitialized body).map .code := by
  have hclose : p.expand (.code .close) = [.code .close] := rfl
  have hlock : p.expand (.code .lock) = [.code .lock] := rfl
  have henter (condition : Condition) :
      p.expand (.code (.enter condition)) = [.code (.enter condition)] := rfl
  rw [Guarded.code, guardedCode, hlocked]
  split <;> simp [hclose, hlock, henter, flatMap_expand, hbody]

theorem flatMap_code_initProgram (p : Proxy) :
    p.initProgram.body.flatMap p.statementCode = p.initCode := by
  have hlookup : p.lookupCode = fun id => .lookUp id :: p.checkCode (.member id.slot) := rfl
  simp [initProgram, initCode, statementCode, lookupStatements, hlookup, List.flatMap_assoc]

/-! ### Definitions -/

/-- The lines of `initClazz` behind the macro. -/
def initLines (p : Proxy) : List Line :=
  .code .skip :: .lambda :: (p.undoCode.map .code
    ++ .code .close :: (p.initProgram.code ++ [.code .skip, .code (.give true)]))

/-- The lines of `releaseClazz`. -/
def releaseLines (p : Proxy) : List Line := .code .skip :: p.releaseProgram.code

theorem isBalanced_map_undoCode (p : Proxy) :
    IsBalanced Line.bracket (p.undoCode.map .code) := by
  rw [← flatMap_code_rollbackProgram]
  exact .flatMap fun s _ => s.isBalanced_code

theorem initOf?_initLines (p : Proxy) :
    Program.initOf? checkLines p.initLines = some p.program.init := by
  have hsplit : Line.splitLambda p.initLines = some (p.undoCode.map .code,
      .code .skip :: (p.initProgram.code ++ [.code .skip, .code (.give true)])) := by
    rw [initLines, Line.splitLambda, Line.splitLambda,
      p.isBalanced_map_undoCode.splitBlock_append (y := .code .close) rfl]
    rfl
    nofun
  have hexpand : (.code .skip :: (p.initProgram.code ++ [.code .skip, .code (.give true)])).flatMap
      p.expand = p.program.init.map .code := by
    rw [List.flatMap_cons, List.flatMap_append,
      p.flatMap_expand_guarded rfl p.flatMap_code_initProgram]
    simp [program, expand, Line.expandCheck, Line.expandRollback, initProgram]
  rw [Program.initOf?, hsplit]
  change List.mapM _ _ = _
  rw [List.flatMap_assoc]
  exact (congrArg _ hexpand).trans (Line.mapM_instruction?_map _)

/-- There is neither a check nor the lambda in `releaseClazz`. -/
theorem releaseLines_eq (p : Proxy) : p.releaseLines = p.program.release.map .code := by
  rw [releaseLines, Guarded.code, flatMap_code_releaseProgram]
  cases hsafe : p.config.threadSafe <;> simp [releaseProgram, program, guardedCode, hsafe]

theorem ofLines?_lines (p : Proxy) : Program.ofLines? p.names.proxy checkLines
    (p.initLines ++ .code .close :: .head .release p.names.proxy
      :: (p.releaseLines ++ [.code .close])) = some p.program := by
  have hinit : IsBalanced Line.bracket p.initLines := by
    have hend : IsBalanced Line.bracket [.code .skip, .code (.give true)] :=
      (IsBalanced.nil.cons rfl).cons rfl
    exact (p.isBalanced_map_undoCode.block (x := .lambda) (y := .code .close) rfl rfl
      (p.initProgram.isBalanced_code.append hend)).cons (x := .code .skip) rfl
  have hrelease : IsBalanced Line.bracket p.releaseLines :=
    p.releaseProgram.isBalanced_code.cons (x := Line.code .skip) rfl
  have hmap : p.releaseLines.mapM Line.instruction? = some p.program.release := by
    rw [releaseLines_eq, Line.mapM_instruction?_map]
  simp [Program.ofLines?, hinit.splitBlock_append (y := .code .close) rfl,
    hrelease.splitBlock_append (y := .code .close) rfl, initOf?_initLines, hmap]

/-- What stands in front of the types of the two functions. -/
def qualifier (p : Proxy) : String := if p.config.headerOnlyProxy then "inline " else ""

theorem isReadIn_head {front back name : String} {ts us : List LineToken} {l : Line}
    (hfront : Yields front ts) (hname : IsWord name) (hback : Yields back us)
    (hhead : ∃ c ∈ back.toList.head?, isWordChar c = false)
    (hl : Line.ofTokens? (ts ++ .word name :: us) = some l) :
    l.IsReadIn (front ++ name ++ back) := by
  rw [String.append_assoc]
  exact Line.isReadIn_of_yields (hfront.append (hback.word hname hhead)) hl

theorem isReadIn_headInit (h : p.IsReadable) : (Line.head .init p.names.proxy).IsReadIn
    ("/*static*/ " ++ p.qualifier ++ "bool " ++ p.names.proxy
      ++ "::initClazz(JNIEnv* env) \x7b") := by
  have hback : Yields "::initClazz(JNIEnv* env) \x7b" [.mark ':', .mark ':', .word "initClazz",
      .mark '(', .word "JNIEnv", .mark '*', .word "env", .mark ')', .mark '\x7b'] :=
    .ofList (by decide +kernel)
  rw [qualifier]
  split
  · have hfront : Yields ("/*static*/ " ++ "inline " ++ "bool ") [.mark '/', .mark '*',
        .word "static", .mark '*', .mark '/', .word "inline", .word "bool"] := by decide +kernel
    exact isReadIn_head hfront h.proxy hback ⟨':', by simp, by decide⟩ rfl
  · have hfront : Yields ("/*static*/ " ++ "" ++ "bool ") [.mark '/', .mark '*', .word "static",
        .mark '*', .mark '/', .word "bool"] := by decide +kernel
    exact isReadIn_head hfront h.proxy hback ⟨':', by simp, by decide⟩ rfl

theorem isReadIn_headRelease (h : p.IsReadable) : (Line.head .release p.names.proxy).IsReadIn
    ("/*static*/ " ++ p.qualifier ++ "void " ++ p.names.proxy
      ++ "::releaseClazz(JNIEnv* env) \x7b") := by
  have hback : Yields "::releaseClazz(JNIEnv* env) \x7b" [.mark ':', .mark ':',
      .word "releaseClazz", .mark '(', .word "JNIEnv", .mark '*', .word "env", .mark ')',
      .mark '\x7b'] := .ofList (by decide +kernel)
  rw [qualifier]
  split
  · have hfront : Yields ("/*static*/ " ++ "inline " ++ "void ") [.mark '/', .mark '*',
        .word "static", .mark '*', .mark '/', .word "inline", .word "void"] := by decide +kernel
    exact isReadIn_head hfront h.proxy hback ⟨':', by simp, by decide⟩ rfl
  · have hfront : Yields ("/*static*/ " ++ "" ++ "void ") [.mark '/', .mark '*', .word "static",
        .mark '*', .mark '/', .word "void"] := by decide +kernel
    exact isReadIn_head hfront h.proxy hback ⟨':', by simp, by decide⟩ rfl

theorem isReadable_of_mem_body (h : p.IsReadable) : (∀ s ∈ p.initProgram.body, s.IsReadable)
    ∧ (∀ s ∈ p.rollbackProgram, s.IsReadable) ∧ ∀ s ∈ p.releaseProgram.body, s.IsReadable := by
  have hclear : ∀ s ∈ p.slots.map Statement.clearSlot, s.IsReadable := by
    intro s hs
    obtain ⟨slot, hslot, rfl⟩ := List.mem_map.1 hs
    obtain ⟨id, hid, rfl⟩ := List.mem_map.1 hslot
    exact (h.lookups id hid).slot
  have hlookups : ∀ s ∈ p.lookups.flatMap lookupStatements, s.IsReadable := by
    intro s hs
    obtain ⟨id, hid, hs⟩ := List.mem_flatMap.1 hs
    have hid := h.lookups id hid
    simp only [lookupStatements, List.mem_cons, List.not_mem_nil, or_false] at hs
    rcases hs with rfl | rfl | rfl
    · exact hid
    · exact hid.slot
    · trivial
  refine ⟨?_, List.forall_mem_cons.2 ⟨trivial, hclear⟩, ?_⟩
  · refine List.forall_mem_append.2 ⟨List.forall_mem_append.2 ⟨?_, hlookups⟩, ?_⟩
    · simp [Statement.IsReadable]
    · simp [Statement.IsReadable]
  · refine List.forall_mem_append.2 ⟨List.forall_mem_append.2 ⟨?_, hclear⟩, ?_⟩
    · simp [Statement.IsReadable]
    · simp [Statement.IsReadable]

/-- What stands in the definitions behind the macro. -/
def afterMacro (p : Proxy) : String :=
  "\n    auto& state = getClassInitState();\n" ++ ("    auto rollback = [env, &state]() \x7b\n"
    ++ (statementText "        " p.rollbackProgram ++ ("    \x7d;\n\n" ++ (p.initProgram.text
      ++ ("#undef " ++ checkMacro ++ "\n" ++ ("    return true;\n\x7d\n\n"
        ++ ("/*static*/ " ++ p.qualifier ++ "void " ++ p.names.proxy
            ++ "::releaseClazz(JNIEnv* env) \x7b\n"
          ++ ("    auto& state = getClassInitState();\n"
            ++ (p.releaseProgram.text ++ "\x7d\n")))))))))

theorem definitions_eq (p : Proxy) : p.definitions p.qualifier
    = "/*static*/ " ++ p.qualifier ++ "bool " ++ p.names.proxy ++ "::initClazz(JNIEnv* env) \x7b\n"
      ++ (p.checkDefinition ++ p.afterMacro) := by
  unfold definitions afterMacro
  simp only [String.append_assoc]

theorem reads_headRelease (h : p.IsReadable) : ReadsAs ("/*static*/ " ++ p.qualifier ++ "void "
    ++ p.names.proxy ++ "::releaseClazz(JNIEnv* env) \x7b\n") [.head .release p.names.proxy] := by
  simpa [String.append_assoc] using ReadsAs.line (isReadIn_headRelease h)

theorem reads_afterMacro (h : p.IsReadable) : ReadsAs p.afterMacro
    (p.initLines ++ .code .close :: .head .release p.names.proxy
      :: (p.releaseLines ++ [.code .close])) := by
  obtain ⟨hinit, hrollback, hrelease⟩ := isReadable_of_mem_body h
  have hbegin : ReadsAs "\n    auto& state = getClassInitState();\n" [.code .skip] :=
    .ofList (by decide +kernel)
  have hlambda : ReadsAs "    auto rollback = [env, &state]() \x7b\n" [.lambda] :=
    .ofList (by decide +kernel)
  have hundo : ReadsAs (statementText "        " p.rollbackProgram) (p.undoCode.map .code) := by
    rw [← flatMap_code_rollbackProgram]
    exact reads_statementText (.spaces 8) hrollback
  have hlambdaEnd : ReadsAs "    \x7d;\n\n" [.code .close] := .ofList (by decide +kernel)
  have hundef : ReadsAs ("#undef " ++ checkMacro ++ "\n") [.code .skip] := by
    have hline : ReadsAs "#undef JNICPP_CHECK_NULL\n" [.code .skip] := .ofList (by decide +kernel)
    simpa [checkMacro] using hline
  have hreturn : ReadsAs "    return true;\n\x7d\n\n" [.code (.give true), .code .close] :=
    .ofList (by decide +kernel)
  have hstate : ReadsAs "    auto& state = getClassInitState();\n" [.code .skip] :=
    .ofList (by decide +kernel)
  have hclose : ReadsAs "\x7d\n" [.code .close] := .ofList (by decide +kernel)
  have hrelease := (reads_headRelease h).append <| hstate.append <|
    (Guarded.reads_text hrelease).append hclose
  have hread := hbegin.append <| hlambda.append <| hundo.append <| hlambdaEnd.append <|
    (Guarded.reads_text hinit).append <| hundef.append <| hreturn.append hrelease
  simp only [initLines, releaseLines, List.cons_append, List.append_assoc,
    List.nil_append] at hread ⊢
  exact hread

/-- The definitions are read as the program. -/
theorem ofText?_definitions (h : p.IsReadable) :
    Program.ofText? (p.definitions p.qualifier) = some p.program := by
  obtain ⟨first, hfirst, hhead⟩ := (isReadIn_headInit h).exists_yields
  have hfirst : YieldsLines ("/*static*/ " ++ p.qualifier ++ "bool " ++ p.names.proxy
      ++ "::initClazz(JNIEnv* env) \x7b\n") [first] := by
    simpa [String.append_assoc] using
      YieldsLines.line hfirst.lineTokens? (Line.ne_nil_of_ofTokens? hhead)
  obtain ⟨pieces, ts, hpieces, hts, hsplit⟩ := yieldsLines_checkDefinition h
  obtain ⟨rest, hrest, hlines⟩ := reads_afterMacro h
  have htokens := (hfirst.append (hts.append hrest)).tokenLines?
  rw [definitions_eq, Program.ofText?, htokens]
  simp only [List.cons_append, List.nil_append, Option.bind_eq_bind, Option.bind_some, hhead,
    hsplit]
  rw [if_pos trivial, hpieces, hlines]
  exact ofLines?_lines p

end Proxy

/-! ### The state -/

/-- The members are read up to the line that ends the structure. -/
theorem StateMember.ofLines?_append {tss : List (List LineToken)} {members : List StateMember}
    (h : tss.mapM ofTokens? = some members) :
    ofLines? (tss ++ closing :: accessor) = some members := by
  induction tss generalizing members with
  | nil =>
    obtain rfl : [] = members := Option.some.inj h
    rw [List.nil_append, ofLines?, if_pos rfl, if_pos rfl]
  | cons ts tss ih =>
    simp only [List.mapM_cons, Option.bind_eq_bind, Option.bind_eq_some_iff] at h
    obtain ⟨member, hts, members, htss, heq⟩ := h
    have hne : ts ≠ closing := by
      rintro rfl
      cases hts
    rw [List.cons_append, ofLines?, if_neg hne, hts, ih htss]
    exact heq

namespace Proxy

/-- The members of the state. -/
def stateMembers (p : Proxy) : List StateMember :=
  (if p.config.threadSafe then [.flag true, .mutex] else [.flag false])
    ++ [.pointer "jclass" "sClazz"] ++ p.lookups.map fun id => .pointer id.kind.typeName id.slot

variable {p : Proxy}

theorem yieldsLines_pointer {id : Lookup} (h : id.IsReadable) :
    YieldsLines ("        " ++ id.kind.typeName ++ " " ++ id.slot ++ " = nullptr;\n")
      [[.word id.kind.typeName, .word id.slot, .mark '=', .word "nullptr", .mark ';']] := by
  have htype : IsWord id.kind.typeName := by cases id.kind <;> decide
  have hend : Yields " = nullptr;" [.mark '=', .word "nullptr", .mark ';'] :=
    .ofList (by decide +kernel)
  have hslot := (by decide : Yields " " []).append (hend.word h.slot ⟨' ', by simp, by decide⟩)
  have hline := (Yields.spaces 8).append (hslot.word htype ⟨' ', by simp, by decide⟩)
  simpa [String.append_assoc] using YieldsLines.line hline.lineTokens? (by simp)

theorem yieldsLines_pointers {ids : List Lookup} (h : ∀ id ∈ ids, id.IsReadable) : ∃ tss,
    YieldsLines (Text.concat (ids.map fun id =>
      "        " ++ id.kind.typeName ++ " " ++ id.slot ++ " = nullptr;\n")) tss
      ∧ tss.mapM StateMember.ofTokens?
        = some (ids.map fun id => .pointer id.kind.typeName id.slot) := by
  induction ids with
  | nil => exact ⟨[], .nil, rfl⟩
  | cons id ids ih =>
    obtain ⟨tss, htss, hmembers⟩ := ih fun id' hid => h id' (List.mem_cons_of_mem id hid)
    have hmember : StateMember.ofTokens? [.word id.kind.typeName, .word id.slot, .mark '=',
        .word "nullptr", .mark ';'] = some (.pointer id.kind.typeName id.slot) := by
      cases id.kind <;> rfl
    refine ⟨_, (yieldsLines_pointer (h id List.mem_cons_self)).append htss, ?_⟩
    simp [hmember, hmembers]

/-- The first members: the flag, the lock, and the pointer for the class. -/
theorem yieldsLines_fixedMembers (threadSafe : Bool) : ∃ tss,
    YieldsLines ((if threadSafe then
        "        std::atomic_bool sInited \x7b\x7d;\n        std::mutex sInitLock \x7b\x7d;\n"
      else "        bool sInited = false;\n") ++ "        jclass sClazz = nullptr;\n") tss
      ∧ tss.mapM StateMember.ofTokens? = some ((if threadSafe then [.flag true, .mutex]
        else [.flag false]) ++ [.pointer "jclass" "sClazz"]) := by
  have hclazz : YieldsLines "        jclass sClazz = nullptr;\n" [[.word "jclass", .word "sClazz",
      .mark '=', .word "nullptr", .mark ';']] := .ofList (by decide +kernel)
  cases threadSafe with
  | true =>
    have hmembers : YieldsLines
        "        std::atomic_bool sInited \x7b\x7d;\n        std::mutex sInitLock \x7b\x7d;\n"
        [[.word "std", .mark ':', .mark ':', .word "atomic_bool", .word "sInited", .mark '\x7b',
          .mark '\x7d', .mark ';'], [.word "std", .mark ':', .mark ':', .word "mutex",
          .word "sInitLock", .mark '\x7b', .mark '\x7d', .mark ';']] := .ofList (by decide +kernel)
    exact ⟨_, hmembers.append hclazz, rfl⟩
  | false =>
    have hmember : YieldsLines "        bool sInited = false;\n" [[.word "bool", .word "sInited",
        .mark '=', .word "false", .mark ';']] := .ofList (by decide +kernel)
    exact ⟨_, hmember.append hclazz, rfl⟩

theorem yieldsLines_accessor :
    YieldsLines ("    static inline ClassInitState& getClassInitState() \x7b\n"
      ++ ("        static ClassInitState sState;\n"
        ++ ("        return sState;\n" ++ "    \x7d\n")))
      StateMember.accessor := by
  have hhead : YieldsLines "    static inline ClassInitState& getClassInitState() \x7b\n"
    [[.word "static", .word "inline", .word "ClassInitState", .mark '&', .word "getClassInitState",
      .mark '(', .mark ')', .mark '\x7b']] := .ofList (by decide +kernel)
  have hstate : YieldsLines "        static ClassInitState sState;\n" [[.word "static",
      .word "ClassInitState", .word "sState", .mark ';']] := .ofList (by decide +kernel)
  have hreturn : YieldsLines "        return sState;\n" [[.word "return", .word "sState",
      .mark ';']] := .ofList (by decide +kernel)
  have hclose : YieldsLines "    \x7d\n" [[.mark '\x7d']] := .ofList (by decide +kernel)
  exact hhead.append (hstate.append (hreturn.append hclose))

theorem stateText_eq (p : Proxy) : p.stateText = "    struct ClassInitState \x7b\n"
    ++ ((if p.config.threadSafe then
        "        std::atomic_bool sInited \x7b\x7d;\n        std::mutex sInitLock \x7b\x7d;\n"
      else "        bool sInited = false;\n") ++ "        jclass sClazz = nullptr;\n"
    ++ Text.concat (p.lookups.map fun id =>
      "        " ++ id.kind.typeName ++ " " ++ id.slot ++ " = nullptr;\n")
    ++ ("    \x7d; // endof struct ClassInitState\n\n"
      ++ ("    static inline ClassInitState& getClassInitState() \x7b\n"
        ++ ("        static ClassInitState sState;\n"
          ++ ("        return sState;\n" ++ "    \x7d\n"))))) := by
  unfold stateText
  simp only [String.append_assoc]

/-- The state is read as its members. -/
theorem ofText?_stateText (h : p.IsReadable) :
    StateMember.ofText? p.stateText = some p.stateMembers := by
  obtain ⟨tss, htss, hmembers⟩ := yieldsLines_fixedMembers p.config.threadSafe
  have hopening : YieldsLines "    struct ClassInitState \x7b\n" [StateMember.opening] :=
    .ofList (by decide +kernel)
  have hclosing : YieldsLines "    \x7d; // endof struct ClassInitState\n\n"
      [StateMember.closing] := .ofList (by decide +kernel)
  obtain ⟨uss, huss, hpointers⟩ := yieldsLines_pointers h.lookups
  have htext := hopening.append <| (htss.append huss).append <|
    hclosing.append yieldsLines_accessor
  have hall : (tss ++ uss).mapM StateMember.ofTokens? = some p.stateMembers := by
    rw [List.mapM_append, hmembers, hpointers]
    rfl
  rw [stateText_eq, StateMember.ofText?, htext.tokenLines?]
  exact StateMember.ofLines?_append hall

end Proxy

end JniBindings
