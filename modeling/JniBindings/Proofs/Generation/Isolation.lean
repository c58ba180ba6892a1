import JniBindings.Proofs.Generation.Batch
import JniBindings.Proofs.Generation.FusionHeader
/-!
# Classes that fail

A class can fail after it has written some of its files. The others are generated as if it had not
been there (`isolatesFailures_of_pairwise_simple`): the fusion header only gets what they add to it,
so that every one of them finds in it what it would have found (`outcome_eq_of_sameFile`), and the
files of the class that has failed lie in other places than theirs. In a namespace that leads out of
a folder they may lie in the same place (`exists_not_isolatesFailures`).

A class that has failed may also leave a folder through which the path of the fusion header leads.
Access to files and folders is therefore asked for both with it and without it.
-/

namespace JniBindings

variable {t t' s s' u u' : FileTree} {p header : Path} {header? : Option Path} {content : String}
  {a : Action} {actions rest : List Action}

/-! ### Two runs of the same actions -/

/-- An action has the same result wherever the fusion header is the same. -/
theorem Action.result_eq_of_sameFile {result result' : Except Failure Unit}
    (h : (a.run : StateM FileTree _).run s = (result, s'))
    (h' : (a.run : StateM FileTree _).run u = (result', u'))
    (hio : result ≠ .error .io) (hio' : result' ≠ .error .io) (hhome : u.home = s.home)
    (hf : FusesLast s.home header? (a :: rest))
    (hsame : ∀ header ∈ header?, s.SameFile (header.place s.home) u) : result = result' := by
  cases a with
  | createFolder | write =>
    obtain ⟨rfl, -⟩ := Prod.mk.inj h
    obtain ⟨rfl, -⟩ := Prod.mk.inj h'
    rw [of_orFail_ne_io hio, of_orFail_ne_io hio']
  | fail failure =>
    obtain ⟨rfl, -⟩ := Prod.mk.inj h
    obtain ⟨rfl, -⟩ := Prod.mk.inj h'
    rfl
  | register path entry =>
    obtain ⟨text, htext, hresult⟩ := result_of_registerProxy h hio
    obtain ⟨text', htext', hresult'⟩ := result_of_registerProxy h' hio'
    rw [hhome] at htext'
    obtain rfl := (hsame path (hf.mem path entry List.mem_cons_self)).text_eq htext htext'
    rw [hresult, hresult']

/-- Actions have the same outcome wherever the fusion header is the same. -/
theorem outcome_eq_of_sameFile {written : List Path} {outcome outcome' : Except Failure (List Path)}
    (h : (runActions written actions : StateM FileTree _).run s = (outcome, s'))
    (h' : (runActions written actions : StateM FileTree _).run u = (outcome', u'))
    (hio : outcome ≠ .error .io) (hio' : outcome' ≠ .error .io) (hhome : u.home = s.home)
    (hf : FusesLast s.home header? actions)
    (hsame : ∀ header ∈ header?, s.SameFile (header.place s.home) u) : outcome = outcome' := by
  induction actions generalizing s u written with
  | nil =>
    obtain ⟨rfl, -⟩ := Prod.mk.inj h
    obtain ⟨rfl, -⟩ := Prod.mk.inj h'
    rfl
  | cons a rest ih =>
    have hfu : FusesLast u.home header? (a :: rest) := hhome ▸ hf
    rcases runActions_cons h with ⟨s₁, ha, hrest⟩ | ⟨failure, ha, rfl⟩
    · rcases runActions_cons h' with ⟨u₁, ha', hrest'⟩ | ⟨failure', ha', rfl⟩
      · have hs₁ := (Action.leads_run ha).home
        have hu₁ := (Action.leads_run ha').home
        refine ih hrest hrest' (by rw [hs₁, hu₁, hhome]) ?_ fun header hheader => ?_
        · rw [hs₁]
          exact hf.of_cons (ne_fail_of_run ha)
        · have hfirst := Action.fuses_run ha nofun hf hheader
          have hfirst' := Action.fuses_run ha' nofun hfu hheader
          rw [hhome] at hfirst'
          rw [hs₁]
          exact hfirst.sameFile hfirst' (hsame header hheader)
      · have hresult :=
          Action.result_eq_of_sameFile ha ha' nofun (error_ne_io hio') hhome hf hsame
        cases hresult
    · rcases runActions_cons h' with ⟨u₁, ha', hrest'⟩ | ⟨failure', ha', rfl⟩
      · have hresult :=
          Action.result_eq_of_sameFile ha ha' (error_ne_io hio) nofun hhome hf hsame
        cases hresult
      · have hresult := Action.result_eq_of_sameFile ha ha' (error_ne_io hio) (error_ne_io hio')
          hhome hf hsame
        rw [Except.error.inj hresult]

/-! ### Two lists of classes -/

variable {config : Config} {kinds : List OutputKind} {out : Path} {classes : List ClassModel}
  {c : ClassModel} {report report' final final' : BatchReport}

/-- Without the classes that fail, the same is reported for the others, and the fusion header is the
same in the end if it was at the start. -/
theorem processFrom_succeeding
    (h : (processFrom report config kinds out classes : StateM FileTree _).run s = (final, s'))
    (h' : (processFrom report' config kinds out (succeeding config kinds out s classes) :
      StateM FileTree _).run u = (final', u'))
    (hio : final.HadAccess) (hio' : final'.HadAccess) (hhome : u.home = s.home)
    (hf : config.FusionIsAlone kinds out s.home classes)
    (hsame : ∀ header ∈ config.fusionPath? out, s.SameFile (header.place s.home) u)
    (hreport : report' = { report with failures := [] }) :
    final' = { final with failures := [] }
      ∧ ∀ header ∈ config.fusionPath? out, s'.SameFile (header.place s.home) u' := by
  induction classes generalizing s u report report' with
  | nil =>
    obtain ⟨rfl, rfl⟩ := Prod.mk.inj h
    obtain ⟨rfl, rfl⟩ := Prod.mk.inj h'
    exact ⟨hreport, hsame⟩
  | cons c rest ih =>
    obtain ⟨outcome, s₁, hc, hrest⟩ := processFrom_cons h
    have hs₁ := home_writeClass hc
    have hlast := fusesLast_classActions hf List.mem_cons_self
    have hne := ne_io_of_processFrom hrest hio
    have hf' := hf.of_subset (List.subset_cons_self c rest)
    rw [← hs₁] at hf' ⊢
    cases outcome with
    | ok files =>
      rw [succeeding_cons_of_ok hc] at h'
      obtain ⟨outcome', u₁, hc', hrest'⟩ := processFrom_cons h'
      have hu₁ := home_writeClass hc'
      have hne' := ne_io_of_processFrom hrest' hio'
      obtain rfl : .ok files = outcome' :=
        outcome_eq_of_sameFile hc hc' hne hne' hhome hlast hsame
      refine ih hrest hrest' (by rw [hs₁, hu₁, hhome]) hf' (fun header hheader => ?_) ?_
      · have hfuses := fuses_writeClass hc hne hf List.mem_cons_self hheader
        have hfuses' := fuses_writeClass hc' hne' (hhome ▸ hf) List.mem_cons_self hheader
        rw [hhome] at hfuses'
        rw [hs₁]
        exact hfuses.sameFile hfuses' (hsame header hheader)
      · rw [hreport]
        rfl
    | error failure =>
      rw [succeeding_cons_of_error hc] at h'
      refine ih hrest h' (by rw [hs₁, hhome]) hf' (fun header hheader => ?_) hreport
      have hfuses := fuses_writeClass hc hne hf List.mem_cons_self hheader
      rw [hs₁]
      exact hfuses.sameFile (.nothing (.refl _ u)) (hsame header hheader)

/-! ### Files that are reported -/

theorem exists_action_of_mem_files {written files : List Path}
    (h : (runActions written actions : StateM FileTree _).run t = (.ok files, t'))
    (hp : p ∈ files) : p ∈ written ∨ ∃ a ∈ actions,
      (∃ content, a = .write p content) ∨ ∃ entry, a = .register p entry := by
  induction actions generalizing t written with
  | nil =>
    obtain ⟨hfiles, -⟩ := Prod.mk.inj h
    exact Or.inl (Except.ok.inj hfiles ▸ hp)
  | cons a rest ih =>
    rcases runActions_cons h with ⟨s, -, hrest⟩ | ⟨failure, -, herror⟩
    · rcases ih hrest with hmem | ⟨b, hb, hpath⟩
      · have hnew {path : Path} (hmem : p ∈ written ++ [path]) : p ∈ written ∨ p = path :=
          (List.mem_append.1 hmem).imp id List.mem_singleton.1
        cases a with
        | createFolder | fail => exact Or.inl hmem
        | write path content =>
          refine (hnew hmem).imp id ?_
          rintro rfl
          exact ⟨_, List.mem_cons_self, Or.inl ⟨content, rfl⟩⟩
        | register path entry =>
          rw [Action.report] at hmem
          split at hmem
          · exact Or.inl hmem
          · refine (hnew hmem).imp id ?_
            rintro rfl
            exact ⟨_, List.mem_cons_self, Or.inr ⟨entry, rfl⟩⟩
      · exact Or.inr ⟨b, List.mem_cons_of_mem a hb, hpath⟩
    · cases herror

/-- What an action that is possible has written can be read after all of them. -/
theorem exists_read_of_mem_actions {written files : List Path}
    (h : (runActions written actions : StateM FileTree _).run t = (.ok files, t'))
    (ha : a ∈ actions) (hp : (∃ content, a = .write p content) ∨ ∃ entry, a = .register p entry) :
    ∃ content, t'.read p = .ok content := by
  induction actions generalizing t written with
  | nil => cases ha
  | cons b rest ih =>
    rcases runActions_cons h with ⟨s, hb, hrest⟩ | ⟨failure, -, herror⟩
    · rcases List.mem_cons.1 ha with rfl | ha
      · have hread : ∃ content, s.read p = .ok content := by
          rcases hp with ⟨content, rfl⟩ | ⟨entry, rfl⟩
          · exact ⟨_, read_of_run_write hb⟩
          · obtain ⟨_, -, ⟨_, -, herror, -⟩ | ⟨merged, -, -, hread⟩⟩ :=
              of_run_registerProxy hb nofun
            · cases herror
            · exact ⟨_, hread⟩
        obtain ⟨content, hread⟩ := hread
        exact (leads_runActions hrest).exists_read hread
      · exact ih hrest ha
    · cases herror

/-- Every reported file is there in the end. -/
theorem exists_read_of_mem_files
    (h : (processBatch config kinds out classes : StateM FileTree _).run t = (final, t'))
    (hp : p ∈ final.files) : ∃ content, t'.read p = .ok content := by
  rcases exists_writeClass_of_mem_files h hp with hnil | ⟨c, -, s, files, s', _, rest, -, hwrite,
    hmem, -, hrest⟩
  · cases hnil
  · obtain ⟨a, ha, hpath⟩ := (exists_action_of_mem_files hwrite hmem).resolve_left List.not_mem_nil
    obtain ⟨content, hread⟩ := exists_read_of_mem_actions hwrite ha hpath
    exact (leads_processFrom hrest).exists_read hread

/-- A reported file has the content that is written in its place, if there is only one. -/
theorem read_of_mem_files
    (h : (processBatch config kinds out classes : StateM FileTree _).run t = (final, t'))
    (hp : p ∈ final.files)
    (honly : ∀ c ∈ classes, OnlyWrites t.home p content (classActions config kinds out c)) :
    t'.read p = .ok content.toUTF8 := by
  rcases exists_writeClass_of_mem_files h hp with hnil | ⟨c, hc, s, files, s', _, rest, hs, hwrite,
    hmem, hsub, hrest⟩
  · cases hnil
  · obtain ⟨a, ha, hpath⟩ := (exists_action_of_mem_files hwrite hmem).resolve_left List.not_mem_nil
    have hw : a.WritesAt t.home (p.place t.home) := by
      rcases hpath with ⟨_, rfl⟩ | ⟨_, rfl⟩ <;> rfl
    obtain rfl := honly c hc a ha hw
    obtain ⟨-, hread⟩ := read_of_mem_runActions hwrite (hs ▸ honly c hc) ha
    refine read_processFrom hrest (fun d hd => ?_) hread
    rw [home_writeClass hwrite, hs]
    exact honly d (hsub hd)

/-! ### With and without the classes that fail -/

/-- What is written for a class is the only thing written in its place, unless the fusion header
is. -/
theorem onlyWrites_of_mem (hn : config.namespacePath.StaysInFolder)
    (hsimple : classes.Pairwise DifferInSimpleName) {home : Location}
    (hapart : ∀ header ∈ config.fusionPath? out, header.place home ≠ p.place home)
    (hc : c ∈ classes) (hmem : .write p content ∈ classActions config kinds out c) :
    ∀ d ∈ classes, OnlyWrites home p content (classActions config kinds out d) := by
  have hname : ∀ name ∈ config.fusionFile,
      ((out.join proxyFolder).join name).place home ≠ p.place home :=
    fun name hname => hapart _ (Option.mem_map_of_mem _ hname)
  have hw : (Action.write p content).WritesAt home (p.place home) := rfl
  rcases of_writesAt_classActions hmem hw with
    ⟨kind, -, -, g, hg, f, hf, h⟩ | ⟨-, h⟩ | ⟨_, _, _, h⟩
  · obtain ⟨rfl, rfl⟩ := Action.write.inj h
    exact onlyWrites_classActions hn hsimple hname hc hg hf
  · obtain ⟨rfl, rfl⟩ := Action.write.inj h
    intro d _ b hb hwb
    rcases of_writesAt_classActions hb hwb with
      ⟨kind, -, -, g, hg, f, hf, rfl⟩ | ⟨-, rfl⟩ | ⟨name, hmem', _, rfl⟩
    · exact absurd hwb.symm (place_ne_helperHeader hn hg hf home)
    · rfl
    · exact absurd hwb.symm (hname name hmem')
  · cases h

/-- Different classes add different terms to the fusion header. -/
theorem termOf_ne_of_mem_entries {d : ClassModel} {names : ClassNames} {entry : FusionEntry}
    (hdiffer : DifferInSimpleName c d) (hnames : ClassNames.ofModel c = .ok names)
    (h : entry ∈ config.entries kinds out d) :
    Fusion.termOf entry ≠ ⟨config.namespacePath.path, names.proxy⟩ := by
  obtain ⟨names', hnames', rfl⟩ := of_mem_entries h
  intro hterm
  have hproxy : names'.proxy = names.proxy := (FusionTerm.mk.inj hterm).2
  rw [(ClassNames.isMadeFrom_of_ofModel hnames).proxy,
    (ClassNames.isMadeFrom_of_ofModel hnames').proxy, String.append_left_inj] at hproxy
  exact hdiffer names names' hnames hnames' hproxy.symm

/-- A batch `(report, t')` and the batch `(report', u')` without the classes that have failed in the
first. -/
structure Isolated (config : Config) (kinds : List OutputKind) (out : Path)
    (classes : List ClassModel) (t : FileTree) (report report' : BatchReport) (t' u' : FileTree) :
    Prop where
  report_eq : report' = { report with failures := [] }
  files : ∀ p ∈ report.files, ∃ content, t'.read p = .ok content ∧ u'.read p = .ok content
  header : ∀ header ∈ config.fusionPath? out, t'.SameFile (header.place t.home) u'
  entries : ∀ header ∈ config.fusionPath? out, t.Fuses (header.place t.home) t'
    ((succeeding config kinds out t classes).flatMap (config.entries kinds out))
  terms : ∀ c ∈ classes, c ∉ succeeding config kinds out t classes →
    ∀ names, ClassNames.ofModel c = .ok names →
      ∀ d ∈ succeeding config kinds out t classes, ∀ entry ∈ config.entries kinds out d,
        Fusion.termOf entry ≠ ⟨config.namespacePath.path, names.proxy⟩

/-- The classes of a batch that fail make no difference to the others, as long as files and folders
can be accessed with them and without them. -/
def IsolatesFailures (config : Config) (kinds : List OutputKind) (out : Path)
    (classes : List ClassModel) (t : FileTree) : Prop :=
  ∀ report t' report' u',
    (processBatch config kinds out classes : StateM FileTree _).run t = (report, t') →
    (processBatch config kinds out (succeeding config kinds out t classes) :
      StateM FileTree _).run t = (report', u') →
    report.HadAccess → report'.HadAccess →
    Isolated config kinds out classes t report report' t' u'

theorem isolatesFailures_of_pairwise_simple (hsimple : classes.Pairwise DifferInSimpleName)
    (hn : config.namespacePath.StaysInFolder)
    (hf : config.FusionIsAlone kinds out t.home classes) :
    IsolatesFailures config kinds out classes t := by
  intro report t' report' u' h h' hio hio'
  have hsub : (succeeding config kinds out t classes).Sublist classes :=
    succeeding_sublist t classes
  obtain ⟨hreport, hsame⟩ :=
    processFrom_succeeding h h' hio hio' rfl hf (fun _ _ => .refl _ t) rfl
  have hfiles : report'.files = report.files := by rw [hreport]
  refine ⟨hreport, fun p hp => ?_, hsame, fun header => fuses_processFrom h hio hf, ?_⟩
  · have hp' : p ∈ report'.files := hfiles ▸ hp
    rcases exists_writeClass_of_mem_files h hp with hnil | ⟨c, hc, s, files, s', _, _, -, hwrite,
      hmem, -, -⟩
    · cases hnil
    obtain ⟨a, ha, ⟨content, rfl⟩ | ⟨entry, rfl⟩⟩ :=
      (exists_action_of_mem_files hwrite hmem).resolve_left List.not_mem_nil
    · have hattempted := attempted_eq_self (fail_not_mem_of_runActions hwrite)
      have hapart : ∀ header ∈ config.fusionPath? out, header.place t.home ≠ p.place t.home :=
        fun header hheader =>
          hf header hheader c hc (.write p content) (hattempted.symm ▸ ha) rfl
      have honly := onlyWrites_of_mem hn hsimple hapart hc ha
      refine ⟨_, read_of_mem_files h hp honly, read_of_mem_files h' hp' fun d hd => ?_⟩
      exact honly d (hsub.subset hd)
    · -- the fusion header is the one file that several classes write
      have hheader := (fusesLast_classActions hf hc).mem p entry ha
      obtain ⟨content, hread⟩ := exists_read_of_mem_files h hp
      obtain ⟨content', hread'⟩ := exists_read_of_mem_files h' hp'
      have hnode := (FileTree.read_eq_ok_iff.1 hread).2
      have hnode' := (FileTree.read_eq_ok_iff.1 hread').2
      rw [(leads_processFrom h).home, hsame p hheader] at hnode
      rw [(leads_processFrom h').home, hnode] at hnode'
      obtain rfl := Node.file.inj (Option.some.inj hnode')
      exact ⟨content, hread, hread'⟩
  · intro c hc hfailed names hnames d hd entry hentry
    refine termOf_ne_of_mem_entries ?_ hnames hentry
    have hne : c ≠ d := fun heq => hfailed (heq ▸ hd)
    exact hsimple.forall hc (hsub.subset hd) hne

/-- Two classes with native methods. The first fails after its glue has been written. -/
def failingFirst : List ClassModel :=
  [((ClassModel.ofName "a.Bad").withMethod "f" .void [] (.ofList [.isPublic, .isNative])).withMethod
      "g" .null [] (.ofList [.isPublic]),
    (ClassModel.ofName "a.Foo").withMethod "f" .void [] (.ofList [.isPublic, .isNative])]

/-- Options with a helper header and a fusion header. -/
def withFusion : Config :=
  { useJniHelper := true, namespacePath := ⟨["a", "b"]⟩, fusionFile := some "all.h" }

theorem isolatesFailures_failingFirst :
    ((processBatch withFusion [.glue, .proxy] ⟨"out"⟩ failingFirst : StateM FileTree _).run
        (.empty [])).1.generated = ["a.Foo"]
      ∧ failingFirst.Pairwise DifferInSimpleName
      ∧ withFusion.namespacePath.StaysInFolder
      ∧ withFusion.FusionIsAlone [.glue, .proxy] ⟨"out"⟩ [] failingFirst
      ∧ IsolatesFailures withFusion [.glue, .proxy] ⟨"out"⟩ failingFirst (.empty []) := by
  have hsimple : failingFirst.Pairwise DifferInSimpleName :=
    List.pairwise_pair.2 (differInSimpleName_of_ne (by decide +kernel))
  have hn : withFusion.namespacePath.StaysInFolder := by
    unfold Namespace.StaysInFolder
    decide
  have hf : withFusion.FusionIsAlone [.glue, .proxy] ⟨"out"⟩ [] failingFirst := by
    decide +kernel
  refine ⟨by decide +kernel, hsimple, hn, hf, ?_⟩
  exact isolatesFailures_of_pairwise_simple hsimple hn hf

/-! ### Traces of a class that fails -/

/-- If a reported file is another one without the classes that fail, they are not isolated. -/
theorem not_isolatesFailures_of_read_ne
    (hio : ((processBatch config kinds out classes : StateM FileTree _).run t).1.HadAccess)
    (hio' : ((processBatch config kinds out (succeeding config kinds out t classes) :
      StateM FileTree _).run t).1.HadAccess)
    (hp : p ∈ ((processBatch config kinds out classes : StateM FileTree _).run t).1.files)
    (hne : (((processBatch config kinds out classes : StateM FileTree _).run t).2.read p).toOption
      ≠ (((processBatch config kinds out (succeeding config kinds out t classes) :
        StateM FileTree _).run t).2.read p).toOption) :
    ¬ IsolatesFailures config kinds out classes t := by
  intro h
  obtain ⟨content, hread, hread'⟩ := (h _ _ _ _ rfl rfl hio hio').files p hp
  exact hne (congrArg Except.toOption (hread.trans hread'.symm))

/-- Two classes with different simple names, of which the second fails after its glue has been
written. Out of their folders, this glue and the proxy of the first have the same name. -/
def failingLast : List ClassModel :=
  [ClassModel.ofName "a.Foo",
    ((ClassModel.ofName "a.FooProxy").withMethod "f" .void [] (.ofList [.isPublic, .isNative])
      ).withMethod "g" .null [] (.ofList [.isPublic])]

/-- Different simple names and a fusion header of its own do not suffice to isolate failures. -/
theorem exists_not_isolatesFailures :
    failingLast.Pairwise DifferInSimpleName
      ∧ leadingOut.FusionIsAlone [.glue, .proxy] ⟨"out"⟩ [] failingLast
      ∧ ¬ IsolatesFailures leadingOut [.glue, .proxy] ⟨"out"⟩ failingLast (.empty []) := by
  have hsimple : failingLast.Pairwise DifferInSimpleName :=
    List.pairwise_pair.2 (differInSimpleName_of_ne (by decide +kernel))
  have hf : leadingOut.FusionIsAlone [.glue, .proxy] ⟨"out"⟩ [] failingLast := by decide +kernel
  refine ⟨hsimple, hf, ?_⟩
  exact not_isolatesFailures_of_read_ne (by decide +kernel) (by decide +kernel)
    (by decide +kernel : (⟨"out/proxy/../x_FooProxy.h"⟩ : Path) ∈ _) (by decide +kernel)

end JniBindings
