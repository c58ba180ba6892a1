import JniBindings.Proofs.Generation.Places
import Mathlib.Data.List.Pairwise
/-!
# What a batch leaves behind

Classes are generated into the same folders one after the other, and a class can overwrite what has
been written before. The files of all reported classes are there in the end if no two classes have
the same simple name and the namespace holds no slash (`keepsFiles_of_pairwise_simple`). Without
these conditions some may be lost (`not_keepsFiles_of_place_eq`).
-/

namespace JniBindings

variable {config : Config} {kinds : List OutputKind} {out : Path} {classes : List ClassModel}
  {c : ClassModel} {kind : OutputKind} {g : GeneratedClass} {f : GeneratedFile} {home : Location}

/-- The simple names of two classes differ in C++, if both have one. -/
def DifferInSimpleName (c d : ClassModel) : Prop :=
  ∀ names names', ClassNames.ofModel c = .ok names → ClassNames.ofModel d = .ok names' →
    names.simple ≠ names'.simple

instance : Std.Symm DifferInSimpleName where
  symm _ _ h names names' hnames hnames' heq := h names' names hnames' hnames heq.symm

theorem differInSimpleName_of_ne {d : ClassModel}
    (h : identifier (Text.trim c.simpleName) ≠ identifier (Text.trim d.simpleName)) :
    DifferInSimpleName c d := by
  intro names names' hnames hnames'
  rw [(ClassNames.isMadeFrom_of_ofModel hnames).simple,
    (ClassNames.isMadeFrom_of_ofModel hnames').simple]
  exact h

/-- The fusion header does not lie in the place of a file of one of the classes. -/
def Config.FusionIsApart (config : Config) (kinds : List OutputKind) (out : Path)
    (home : Location) (classes : List ClassModel) : Prop :=
  ∀ name ∈ config.fusionFile, ∀ c ∈ classes, ∀ kind ∈ kinds, kind.AppliesTo c →
    ∀ g, generate config c kind = .ok g → ∀ f ∈ g.files,
      ((out.join proxyFolder).join name).place home ≠ (kind.path out f).place home

/-- Nothing else is written in the place of a file of a class, unless the fusion header is. -/
theorem onlyWrites_classActions (hn : config.namespacePath.StaysInFolder)
    (hsimple : classes.Pairwise DifferInSimpleName)
    (hapart : ∀ name ∈ config.fusionFile,
      ((out.join proxyFolder).join name).place home ≠ (kind.path out f).place home)
    (hc : c ∈ classes) (hg : generate config c kind = .ok g) (hf : f ∈ g.files) :
    ∀ d ∈ classes, OnlyWrites home (kind.path out f) f.content
      (classActions config kinds out d) := by
  intro d hd a ha hw
  rcases of_writesAt_classActions ha hw with
    ⟨kind', -, -, g', hg', f', hf', rfl⟩ | ⟨-, rfl⟩ | ⟨name, hname, entry, rfl⟩
  · obtain ⟨rfl, hname, names, names', hnames, hnames', heq⟩ :=
      simple_eq_of_place_eq hn hg hf hg' hf' hw
    have hcd : c = d := by
      by_contra hne
      exact hsimple.forall hc hd hne names names' hnames hnames' heq
    subst hcd
    obtain rfl := Except.ok.inj (hg.symm.trans hg')
    obtain ⟨_, _, hstem⟩ := isNamed_of_generate hg
    rw [hstem.eq_of_name_eq hf hf' hname]
  · exact absurd hw (place_ne_helperHeader hn hg hf home)
  · exact absurd hw.symm (hapart name hname)

/-- A batch loses no files: after it, all that is generated for a reported class is reported, and
has the content that is generated for the class by itself. -/
def KeepsFiles (config : Config) (kinds : List OutputKind) (out : Path) (classes : List ClassModel)
    (t : FileTree) : Prop :=
  ∀ report t', (processBatch config kinds out classes : StateM FileTree _).run t = (report, t') →
    ∀ c ∈ classes, c.name ∈ report.generated → ∀ kind ∈ kinds, kind.AppliesTo c →
      ∃ g, generate config c kind = .ok g ∧ ∀ f ∈ g.files, kind.path out f ∈ report.files
        ∧ t'.read (kind.path out f) = .ok f.content.toUTF8

theorem keepsFiles_of_pairwise_simple {t : FileTree} (hnames : (classes.map ClassModel.name).Nodup)
    (hsimple : classes.Pairwise DifferInSimpleName)
    (hn : config.namespacePath.StaysInFolder)
    (hfusion : config.FusionIsApart kinds out t.home classes) :
    KeepsFiles config kinds out classes t := by
  intro report t' h c hc hgenerated kind hk happlies
  obtain ⟨s, files, s', after, rest, hhome, hwrite, hfiles, hrest, hrun⟩ :=
    exists_writeClass_of_mem_generated h hnames (fun _ _ => List.not_mem_nil) hc hgenerated
  have hhome' := home_writeClass hwrite
  rw [writeClass] at hwrite
  obtain ⟨g, hg, hactions⟩ :=
    generate_of_fail_not_mem (fail_not_mem_of_runActions hwrite) hk happlies
  refine ⟨g, hg, fun f hf => ?_⟩
  have hapart : ∀ name ∈ config.fusionFile,
      ((out.join proxyFolder).join name).place t.home ≠ (kind.path out f).place t.home :=
    fun name hname => hfusion name hname c hc kind hk happlies g hg f hf
  have honly : ∀ d ∈ classes, OnlyWrites t.home (kind.path out f) f.content
      (classActions config kinds out d) := onlyWrites_classActions hn hsimple hapart hc hg hf
  obtain ⟨hmem, hread⟩ := read_of_mem_runActions hwrite (hhome ▸ honly c hc) (hactions f hf)
  refine ⟨hfiles hmem, read_processFrom hrun (fun d hd => ?_) hread⟩
  rw [hhome', hhome]
  exact honly d (hrest hd)

/-- Two classes, one of them with a native method. -/
def twoClasses : List ClassModel :=
  [(ClassModel.ofName "a.Foo").withMethod "f" .void [] (.ofList [.isPublic, .isNative]),
    ClassModel.ofName "b.Bar"]

theorem keepsFiles_twoClasses :
    ((processBatch {} [.glue, .proxy] ⟨"out"⟩ twoClasses : StateM FileTree _).run
        (.empty [])).1.generated = ["a.Foo", "b.Bar"]
      ∧ (twoClasses.map ClassModel.name).Nodup
      ∧ twoClasses.Pairwise DifferInSimpleName
      ∧ ({} : Config).namespacePath.StaysInFolder
      ∧ ({} : Config).FusionIsApart [.glue, .proxy] ⟨"out"⟩ [] twoClasses
      ∧ KeepsFiles {} [.glue, .proxy] ⟨"out"⟩ twoClasses (.empty []) := by
  have hnames : (twoClasses.map ClassModel.name).Nodup := by decide
  have hsimple : twoClasses.Pairwise DifferInSimpleName :=
    List.pairwise_pair.2 (differInSimpleName_of_ne (by decide +kernel))
  have hn : ({} : Config).namespacePath.StaysInFolder := nofun
  have hfusion : ({} : Config).FusionIsApart [.glue, .proxy] ⟨"out"⟩ [] twoClasses := nofun
  refine ⟨by decide +kernel, hnames, hsimple, hn, hfusion, ?_⟩
  exact keepsFiles_of_pairwise_simple hnames hsimple hn hfusion

/-! ### Lost files -/

theorem header_mem_files (g : GeneratedClass) : g.header ∈ g.files := List.mem_cons_self

/-- If the headers of two reported classes have one place but not one content, one of them is
lost. -/
theorem not_keepsFiles_of_place_eq {d : ClassModel} {kind' : OutputKind} {t : FileTree}
    (hc : c ∈ classes) (hd : d ∈ classes) (hk : kind ∈ kinds) (hk' : kind' ∈ kinds)
    (hreported : ∀ e ∈ [c, d], e.name ∈ ((processBatch config kinds out classes :
      StateM FileTree _).run t).1.generated)
    (happlies : kind.AppliesTo c) (happlies' : kind'.AppliesTo d)
    (hplace : ∀ g g', generate config c kind = .ok g → generate config d kind' = .ok g' →
      (kind.path out g.header).place t.home = (kind'.path out g'.header).place t.home
        ∧ g.header.content ≠ g'.header.content) :
    ¬ KeepsFiles config kinds out classes t := by
  intro hkeeps
  obtain ⟨report, t', hrun⟩ : ∃ report t', (processBatch config kinds out classes :
    StateM FileTree _).run t = (report, t') := ⟨_, _, rfl⟩
  rw [hrun] at hreported
  obtain ⟨g, hg, hfiles⟩ :=
    hkeeps report t' hrun c hc (hreported c List.mem_cons_self) kind hk happlies
  obtain ⟨g', hg', hfiles'⟩ := hkeeps report t' hrun d hd
    (hreported d (List.mem_cons_of_mem c List.mem_cons_self)) kind' hk' happlies'
  obtain ⟨hsame, hcontent⟩ := hplace g g' hg hg'
  have hhome : t'.home = t.home := (leads_processFrom hrun).home
  have hnode := (FileTree.read_eq_ok_iff.1 (hfiles g.header (header_mem_files g)).2).2
  have hnode' := (FileTree.read_eq_ok_iff.1 (hfiles' g'.header (header_mem_files g')).2).2
  rw [hhome] at hnode hnode'
  rw [hsame, hnode'] at hnode
  have hbytes := Node.file.inj (Option.some.inj hnode)
  exact hcontent (String.toByteArray_inj.1 hbytes.symm)

theorem Proxy.exists_header_eq (p : Proxy) :
    ∃ rest, p.header = notice ++ ("/* C++ proxy for class " ++ (p.names.slashed ++ rest)) := by
  unfold header
  simp only [String.append_assoc]
  exact ⟨_, rfl⟩

theorem Glue.exists_header_eq (g : Glue) :
    ∃ rest, g.header = notice
      ++ ("/* C++ header file for class " ++ (g.names.slashed ++ rest)) := by
  unfold header
  simp only [String.append_assoc]
  exact ⟨_, rfl⟩

/-- What the header of a proxy begins with. -/
theorem content_of_generate_proxy (h : generate config c .proxy = .ok g) :
    ∃ names rest, ClassNames.ofModel c = .ok names
      ∧ g.header.content = notice ++ ("/* C++ proxy for class " ++ (names.slashed ++ rest)) := by
  obtain ⟨names, proxy, hnames, hproxy, rfl⟩ := generate_proxy_eq_ok_iff.1 h
  obtain ⟨_, _, hp⟩ := Proxy.isMadeFrom_of_ofModel hproxy
  obtain ⟨rest, hrest⟩ := proxy.exists_header_eq
  exact ⟨names, rest, hnames, hp.names ▸ hrest⟩

/-- What the header of glue begins with. -/
theorem content_of_generate_glue (h : generate config c .glue = .ok g) :
    ∃ rest, g.header.content = notice ++ ("/* C++ header file for class " ++ rest) := by
  obtain ⟨names, glue, -, -, rfl⟩ := generate_glue_eq_ok_iff.1 h
  obtain ⟨rest, hrest⟩ := glue.exists_header_eq
  exact ⟨_, hrest⟩

/-- Two classes in different packages, with the same simple name. -/
def sameSimpleName : List ClassModel := [ClassModel.ofName "a.Foo", ClassModel.ofName "b.Foo"]

theorem not_keepsFiles_sameSimpleName :
    ¬ KeepsFiles { headerOnlyProxy := true } [.proxy] ⟨"out"⟩ sameSimpleName (.empty []) := by
  refine not_keepsFiles_of_place_eq List.mem_cons_self
    (List.mem_cons_of_mem _ List.mem_cons_self) List.mem_cons_self List.mem_cons_self
    (by decide +kernel) trivial trivial fun g g' hg hg' => ?_
  obtain ⟨names, hnames, hstem⟩ := isNamed_of_generate hg
  obtain ⟨names', hnames', hstem'⟩ := isNamed_of_generate hg'
  have hsimple : names.simple = names'.simple := by
    rw [(ClassNames.isMadeFrom_of_ofModel hnames).simple,
      (ClassNames.isMadeFrom_of_ofModel hnames').simple]
    decide +kernel
  constructor
  · rw [OutputKind.path, OutputKind.path, hstem.header, hstem'.header, Config.stem, Config.stem,
      hsimple]
  · obtain ⟨names, rest, hnames, hcontent⟩ := content_of_generate_proxy hg
    obtain ⟨names', rest', hnames', hcontent'⟩ := content_of_generate_proxy hg'
    have hslashed : names.slashed = "a/Foo" := by
      rw [(ClassNames.isMadeFrom_of_ofModel hnames).slashed]
      decide
    have hslashed' : names'.slashed = "b/Foo" := by
      rw [(ClassNames.isMadeFrom_of_ofModel hnames').slashed]
      decide
    rw [hcontent, hcontent', hslashed, hslashed', ne_eq, String.append_right_inj,
      String.append_right_inj, ← String.toList_inj]
    simp

/-- Two classes with different simple names. Out of their folders, the glue of one and the proxy of
the other have the same name. -/
def endingInProxy : List ClassModel :=
  [(ClassModel.ofName "a.FooProxy").withMethod "f" .void [] (.ofList [.isPublic, .isNative]),
    ClassModel.ofName "a.Foo"]

/-- A namespace that leads out of a folder. -/
def leadingOut : Config :=
  { headerOnlyProxy := true, glueSource := false, namespacePath := .ofText "../x" }

theorem not_keepsFiles_endingInProxy :
    ¬ KeepsFiles leadingOut [.glue, .proxy] ⟨"out"⟩ endingInProxy (.empty []) := by
  refine not_keepsFiles_of_place_eq List.mem_cons_self
    (List.mem_cons_of_mem _ List.mem_cons_self) List.mem_cons_self
    (List.mem_cons_of_mem _ List.mem_cons_self) (by decide +kernel) (by decide) trivial
    fun g g' hg hg' => ?_
  constructor
  · obtain ⟨names, hnames, hstem⟩ := isNamed_of_generate hg
    obtain ⟨names', hnames', hstem'⟩ := isNamed_of_generate hg'
    rw [OutputKind.path, OutputKind.path, hstem.header, hstem'.header, Config.stem, Config.stem,
      (ClassNames.isMadeFrom_of_ofModel hnames).simple,
      (ClassNames.isMadeFrom_of_ofModel hnames').simple]
    decide +kernel
  · obtain ⟨rest, hcontent⟩ := content_of_generate_glue hg
    obtain ⟨names', rest', -, hcontent'⟩ := content_of_generate_proxy hg'
    rw [hcontent, hcontent', ne_eq, String.append_right_inj, ← String.toList_inj]
    simp

/-- Different qualified names do not suffice to keep all files, nor do different simple names. -/
theorem exists_not_keepsFiles :
    ((sameSimpleName.map ClassModel.name).Nodup
        ∧ Config.FusionIsApart { headerOnlyProxy := true } [.proxy] ⟨"out"⟩ [] sameSimpleName
        ∧ ¬ KeepsFiles { headerOnlyProxy := true } [.proxy] ⟨"out"⟩ sameSimpleName (.empty []))
      ∧ (endingInProxy.map ClassModel.name).Nodup
        ∧ endingInProxy.Pairwise DifferInSimpleName
        ∧ leadingOut.FusionIsApart [.glue, .proxy] ⟨"out"⟩ [] endingInProxy
        ∧ ¬ KeepsFiles leadingOut [.glue, .proxy] ⟨"out"⟩ endingInProxy (.empty []) := by
  refine ⟨⟨by decide, nofun, not_keepsFiles_sameSimpleName⟩, by decide, ?_, nofun,
    not_keepsFiles_endingInProxy⟩
  exact List.pairwise_pair.2 (differInSimpleName_of_ne (by decide +kernel))

end JniBindings
