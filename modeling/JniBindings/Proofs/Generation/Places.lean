import JniBindings.Proofs.ClassNames
import JniBindings.Proofs.Generation.Run
import JniBindings.Proofs.Namespace
import JniBindings.Proofs.Proxy.Members
/-!
# Where generated files lie

The names of the files of a class are made from its simple name (`isNamed_of_generate`), so that
classes with different simple names have different files, as long as no namespace leads out of the
folders of the generation (`simple_eq_of_place_eq`). Besides the files of a class a generation only
writes the helper header and the fusion header (`of_writesAt_classActions`).
-/

namespace JniBindings

variable {config : Config} {names : ClassNames} {c d : ClassModel} {kinds : List OutputKind}
  {f f' : GeneratedFile} {out : Path}

/-! ### Names of files -/

/-- What the names of the files of a class end with. -/
def fileEndings : List String := [".h", ".cpp"]

theorem append_ending_inj {s s' ending ending' : String} (he : ending ∈ fileEndings)
    (he' : ending' ∈ fileEndings) (h : s ++ ending = s' ++ ending') :
    s = s' ∧ ending = ending' := by
  have hlast := congrArg (fun s => s.toList.getLast?) h
  simp only [fileEndings, List.mem_cons, List.not_mem_nil, or_false] at he he'
  rcases he with rfl | rfl <;> rcases he' with rfl | rfl
  · exact ⟨(String.append_left_inj _).1 h, rfl⟩
  · simp at hlast
  · simp at hlast
  · exact ⟨(String.append_left_inj _).1 h, rfl⟩

theorem isFileName_of_getLast? {name : String} {c : Char} (h : '/' ∉ name.toList)
    (hlast : name.toList.getLast? = some c) (hc : c ≠ '.') : IsFileName name where
  no_slash := h
  isStep := by
    rw [Path.isStep, Bool.and_eq_true, decide_eq_true_eq, decide_eq_true_eq]
    constructor
    · rintro rfl
      cases hlast
    · rintro rfl
      exact hc (Option.some.inj hlast).symm
  ne_parent := by
    rintro rfl
    exact hc (Option.some.inj hlast).symm

theorem isFileName_append_ending {s ending : String} (h : '/' ∉ s.toList)
    (he : ending ∈ fileEndings) : IsFileName (s ++ ending) := by
  simp only [fileEndings, List.mem_cons, List.not_mem_nil, or_false] at he
  rcases he with rfl | rfl
  · exact isFileName_of_getLast? (by simp [h]) (by simp) (by decide : 'h' ≠ '.')
  · exact isFileName_of_getLast? (by simp [h]) (by simp) (by decide : 'p' ≠ '.')

/-- The names of the files of a class, a header and possibly a source, only differ in their
endings. -/
structure GeneratedClass.IsNamed (stem : String) (g : GeneratedClass) : Prop where
  header : g.header.name = stem ++ ".h"
  source : ∀ f ∈ g.source, f.name = stem ++ ".cpp"

theorem Glue.isNamed_files {g : Glue} (h : Glue.ofModel config names c = .ok g) :
    g.files.IsNamed (config.namespacePath.fileStart ++ names.simple) := by
  obtain ⟨functions, -, h⟩ := bind_eq_ok_iff.1 h
  have hg := Except.ok.inj h
  subst hg
  refine ⟨rfl, fun f hf => ?_⟩
  obtain ⟨-, hsource⟩ := Option.ite_some_none_eq_some.1 hf
  rw [← hsource]

theorem Proxy.isNamed_files {p : Proxy} (h : Proxy.ofModel config names c = .ok p) :
    p.files.IsNamed (config.namespacePath.fileStart ++ names.proxy) := by
  obtain ⟨_, _, hp⟩ := Proxy.isMadeFrom_of_ofModel h
  refine ⟨hp.headerName, fun f hf => ?_⟩
  obtain ⟨-, hsource⟩ := Option.ite_none_left_eq_some.1 hf
  rw [← Option.some.inj hsource]
  exact hp.sourceName

/-! ### Files of classes -/

/-- The folder for one kind of files. -/
def OutputKind.folder : OutputKind → String
  | glue => glueFolder
  | proxy => proxyFolder

/-- There is something to generate for a class: glue only for native methods. -/
def OutputKind.AppliesTo (c : ClassModel) : OutputKind → Prop
  | glue => Glue.nativeMethods c ≠ []
  | proxy => True

instance (c : ClassModel) : (kind : OutputKind) → Decidable (kind.AppliesTo c)
  | .glue => inferInstanceAs (Decidable (Glue.nativeMethods c ≠ []))
  | .proxy => inferInstanceAs (Decidable True)

/-- What the names of files of one kind hold after the simple name of their class. -/
def OutputKind.nameEnding : OutputKind → String
  | glue => ""
  | proxy => ClassNames.proxyEnding

/-- What the names of the files of one kind begin with. -/
def Config.stem (config : Config) (names : ClassNames) (kind : OutputKind) : String :=
  config.namespacePath.fileStart ++ (names.simple ++ kind.nameEnding)

/-- The path of a file of one kind. -/
def OutputKind.path (kind : OutputKind) (out : Path) (f : GeneratedFile) : Path :=
  (out.join kind.folder).join f.name

variable {kind kind' : OutputKind} {g g' : GeneratedClass}

theorem generate_glue_eq_ok_iff : generate config c .glue = .ok g
    ↔ ∃ names glue, ClassNames.ofModel c = .ok names ∧ Glue.ofModel config names c = .ok glue
      ∧ g = glue.files := by
  simp only [generate, bind_eq_ok_iff]
  constructor
  · rintro ⟨names, hnames, glue, hglue, h⟩
    exact ⟨names, glue, hnames, hglue, (Except.ok.inj h).symm⟩
  · rintro ⟨names, glue, hnames, hglue, rfl⟩
    exact ⟨names, hnames, glue, hglue, rfl⟩

theorem generate_proxy_eq_ok_iff : generate config c .proxy = .ok g
    ↔ ∃ names proxy, ClassNames.ofModel c = .ok names ∧ Proxy.ofModel config names c = .ok proxy
      ∧ g = proxy.files := by
  simp only [generate, bind_eq_ok_iff]
  constructor
  · rintro ⟨names, hnames, proxy, hproxy, h⟩
    exact ⟨names, proxy, hnames, hproxy, (Except.ok.inj h).symm⟩
  · rintro ⟨names, proxy, hnames, hproxy, rfl⟩
    exact ⟨names, hnames, proxy, hproxy, rfl⟩

theorem isNamed_of_generate (h : generate config c kind = .ok g) :
    ∃ names, ClassNames.ofModel c = .ok names ∧ g.IsNamed (config.stem names kind) := by
  cases kind with
  | glue =>
    obtain ⟨names, glue, hnames, hglue, rfl⟩ := generate_glue_eq_ok_iff.1 h
    refine ⟨names, hnames, ?_⟩
    rw [Config.stem, OutputKind.nameEnding, String.append_empty]
    exact Glue.isNamed_files hglue
  | proxy =>
    obtain ⟨names, proxy, hnames, hproxy, rfl⟩ := generate_proxy_eq_ok_iff.1 h
    refine ⟨names, hnames, ?_⟩
    rw [Config.stem, OutputKind.nameEnding, ← (ClassNames.isMadeFrom_of_ofModel hnames).proxy]
    exact Proxy.isNamed_files hproxy

theorem GeneratedClass.mem_files : f ∈ g.files ↔ f = g.header ∨ f ∈ g.source := by
  rw [files, List.mem_cons]
  exact or_congr_right Option.mem_toList

theorem GeneratedClass.IsNamed.exists_ending {stem : String} (h : g.IsNamed stem)
    (hf : f ∈ g.files) : ∃ ending ∈ fileEndings, f.name = stem ++ ending := by
  rcases GeneratedClass.mem_files.1 hf with rfl | hf
  · exact ⟨".h", List.mem_cons_self, h.header⟩
  · exact ⟨".cpp", List.mem_cons_of_mem _ List.mem_cons_self, h.source f hf⟩

/-- The files of a class can be told from each other by their names. -/
theorem GeneratedClass.IsNamed.eq_of_name_eq {stem : String} (h : g.IsNamed stem) (hf : f ∈ g.files)
    (hf' : f' ∈ g.files) (hname : f.name = f'.name) : f = f' := by
  have hne : stem ++ ".h" ≠ stem ++ ".cpp" := by simp
  rcases GeneratedClass.mem_files.1 hf with rfl | hf
  · rcases GeneratedClass.mem_files.1 hf' with rfl | hf'
    · rfl
    · exact absurd (h.header.symm.trans (hname.trans (h.source f' hf'))) hne
  · rcases GeneratedClass.mem_files.1 hf' with rfl | hf'
    · exact absurd (h.header.symm.trans (hname.symm.trans (h.source f hf))) hne
    · exact Option.some.inj (hf.symm.trans hf')

/-- No segment of the namespace holds a slash. -/
def Namespace.StaysInFolder (n : Namespace) : Prop := ∀ s ∈ n.segments, '/' ∉ s.toList

theorem Config.slash_not_mem_stem (hn : config.namespacePath.StaysInFolder)
    (hnames : ClassNames.ofModel c = .ok names) (kind : OutputKind) :
    '/' ∉ (config.stem names kind).toList := by
  rw [stem, String.toList_append, String.toList_append, List.mem_append, List.mem_append, not_or,
    not_or]
  refine ⟨fun h => ?_, fun h => ?_, by cases kind <;> decide⟩
  · rcases Namespace.mem_fileStart h with h | ⟨segment, hsegment, h⟩
    · exact absurd h (by decide)
    · exact hn segment hsegment h
  · have hword := (ClassNames.isMadeFrom_of_ofModel hnames).isWordChar_of_mem_simple h
    exact absurd hword (by decide)

theorem OutputKind.isFileName_folder (kind : OutputKind) : IsFileName kind.folder := by
  cases kind with
  | glue => exact isFileName_of_getLast? (by decide) rfl (by decide : 'e' ≠ '.')
  | proxy => exact isFileName_of_getLast? (by decide) rfl (by decide : 'y' ≠ '.')

theorem OutputKind.isFileName_of_generate (hn : config.namespacePath.StaysInFolder)
    (h : generate config c kind = .ok g) (hf : f ∈ g.files) : IsFileName f.name := by
  obtain ⟨names, hnames, hg⟩ := isNamed_of_generate h
  obtain ⟨ending, hending, hname⟩ := hg.exists_ending hf
  rw [hname]
  exact isFileName_append_ending (config.slash_not_mem_stem hn hnames kind) hending

/-- A file of one kind lies in the folder for this kind. -/
theorem OutputKind.place_path (kind : OutputKind) (out : Path) (hf : IsFileName f.name)
    (home : Location) :
    (kind.path out f).place home = out.place home ++ [kind.folder, f.name] := by
  rw [path, Path.place_join _ hf, Path.place_join _ kind.isFileName_folder, List.append_assoc]
  rfl

theorem OutputKind.folder_inj (h : kind.folder = kind'.folder) : kind = kind' := by
  cases kind <;> cases kind' <;> first | rfl | exact absurd h (by decide)

/-- Files in one place are of one kind and have one name. -/
theorem OutputKind.eq_of_place_eq (hf : IsFileName f.name) (hf' : IsFileName f'.name)
    {home : Location} (h : (kind.path out f).place home = (kind'.path out f').place home) :
    kind = kind' ∧ f.name = f'.name := by
  rw [place_path kind out hf, place_path kind' out hf', List.append_cancel_left_eq] at h
  obtain ⟨hfolder, h⟩ := List.cons.inj h
  exact ⟨folder_inj hfolder, (List.cons.inj h).1⟩

/-- The classes of files in one place have one simple name. -/
theorem simple_eq_of_place_eq (hn : config.namespacePath.StaysInFolder)
    (hg : generate config c kind = .ok g) (hf : f ∈ g.files)
    (hg' : generate config d kind' = .ok g') (hf' : f' ∈ g'.files) {home : Location}
    (h : (kind.path out f).place home = (kind'.path out f').place home) :
    kind = kind' ∧ f.name = f'.name ∧ ∃ names names', ClassNames.ofModel c = .ok names
      ∧ ClassNames.ofModel d = .ok names' ∧ names.simple = names'.simple := by
  obtain ⟨rfl, hname⟩ := OutputKind.eq_of_place_eq (OutputKind.isFileName_of_generate hn hg hf)
    (OutputKind.isFileName_of_generate hn hg' hf') h
  obtain ⟨names, hnames, hstem⟩ := isNamed_of_generate hg
  obtain ⟨names', hnames', hstem'⟩ := isNamed_of_generate hg'
  obtain ⟨ending, hending, hfname⟩ := hstem.exists_ending hf
  obtain ⟨ending', hending', hfname'⟩ := hstem'.exists_ending hf'
  have hstems := (append_ending_inj hending hending' (hfname ▸ hfname' ▸ hname)).1
  refine ⟨rfl, hname, names, names', hnames, hnames', ?_⟩
  exact (String.append_left_inj _).1 ((String.append_right_inj _).1 hstems)

theorem helperHeader_isFileName : IsFileName helperHeader.name :=
  isFileName_of_getLast? (by decide) rfl (by decide : 'h' ≠ '.')

/-- No file of a class lies in the place of the helper header. -/
theorem place_ne_helperHeader (hn : config.namespacePath.StaysInFolder)
    (hg : generate config c kind = .ok g) (hf : f ∈ g.files) (home : Location) :
    (kind.path out f).place home ≠ (OutputKind.proxy.path out helperHeader).place home := by
  intro h
  obtain ⟨rfl, hname⟩ := OutputKind.eq_of_place_eq (OutputKind.isFileName_of_generate hn hg hf)
    helperHeader_isFileName h
  obtain ⟨names, -, hstem⟩ := isNamed_of_generate hg
  obtain ⟨ending, hending, hfname⟩ := hstem.exists_ending hf
  have hhelper : helperHeader.name = "jnihelper" ++ ".h" := by decide
  rw [hfname, hhelper] at hname
  have hstem := (append_ending_inj hending List.mem_cons_self hname).1
  have hlast := congrArg (fun s => s.toList.getLast?) hstem
  simp [Config.stem, OutputKind.nameEnding, ClassNames.proxyEnding] at hlast

/-! ### What is written for a class -/

variable {a : Action}

theorem of_mem_glueActions (ha : a ∈ glueActions config names c out) :
    (∃ failure, a = .fail failure) ∨ OutputKind.glue.AppliesTo c
      ∧ ∃ glue, Glue.ofModel config names c = .ok glue
        ∧ a ∈ glue.files.actions (out.join glueFolder) := by
  rw [glueActions] at ha
  split at ha
  · cases ha
  · next hnative =>
    have happlies : OutputKind.glue.AppliesTo c := fun hnil => hnative (by rw [hnil]; rfl)
    split at ha
    · next glue hglue => exact Or.inr ⟨happlies, glue, hglue, ha⟩
    · next failure _ => exact Or.inl ⟨failure, List.mem_singleton.1 ha⟩

theorem of_mem_proxyActions (ha : a ∈ proxyActions config names c out) :
    (∃ failure, a = .fail failure) ∨ ∃ proxy, Proxy.ofModel config names c = .ok proxy
      ∧ (a ∈ proxy.files.actions (out.join proxyFolder)
        ∨ config.useJniHelper ∧ a = helperHeader.action (out.join proxyFolder)
        ∨ ∃ name ∈ config.fusionFile,
          a = .register ((out.join proxyFolder).join name) proxy.fusionEntry) := by
  rw [proxyActions] at ha
  split at ha
  · next failure _ => exact Or.inl ⟨failure, List.mem_singleton.1 ha⟩
  · next proxy hproxy =>
    refine Or.inr ⟨proxy, hproxy, ?_⟩
    rcases List.mem_append.1 ha with ha | ha
    · refine (List.mem_append.1 ha).imp id fun ha => Or.inl ?_
      split at ha
      · next hhelper => exact ⟨hhelper, List.mem_singleton.1 ha⟩
      · cases ha
    · obtain ⟨name, hname, rfl⟩ := List.mem_map.1 ha
      exact Or.inr (Or.inr ⟨name, Option.mem_toList.1 hname, rfl⟩)

/-- What is written for a class are its files, the helper header and the fusion header. -/
theorem of_writesAt_classActions {home loc : Location}
    (ha : a ∈ classActions config kinds out c) (hw : a.WritesAt home loc) :
    (∃ kind ∈ kinds, kind.AppliesTo c ∧ ∃ g, generate config c kind = .ok g
        ∧ ∃ f ∈ g.files, a = .write (kind.path out f) f.content)
      ∨ config.useJniHelper
        ∧ a = .write (OutputKind.proxy.path out helperHeader) helperHeader.content
      ∨ ∃ name ∈ config.fusionFile, ∃ entry,
        a = .register ((out.join proxyFolder).join name) entry := by
  have hfiles {kind : OutputKind} {g : GeneratedClass}
      (h : a ∈ g.actions (out.join kind.folder)) :
      ∃ f ∈ g.files, a = .write (kind.path out f) f.content := by
    rcases List.mem_cons.1 h with rfl | h
    · exact hw.elim
    · obtain ⟨f, hf, rfl⟩ := List.mem_map.1 h
      exact ⟨f, hf, rfl⟩
  have hfail : ¬ ∃ failure, a = .fail failure := by
    rintro ⟨failure, rfl⟩
    exact hw
  rw [classActions] at ha
  split at ha
  · next failure _ => exact absurd ⟨failure, List.mem_singleton.1 ha⟩ hfail
  · next names hnames =>
    rcases List.mem_append.1 ha with ha | ha
    · split at ha
      · next hk =>
        obtain ⟨happlies, glue, hglue, ha⟩ := (of_mem_glueActions ha).resolve_left hfail
        exact Or.inl ⟨.glue, hk, happlies, glue.files,
          generate_glue_eq_ok_iff.2 ⟨names, glue, hnames, hglue, rfl⟩, hfiles ha⟩
      · cases ha
    · split at ha
      · next hk =>
        obtain ⟨proxy, hproxy, ha⟩ := (of_mem_proxyActions ha).resolve_left hfail
        rcases ha with ha | ha | ⟨name, hname, ha⟩
        · exact Or.inl ⟨.proxy, hk, trivial, proxy.files,
            generate_proxy_eq_ok_iff.2 ⟨names, proxy, hnames, hproxy, rfl⟩, hfiles ha⟩
        · exact Or.inr (Or.inl ha)
        · exact Or.inr (Or.inr ⟨name, hname, _, ha⟩)
      · cases ha

/-- If nothing fails, all that applies to a class is generated and written. -/
theorem generate_of_fail_not_mem (h : ∀ failure, .fail failure ∉ classActions config kinds out c)
    (hk : kind ∈ kinds) (hc : kind.AppliesTo c) : ∃ g, generate config c kind = .ok g
      ∧ ∀ f ∈ g.files, .write (kind.path out f) f.content ∈ classActions config kinds out c := by
  unfold classActions at h ⊢
  cases hnames : ClassNames.ofModel c with
  | error failure =>
    rw [hnames] at h
    exact absurd List.mem_cons_self (h failure)
  | ok names =>
    simp only [hnames, List.mem_append, not_or] at h ⊢
    cases kind with
    | glue =>
      rw [if_pos hk] at h ⊢
      have hnative : ¬ (Glue.nativeMethods c).isEmpty := by
        rw [List.isEmpty_iff]
        exact hc
      rw [glueActions, if_neg hnative] at h ⊢
      cases hglue : Glue.ofModel config names c with
      | error failure =>
        rw [hglue] at h
        exact absurd List.mem_cons_self (h failure).1
      | ok glue =>
        refine ⟨glue.files, generate_glue_eq_ok_iff.2 ⟨names, glue, hnames, hglue, rfl⟩,
          fun f hf => Or.inl ?_⟩
        exact List.mem_cons_of_mem _ (List.mem_map_of_mem hf)
    | proxy =>
      rw [if_pos hk] at h ⊢
      unfold proxyActions at h ⊢
      cases hproxy : Proxy.ofModel config names c with
      | error failure =>
        rw [hproxy] at h
        exact absurd List.mem_cons_self (h failure).2
      | ok proxy =>
        refine ⟨proxy.files, generate_proxy_eq_ok_iff.2 ⟨names, proxy, hnames, hproxy, rfl⟩,
          fun f hf => Or.inr ?_⟩
        refine List.mem_append_left _ (List.mem_append_left _ ?_)
        exact List.mem_cons_of_mem _ (List.mem_map_of_mem hf)

end JniBindings
