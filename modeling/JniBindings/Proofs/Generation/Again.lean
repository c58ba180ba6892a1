import JniBindings.Proofs.Fusion.ReadBack
import JniBindings.Proofs.Generation.Isolation
/-!
# Generating once more

Generating the same classes into the tree that they have left changes nothing and is reported as
before (`processBatch_again`). What is written for a class depends on nothing but the class, so that
the second time every file is overwritten until it is as it was. Only the fusion header is read, and
it has all proxies already, so that merging them into it leaves it as it is.
-/

namespace JniBindings

variable {t t' s s' u final : FileTree} {p header : Path} {header? : Option Path} {loc : Location}
  {a : Action} {actions rest : List Action} {es : List FusionEntry}

/-! ### Headers that can be read back -/

namespace FileTree

/-- If the text at a location is that of a fusion header, its contents can be written. -/
def HoldsWritable (loc : Location) (t : FileTree) : Prop :=
  ∀ text f, t.textAt loc = .ok text → Fusion.parse text = .ok f → f.IsWritable

/-- No file that is included by the text at a location has the marker in its name. -/
def LacksMarker (loc : Location) (t : FileTree) : Prop :=
  ∀ text, t.textAt loc = .ok text → ∀ name ∈ Fusion.includesOf text.toList,
    ¬ Fusion.beginMarker.toList <:+: name.toList

theorem LacksMarker.holdsWritable (h : t.LacksMarker loc) : t.HoldsWritable loc := by
  intro text f htext hparse
  apply Fusion.isWritable_of_parse hparse
  rw [(Fusion.of_parse hparse).1]
  exact h text htext

namespace Fuses

/-- Merging keeps a header readable. -/
theorem holdsWritable (h : t.Fuses loc s es) (he : ∀ e ∈ es, e.IsWritable)
    (ht : t.HoldsWritable loc) : s.HoldsWritable loc := by
  intro text f htext hparse
  cases h with
  | nothing same =>
    rcases of_textAt_eq_ok htext with hfile | ⟨-, rfl⟩
    · exact ht text f (textAt_of_node? ((same _).2 hfile)) hparse
    · obtain rfl := Except.ok.inj (Fusion.parse_empty.symm.trans hparse)
      exact Fusion.isWritable_empty
  | @merged _ first final ne_nil text_eq merge node =>
    obtain rfl : final = text := Except.ok.inj ((textAt_of_node? node).symm.trans htext)
    obtain ⟨f₀, hparse₀⟩ := Fusion.exists_parse_of_foldlM_merge ne_nil merge
    have hf₀ := ht first f₀ text_eq hparse₀
    obtain ⟨_, hmerge, hparsed, -⟩ := Fusion.foldlM_merge_of_parse hparse₀ hf₀ he
    obtain rfl := Except.ok.inj (hmerge.symm.trans merge)
    obtain rfl := Except.ok.inj (hparsed.symm.trans hparse)
    exact Fusion.isWritable_foldl_insert hf₀ he

/-- Merging an entry once more leaves the text as it is. -/
theorem merge_again (h : t.Fuses loc s es) (he : ∀ e ∈ es, e.IsWritable)
    (ht : t.HoldsWritable loc) {entry : FusionEntry} (hentry : entry ∈ es) :
    ∃ text, s.node? loc = some (.file text.toUTF8) ∧ Fusion.merge text entry = .ok text := by
  cases h with
  | nothing => cases hentry
  | @merged _ first final ne_nil text_eq merge node =>
    obtain ⟨f₀, hparse₀⟩ := Fusion.exists_parse_of_foldlM_merge ne_nil merge
    have hf₀ := ht first f₀ text_eq hparse₀
    obtain ⟨_, hmerge, -, hagain⟩ := Fusion.foldlM_merge_of_parse hparse₀ hf₀ he
    obtain rfl := Except.ok.inj (hmerge.symm.trans merge)
    exact ⟨_, node, hagain entry hentry⟩

/-- A text into which an entry cannot be merged stays as it is. -/
theorem node?_of_merge_eq_error (h : t.Fuses loc s es) {text : String} {entry : FusionEntry}
    {failure : Failure} (htext : t.node? loc = some (.file text.toUTF8))
    (hmerge : Fusion.merge text entry = .error failure) :
    s.node? loc = some (.file text.toUTF8) := by
  cases h with
  | nothing same => exact (same _).1 htext
  | @merged _ first final ne_nil text_eq merge node =>
    obtain rfl := Except.ok.inj (text_eq.symm.trans (textAt_of_node? htext))
    obtain ⟨f, hparse⟩ := Fusion.exists_parse_of_foldlM_merge ne_nil merge
    rw [Fusion.merge_of_parse hparse entry] at hmerge
    cases hmerge

end Fuses

end FileTree

/-! ### Actions that are carried out again -/

/-- The rest of a generation leads from the tree `s` to the tree `final`. -/
structure Continues (header? : Option Path) (s final : FileTree) : Prop where
  leads : s.Leads (fun _ => True) final
  fuses : ∀ header ∈ header?, ∃ es, (∀ e ∈ es, FusionEntry.IsWritable e)
    ∧ s.Fuses (header.place s.home) final es

/-- The second time, a generation that has led to the tree `final` has come to the tree `u`, where
it had come to `s` the first time. The fusion header has not changed since. -/
structure Retraces (header? : Option Path) (final s u : FileTree) : Prop where
  repeats : final.Repeats s u
  same : ∀ header ∈ header?, final.SameFile (header.place s.home) u
  holds : ∀ header ∈ header?, s.HoldsWritable (header.place s.home)

theorem Continues.of_runActions {written : List Path} {outcome : Except Failure (List Path)}
    (h : (runActions written actions : StateM FileTree _).run s = (outcome, s'))
    (hio : outcome ≠ .error .io) (hf : FusesLast s.home header? actions)
    (hwritable : ∀ e ∈ actions.filterMap Action.entry?, FusionEntry.IsWritable e)
    (hnext : Continues header? s' final) : Continues header? s final where
  leads := ((leads_runActions h).mono fun _ _ => trivial).trans hnext.leads
  fuses header hheader := by
    obtain ⟨es, hes, hfuses⟩ := hnext.fuses header hheader
    rw [(leads_runActions h).home] at hfuses
    have hfirst := fuses_runActions h hio hf hheader
    refine ⟨_, fun e he => ?_, hfirst.trans hfuses (leads_runActions h)⟩
    rcases List.mem_append.1 he with he | he
    · exact hwritable e (mem_of_mem_entriesIf he)
    · exact hes e he

theorem Retraces.register {result : Except Failure Unit} {path : Path} {entry : FusionEntry}
    (h : ((Action.register path entry).run : StateM FileTree _).run s = (result, s'))
    (hio : result ≠ .error .io) (hf : FusesLast s.home header? (.register path entry :: rest))
    (hentry : entry.IsWritable) (hu : Retraces header? final s u)
    (hnext : Continues header? s' final) :
    ((Action.register path entry).run : StateM FileTree _).run u = (result, u)
      ∧ final.Repeats s' u := by
  have hmem := hf.mem path entry List.mem_cons_self
  have hl := Action.leads_run h
  have hlu : s'.Leads (fun _ => True) u := hnext.leads.trans hu.repeats.after
  obtain ⟨es, hes, hfuses⟩ := hnext.fuses path hmem
  rw [hl.home] at hfuses
  obtain ⟨text, -, ⟨failure, hmerge, rfl, rfl, hread⟩ | ⟨merged, -, rfl, hread⟩⟩ :=
    of_run_registerProxy h hio
  · -- the text is not that of a fusion header, so that no other entry has been merged either
    have hnode := hfuses.node?_of_merge_eq_error (FileTree.read_eq_ok_iff.1 hread).2 hmerge
    have hread' := hlu.read_of_node? hread ((hu.same path hmem _).1 hnode)
    refine ⟨?_, hu.repeats⟩
    refine (run_registerProxy_of_ok (run_readTextOrEmpty_of_read hread')).trans ?_
    rw [hmerge]
  · -- the entry is among those that have been merged in the end
    have hall : s.Fuses (path.place s.home) final (entry :: es) :=
      (Action.fuses_run h nofun hf hmem).trans hfuses hl
    obtain ⟨text', hnode, hagain⟩ := hall.merge_again (List.forall_mem_cons.2 ⟨hentry, hes⟩)
      (hu.holds path hmem) List.mem_cons_self
    have hnode' := (hu.same path hmem _).1 hnode
    have hread' := hlu.read_of_node? hread (hl.home ▸ hnode')
    refine ⟨?_, hu.repeats.settled hnext.leads fun loc => ?_⟩
    · refine (run_registerProxy_of_ok (run_readTextOrEmpty_of_read hread')).trans ?_
      rw [hagain]
      exact if_pos rfl
    · by_cases hloc : loc = path.place s.home
      · left
        rw [hloc, hnode, hnode']
      · exact Or.inr (hl.node?_eq_or_eq_folder hloc)

theorem Action.run_again {result : Except Failure Unit}
    (h : (a.run : StateM FileTree _).run s = (result, s')) (hio : result ≠ .error .io)
    (hf : FusesLast s.home header? (a :: rest)) (hwritable : ∀ e ∈ a.entry?, e.IsWritable)
    (hu : Retraces header? final s u) (hnext : Continues header? s' final) :
    ∃ u', (a.run : StateM FileTree _).run u = (result, u') ∧ Retraces header? final s' u' := by
  have hhome := (Action.leads_run h).home
  have hholds : ∀ header ∈ header?, s'.HoldsWritable (header.place s'.home) := by
    intro header hheader
    rw [hhome]
    refine (Action.fuses_run h hio hf hheader).holdsWritable (fun e he => ?_)
      (hu.holds header hheader)
    exact hwritable e (Option.mem_toList.1 (mem_of_mem_entriesIf he))
  have hother {u' : FileTree} (hentry : a.entry? = none)
      (hrun : (a.run : StateM FileTree _).run u = (result, u')) (hrepeats : final.Repeats s' u') :
      Retraces header? final s' u' := by
    refine ⟨hrepeats, fun header hheader => ?_, hholds⟩
    have hkept := Action.sameFile_run hrun (hu.repeats.home ▸ hf) hheader hentry
    rw [hu.repeats.home] at hkept
    rw [hhome]
    exact (hu.same header hheader).trans hkept
  cases a with
  | fail failure =>
    obtain ⟨rfl, rfl⟩ := Prod.mk.inj h
    exact ⟨u, rfl, hu⟩
  | createFolder folder =>
    obtain ⟨rfl, rfl⟩ := Prod.mk.inj h
    have hdone := of_orFail_ne_io hio
    obtain ⟨hfound, hrepeats⟩ := hu.repeats.createFolders hdone hnext.leads
    have hrun : ((Action.createFolder folder).run : StateM FileTree _).run u
        = (orFail (s.createFolders folder).2, u) := by
      rw [run_createFolder, hfound, hdone]
    exact ⟨u, hrun, hother rfl hrun hrepeats⟩
  | write path content =>
    obtain ⟨rfl, rfl⟩ := Prod.mk.inj h
    have hdone := of_orFail_ne_io hio
    obtain ⟨hwritten, hrepeats⟩ := hu.repeats.write hdone hnext.leads
    have hrun : ((Action.write path content).run : StateM FileTree _).run u
        = (orFail (s.write path content.toUTF8).2, (u.write path content.toUTF8).1) := by
      rw [run_write, hwritten, hdone]
    exact ⟨_, hrun, hother rfl hrun hrepeats⟩
  | register path entry =>
    obtain ⟨hrun, hrepeats⟩ := Retraces.register h hio hf (hwritable entry rfl) hu hnext
    refine ⟨u, hrun, hrepeats, ?_, hholds⟩
    rw [hhome]
    exact hu.same

theorem runActions_again {written : List Path} {outcome : Except Failure (List Path)}
    (h : (runActions written actions : StateM FileTree _).run s = (outcome, s'))
    (hio : outcome ≠ .error .io) (hf : FusesLast s.home header? actions)
    (hwritable : ∀ e ∈ actions.filterMap Action.entry?, FusionEntry.IsWritable e)
    (hu : Retraces header? final s u) (hnext : Continues header? s' final) :
    ∃ u', (runActions written actions : StateM FileTree _).run u = (outcome, u')
      ∧ Retraces header? final s' u' := by
  induction actions generalizing s u written with
  | nil =>
    obtain ⟨rfl, rfl⟩ := Prod.mk.inj h
    exact ⟨u, rfl, hu⟩
  | cons a rest ih =>
    have hwritable₁ : ∀ e ∈ a.entry?, e.IsWritable := fun e he =>
      hwritable e (List.mem_filterMap.2 ⟨a, List.mem_cons_self, he⟩)
    have hwritable₂ : ∀ e ∈ rest.filterMap Action.entry?, FusionEntry.IsWritable e := by
      intro e he
      obtain ⟨b, hb, hbe⟩ := List.mem_filterMap.1 he
      exact hwritable e (List.mem_filterMap.2 ⟨b, List.mem_cons_of_mem a hb, hbe⟩)
    rcases runActions_cons h with ⟨s₁, ha, hrest⟩ | ⟨failure, ha, rfl⟩
    · have hf₁ := hf.of_cons (ne_fail_of_run ha)
      rw [← (Action.leads_run ha).home] at hf₁
      have hnext₁ := hnext.of_runActions hrest hio hf₁ hwritable₂
      obtain ⟨u₁, hrun, hu₁⟩ := Action.run_again ha nofun hf hwritable₁ hu hnext₁
      obtain ⟨u', hrun', hu'⟩ := ih hrest hf₁ hwritable₂ hu₁
      exact ⟨u', run_bind_eq_iff.2 ⟨_, u₁, hrun, hrun'⟩, hu'⟩
    · obtain ⟨u', hrun, hu'⟩ := Action.run_again ha (error_ne_io hio) hf hwritable₁ hu hnext
      exact ⟨u', run_bind_eq_iff.2 ⟨_, u', hrun, rfl⟩, hu'⟩

/-! ### Classes that are generated again -/

variable {config : Config} {kinds : List OutputKind} {out : Path} {classes : List ClassModel}
  {c : ClassModel} {report finalReport : BatchReport}

/-- What classes in a namespace of words add to the fusion header can be read back. -/
theorem isWritable_of_mem_entries (hwords : ∀ s ∈ config.namespacePath.segments, IsWord s)
    {entry : FusionEntry} (h : entry ∈ config.entries kinds out c) : entry.IsWritable := by
  obtain ⟨names, hnames, rfl⟩ := of_mem_entries h
  have hword := (ClassNames.isMadeFrom_of_ofModel hnames).isWord_proxy
  exact Fusion.isWritable_fusionEntryOf hword hwords

theorem processFrom_again
    (h : (processFrom report config kinds out classes : StateM FileTree _).run s
      = (finalReport, final))
    (hio : finalReport.HadAccess) (hf : config.FusionIsAlone kinds out s.home classes)
    (hwords : ∀ s ∈ config.namespacePath.segments, IsWord s)
    (hu : Retraces (config.fusionPath? out) final s u) :
    ∃ u', (processFrom report config kinds out classes : StateM FileTree _).run u
        = (finalReport, u') ∧ Retraces (config.fusionPath? out) final final u' := by
  induction classes generalizing s u report with
  | nil =>
    obtain ⟨rfl, rfl⟩ := Prod.mk.inj h
    exact ⟨u, rfl, hu⟩
  | cons c rest ih =>
    obtain ⟨outcome, s₁, hc, hrest⟩ := processFrom_cons h
    have hf₁ := hf.of_subset (List.subset_cons_self c rest)
    rw [← home_writeClass hc] at hf₁
    have hnext : Continues (config.fusionPath? out) s₁ final := by
      refine ⟨(leads_processFrom hrest).mono fun _ _ => trivial, fun header hheader => ?_⟩
      refine ⟨_, fun e he => ?_, fuses_processFrom hrest hio hf₁ hheader⟩
      obtain ⟨d, -, he⟩ := List.mem_flatMap.1 he
      exact isWritable_of_mem_entries hwords he
    obtain ⟨u₁, hrun, hu₁⟩ := runActions_again hc (ne_io_of_processFrom hrest hio)
      (fusesLast_classActions hf List.mem_cons_self)
      (fun e he => isWritable_of_mem_entries hwords he) hu hnext
    obtain ⟨u', hrun', hu'⟩ := ih hrest hf₁ hu₁
    exact ⟨u', run_bind_eq_iff.2 ⟨_, u₁, hrun, hrun'⟩, hu'⟩

/-- Generating once more changes no file and no folder, and is reported in the same way. -/
theorem processBatch_again
    (h : (processBatch config kinds out classes : StateM FileTree _).run t = (report, t'))
    (hio : report.HadAccess) (hf : config.FusionIsAlone kinds out t.home classes)
    (hwords : ∀ s ∈ config.namespacePath.segments, IsWord s)
    (hmarker : ∀ header ∈ config.fusionPath? out, t.LacksMarker (header.place t.home)) :
    ∃ u', (processBatch config kinds out classes : StateM FileTree _).run t' = (report, u')
      ∧ u'.home = t'.home ∧ ∀ loc, u'.node? loc = t'.node? loc := by
  have hl : t.Leads (fun _ => True) t' := (leads_processFrom h).mono fun _ _ => trivial
  have hstart : Retraces (config.fusionPath? out) t' t t' :=
    ⟨.start hl, fun _ _ => .refl _ t', fun header hheader => (hmarker header hheader).holdsWritable⟩
  obtain ⟨u', hrun, hu'⟩ := processFrom_again h hio hf hwords hstart
  exact ⟨u', hrun, hu'.repeats.home, hu'.repeats.node?_eq⟩

theorem lacksMarker_of_node?_eq_none (h : t.node? loc = none) : t.LacksMarker loc := by
  intro text htext name hname
  have hempty : text = "" := by
    rw [FileTree.textAt, h] at htext
    exact (Except.ok.inj htext).symm
  rw [hempty] at hname
  cases hname

theorem processBatch_again_failingFirst :
    ∃ report t', (processBatch withFusion [.glue, .proxy] ⟨"out"⟩ failingFirst :
        StateM FileTree _).run (.empty []) = (report, t')
      ∧ report.HadAccess
      ∧ withFusion.FusionIsAlone [.glue, .proxy] ⟨"out"⟩ [] failingFirst
      ∧ (∀ s ∈ withFusion.namespacePath.segments, IsWord s)
      ∧ (∀ header ∈ withFusion.fusionPath? ⟨"out"⟩,
        (FileTree.empty []).LacksMarker (header.place []))
      ∧ ∃ u', (processBatch withFusion [.glue, .proxy] ⟨"out"⟩ failingFirst :
          StateM FileTree _).run t' = (report, u')
        ∧ u'.home = t'.home ∧ ∀ loc, u'.node? loc = t'.node? loc := by
  obtain ⟨report, t', hrun⟩ : ∃ report t', (processBatch withFusion [.glue, .proxy] ⟨"out"⟩
    failingFirst : StateM FileTree _).run (.empty []) = (report, t') := ⟨_, _, rfl⟩
  have hio : ((processBatch withFusion [.glue, .proxy] ⟨"out"⟩ failingFirst :
      StateM FileTree _).run (.empty [])).1.HadAccess := by decide +kernel
  rw [hrun] at hio
  have hf : withFusion.FusionIsAlone [.glue, .proxy] ⟨"out"⟩ [] failingFirst := by decide +kernel
  have hwords : ∀ s ∈ withFusion.namespacePath.segments, IsWord s := by decide
  have hmarker : ∀ header ∈ withFusion.fusionPath? ⟨"out"⟩,
      (FileTree.empty []).LacksMarker (header.place []) := by
    intro header hheader
    apply lacksMarker_of_node?_eq_none
    rw [← Option.some.inj hheader]
    decide
  exact ⟨report, t', hrun, hio, hf, hwords, hmarker, processBatch_again hrun hio hf hwords hmarker⟩

end JniBindings
