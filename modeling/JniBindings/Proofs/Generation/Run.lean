import JniBindings.Generation
import JniBindings.Proofs.FileTree
import Mathlib.Data.List.Nodup
/-!
# Generations on a file tree

A generation leads from one file tree to another (`leads_runActions`). What has been written can be
read afterwards if nothing else is written in its place (`read_of_mem_runActions`,
`read_processFrom`), and what belongs to a class has been written if the class is reported
(`exists_writeClass_of_mem_generated`).
-/

namespace JniBindings

/-- An action may write a file at a location. -/
def Action.WritesAt (home : Location) : Action → Location → Prop
  | .write path _, loc => loc = path.place home
  | .register path _, loc => loc = path.place home
  | _, _ => False

/-- Whatever is written in the place of a path is a given content, under this path. -/
def OnlyWrites (home : Location) (p : Path) (content : String) (actions : List Action) : Prop :=
  ∀ a ∈ actions, a.WritesAt home (p.place home) → a = .write p content

variable {t t' : FileTree} {a : Action} {p : Path} {content : String}

/-! ### One action -/

theorem run_bind_eq_iff {α β : Type} {x : StateM FileTree α} {f : α → StateM FileTree β} {b : β} :
    (x >>= f).run t = (b, t') ↔ ∃ a s, x.run t = (a, s) ∧ (f a).run s = (b, t') := by
  rw [StateT.run_bind]
  constructor
  · exact fun h => ⟨_, _, rfl, h⟩
  · rintro ⟨a, s, hx, h⟩
    rw [hx]
    exact h

theorem run_readTextOrEmpty (t : FileTree) (p : Path) :
    (Files.readTextOrEmpty p : StateM FileTree _).run t
      = (match t.read p with
        | .error .missing => .ok ""
        | content => (content.mapError fun _ => .io).bind Files.textOf, t) := by
  unfold Files.readTextOrEmpty
  rw [run_bind_eq_iff]
  refine ⟨t.read p, t, rfl, ?_⟩
  cases t.read p with
  | ok content => rfl
  | error absence => cases absence <;> rfl

theorem run_createFolder (t : FileTree) (p : Path) :
    ((Action.createFolder p).run : StateM FileTree _).run t
      = (orFail (t.createFolders p).2, (t.createFolders p).1) := rfl

theorem run_write (t : FileTree) (p : Path) (content : String) :
    ((Action.write p content).run : StateM FileTree _).run t
      = (orFail (t.write p content.toUTF8).2, (t.write p content.toUTF8).1) := rfl

theorem leads_registerProxy {entry : FusionEntry} {result : Except Failure Unit}
    (h : (registerProxy p entry : StateM FileTree _).run t = (result, t')) :
    t.Leads (· = p.place t.home) t' := by
  obtain ⟨text, s, hread, h⟩ := run_bind_eq_iff.1 h
  obtain ⟨-, rfl⟩ := Prod.mk.inj ((run_readTextOrEmpty t p).symm.trans hread)
  split at h
  · obtain ⟨-, rfl⟩ := Prod.mk.inj h
    exact .refl _ t
  · split at h
    · obtain ⟨-, rfl⟩ := Prod.mk.inj h
      exact .refl _ t
    · next existing _ merged _ =>
      split at h
      · obtain ⟨-, rfl⟩ := Prod.mk.inj h
        exact .refl _ t
      · obtain ⟨-, rfl⟩ := Prod.mk.inj h
        exact FileTree.leads_write t p merged.toUTF8

theorem Action.leads_run {result : Except Failure Unit}
    (h : (a.run : StateM FileTree _).run t = (result, t')) : t.Leads (a.WritesAt t.home) t' := by
  cases a with
  | createFolder folder =>
    obtain ⟨-, rfl⟩ := Prod.mk.inj h
    exact (FileTree.leads_createFolders t folder).mono fun _ => False.elim
  | write path content =>
    obtain ⟨-, rfl⟩ := Prod.mk.inj h
    exact FileTree.leads_write t path content.toUTF8
  | register path entry => exact leads_registerProxy h
  | fail failure =>
    obtain ⟨-, rfl⟩ := Prod.mk.inj h
    exact .refl _ t

theorem read_of_run_write
    (h : ((Action.write p content).run : StateM FileTree _).run t = (.ok (), t')) :
    t'.read p = .ok content.toUTF8 := by
  rw [run_write] at h
  obtain ⟨hresult, rfl⟩ := Prod.mk.inj h
  refine FileTree.read_write ?_
  by_contra hnot
  rw [orFail, if_neg hnot] at hresult
  cases hresult

/-- What can be read stays as it is, if an action writes nothing else in its place. -/
theorem Action.read_run {result : Except Failure Unit}
    (h : (a.run : StateM FileTree _).run t = (result, t'))
    (ha : a.WritesAt t.home (p.place t.home) → a = .write p content)
    (hread : t.read p = .ok content.toUTF8) : t'.read p = .ok content.toUTF8 := by
  by_cases hwrites : a.WritesAt t.home (p.place t.home)
  · obtain rfl := ha hwrites
    rw [run_write] at h
    obtain ⟨-, rfl⟩ := Prod.mk.inj h
    exact FileTree.read_write_of_read hread
  · exact (Action.leads_run h).read hread hwrites

/-! ### Several actions -/

theorem runActions_cons {written : List Path} {rest : List Action}
    {outcome : Except Failure (List Path)}
    (h : (runActions written (a :: rest) : StateM FileTree _).run t = (outcome, t')) :
    (∃ s, (a.run : StateM FileTree _).run t = (.ok (), s)
        ∧ (runActions (a.report written) rest : StateM FileTree _).run s = (outcome, t'))
      ∨ ∃ failure, (a.run : StateM FileTree _).run t = (.error failure, t')
        ∧ outcome = .error failure := by
  obtain ⟨result, s, ha, h⟩ := run_bind_eq_iff.1 h
  cases result with
  | ok => exact Or.inl ⟨s, ha, h⟩
  | error failure =>
    obtain ⟨rfl, rfl⟩ := Prod.mk.inj h
    exact Or.inr ⟨failure, ha, rfl⟩

theorem leads_runActions {written : List Path} {actions : List Action}
    {outcome : Except Failure (List Path)}
    (h : (runActions written actions : StateM FileTree _).run t = (outcome, t')) :
    t.Leads (fun loc => ∃ a ∈ actions, a.WritesAt t.home loc) t' := by
  induction actions generalizing t written with
  | nil =>
    obtain ⟨-, rfl⟩ := Prod.mk.inj h
    exact .refl _ t
  | cons a rest ih =>
    have hfirst {s : FileTree} {result : Except Failure Unit}
        (ha : (a.run : StateM FileTree _).run t = (result, s)) :
        t.Leads (fun loc => ∃ b ∈ a :: rest, b.WritesAt t.home loc) s :=
      (Action.leads_run ha).mono fun loc hloc => ⟨a, List.mem_cons_self, hloc⟩
    rcases runActions_cons h with ⟨s, ha, hrest⟩ | ⟨failure, ha, -⟩
    · refine (hfirst ha).trans ((ih hrest).mono fun loc hloc => ?_)
      obtain ⟨b, hb, hloc⟩ := hloc
      exact ⟨b, List.mem_cons_of_mem a hb, (hfirst ha).home ▸ hloc⟩
    · exact hfirst ha

theorem OnlyWrites.of_cons {home : Location} {rest : List Action}
    (h : OnlyWrites home p content (a :: rest)) : OnlyWrites home p content rest :=
  fun b hb => h b (List.mem_cons_of_mem a hb)

theorem read_runActions {written : List Path} {actions : List Action}
    {outcome : Except Failure (List Path)}
    (h : (runActions written actions : StateM FileTree _).run t = (outcome, t'))
    (hp : OnlyWrites t.home p content actions) (hread : t.read p = .ok content.toUTF8) :
    t'.read p = .ok content.toUTF8 := by
  induction actions generalizing t written with
  | nil =>
    obtain ⟨-, rfl⟩ := Prod.mk.inj h
    exact hread
  | cons a rest ih =>
    rcases runActions_cons h with ⟨s, ha, hrest⟩ | ⟨failure, ha, -⟩
    · refine ih hrest ?_ (Action.read_run ha (hp a List.mem_cons_self) hread)
      rw [(Action.leads_run ha).home]
      exact hp.of_cons
    · exact Action.read_run ha (hp a List.mem_cons_self) hread

theorem Action.subset_report (a : Action) (written : List Path) : written ⊆ a.report written := by
  cases a with
  | createFolder | fail => exact List.Subset.refl written
  | write path content => exact List.subset_append_left written [path]
  | register path entry =>
    rw [report]
    split
    · exact List.Subset.refl written
    · exact List.subset_append_left written [path]

theorem subset_of_runActions {written files : List Path} {actions : List Action}
    (h : (runActions written actions : StateM FileTree _).run t = (.ok files, t')) :
    written ⊆ files := by
  induction actions generalizing t written with
  | nil =>
    obtain ⟨hfiles, -⟩ := Prod.mk.inj h
    exact Except.ok.inj hfiles ▸ List.Subset.refl written
  | cons a rest ih =>
    rcases runActions_cons h with ⟨s, -, hrest⟩ | ⟨failure, -, herror⟩
    · exact List.Subset.trans (a.subset_report written) (ih hrest)
    · cases herror

/-- If all actions have been possible, what one of them writes has been written, and is reported. -/
theorem read_of_mem_runActions {written files : List Path} {actions : List Action}
    (h : (runActions written actions : StateM FileTree _).run t = (.ok files, t'))
    (hp : OnlyWrites t.home p content actions) (hmem : .write p content ∈ actions) :
    p ∈ files ∧ t'.read p = .ok content.toUTF8 := by
  induction actions generalizing t written with
  | nil => cases hmem
  | cons a rest ih =>
    rcases runActions_cons h with ⟨s, ha, hrest⟩ | ⟨failure, -, herror⟩
    · have hrestp : OnlyWrites s.home p content rest := by
        rw [(Action.leads_run ha).home]
        exact hp.of_cons
      rcases List.mem_cons.1 hmem with rfl | hmem
      · refine ⟨subset_of_runActions hrest ?_, read_runActions hrest hrestp (read_of_run_write ha)⟩
        exact List.mem_append_right written List.mem_cons_self
      · exact ih hrest hrestp hmem
    · cases herror

/-- If all actions have been possible, none of them was a failure. -/
theorem fail_not_mem_of_runActions {written files : List Path} {actions : List Action}
    (h : (runActions written actions : StateM FileTree _).run t = (.ok files, t'))
    (failure : Failure) : .fail failure ∉ actions := by
  induction actions generalizing t written with
  | nil => exact List.not_mem_nil
  | cons a rest ih =>
    rcases runActions_cons h with ⟨s, ha, hrest⟩ | ⟨failure', -, herror⟩
    · rw [List.mem_cons, not_or]
      refine ⟨?_, ih hrest⟩
      rintro rfl
      obtain ⟨hresult, -⟩ := Prod.mk.inj ha
      cases hresult
    · cases herror

/-! ### A list of classes -/

variable {config : Config} {kinds : List OutputKind} {out : Path} {classes : List ClassModel}
  {c : ClassModel} {report final : BatchReport}

theorem processFrom_cons
    (h : (processFrom report config kinds out (c :: classes) : StateM FileTree _).run t
      = (final, t')) :
    ∃ outcome s, (writeClass config kinds out c : StateM FileTree _).run t = (outcome, s)
      ∧ (processFrom (report.add c.name outcome) config kinds out classes : StateM FileTree _).run s
        = (final, t') :=
  run_bind_eq_iff.1 h

theorem home_writeClass {outcome : Except Failure (List Path)}
    (h : (writeClass config kinds out c : StateM FileTree _).run t = (outcome, t')) :
    t'.home = t.home :=
  (leads_runActions h).home

theorem leads_processFrom
    (h : (processFrom report config kinds out classes : StateM FileTree _).run t = (final, t')) :
    t.Leads (fun loc => ∃ c ∈ classes, ∃ a ∈ classActions config kinds out c,
      a.WritesAt t.home loc) t' := by
  induction classes generalizing t report with
  | nil =>
    obtain ⟨-, rfl⟩ := Prod.mk.inj h
    exact .refl _ t
  | cons c rest ih =>
    obtain ⟨outcome, s, hc, hrest⟩ := processFrom_cons h
    have hfirst : t.Leads (fun loc => ∃ d ∈ c :: rest, ∃ a ∈ classActions config kinds out d,
        a.WritesAt t.home loc) s :=
      (leads_runActions hc).mono fun loc hloc => ⟨c, List.mem_cons_self, hloc⟩
    refine hfirst.trans ((ih hrest).mono fun loc hloc => ?_)
    obtain ⟨d, hd, hloc⟩ := hloc
    exact ⟨d, List.mem_cons_of_mem c hd, hfirst.home ▸ hloc⟩

/-- What can be read stays as it is, if no class writes anything else in its place. -/
theorem read_processFrom
    (h : (processFrom report config kinds out classes : StateM FileTree _).run t = (final, t'))
    (hp : ∀ c ∈ classes, OnlyWrites t.home p content (classActions config kinds out c))
    (hread : t.read p = .ok content.toUTF8) : t'.read p = .ok content.toUTF8 := by
  induction classes generalizing t report with
  | nil =>
    obtain ⟨-, rfl⟩ := Prod.mk.inj h
    exact hread
  | cons c rest ih =>
    obtain ⟨outcome, s, hc, hrest⟩ := processFrom_cons h
    refine ih hrest (fun d hd => ?_) (read_runActions hc (hp c List.mem_cons_self) hread)
    rw [home_writeClass hc]
    exact hp d (List.mem_cons_of_mem c hd)

namespace BatchReport

theorem mem_generated_add {name other : String} {outcome : Except Failure (List Path)} :
    other ∈ (report.add name outcome).generated
      ↔ other ∈ report.generated ∨ other = name ∧ ∃ files, outcome = .ok files := by
  cases outcome <;> simp [add]

theorem subset_files_add (report : BatchReport) (name : String)
    (outcome : Except Failure (List Path)) : report.files ⊆ (report.add name outcome).files := by
  cases outcome with
  | ok files => exact List.subset_append_left report.files files
  | error failure => exact List.Subset.refl report.files

end BatchReport

/-- What a report has is not lost when more classes are added. -/
theorem subset_of_processFrom {α : Type} (part : BatchReport → List α)
    (hadd : ∀ (r : BatchReport) name outcome, part r ⊆ part (r.add name outcome))
    (h : (processFrom report config kinds out classes : StateM FileTree _).run t = (final, t')) :
    part report ⊆ part final := by
  induction classes generalizing t report with
  | nil =>
    obtain ⟨rfl, -⟩ := Prod.mk.inj h
    exact List.Subset.refl _
  | cons c rest ih =>
    obtain ⟨outcome, s, -, hrest⟩ := processFrom_cons h
    exact List.Subset.trans (hadd report c.name outcome) (ih hrest)

/-- What a report has in the end it had at the start, or has got with one of the classes, and only
other classes have been generated after that one. -/
theorem exists_writeClass_of_mem {α : Type} (part : BatchReport → List α) {x : α}
    (h : (processFrom report config kinds out classes : StateM FileTree _).run t = (final, t'))
    (hx : x ∈ part final) : x ∈ part report ∨ ∃ c ∈ classes, ∃ s outcome s' before rest,
      s.home = t.home ∧ (writeClass config kinds out c : StateM FileTree _).run s = (outcome, s')
      ∧ x ∉ part before ∧ x ∈ part (before.add c.name outcome) ∧ rest ⊆ classes
      ∧ (processFrom (before.add c.name outcome) config kinds out rest : StateM FileTree _).run s'
        = (final, t') := by
  induction classes generalizing t report with
  | nil =>
    obtain ⟨rfl, -⟩ := Prod.mk.inj h
    exact Or.inl hx
  | cons d rest ih =>
    obtain ⟨outcome, s, hd, hrest⟩ := processFrom_cons h
    by_cases hreport : x ∈ part report
    · exact Or.inl hreport
    right
    rcases ih hrest with hadd | ⟨c, hc, s₁, outcome', s₂, before, later, hhome, hrun⟩
    · exact ⟨d, List.mem_cons_self, t, outcome, s, report, rest, rfl, hd, hreport, hadd,
        List.subset_cons_self d rest, hrest⟩
    · obtain ⟨hwrite, hbefore, hadd, hlater, hrun⟩ := hrun
      exact ⟨c, List.mem_cons_of_mem d hc, s₁, outcome', s₂, before, later,
        hhome.trans (home_writeClass hd), hwrite, hbefore, hadd,
        List.Subset.trans hlater (List.subset_cons_self d rest), hrun⟩

/-- A class that is reported has been written at some time, and only other classes after it. -/
theorem exists_writeClass_of_mem_generated
    (h : (processFrom report config kinds out classes : StateM FileTree _).run t = (final, t'))
    (hnames : (classes.map ClassModel.name).Nodup)
    (hnew : ∀ c ∈ classes, c.name ∉ report.generated) (hc : c ∈ classes)
    (hgenerated : c.name ∈ final.generated) :
    ∃ s files s' after rest, s.home = t.home
      ∧ (writeClass config kinds out c : StateM FileTree _).run s = (.ok files, s')
      ∧ files ⊆ final.files ∧ rest ⊆ classes
      ∧ (processFrom after config kinds out rest : StateM FileTree _).run s' = (final, t') := by
  rcases exists_writeClass_of_mem BatchReport.generated h hgenerated with hbefore |
    ⟨d, hd, s, outcome, s', before, rest, hhome, hwrite, hbefore, hadd, hrest, hrun⟩
  · exact absurd hbefore (hnew c hc)
  · obtain ⟨hname, files, rfl⟩ := (BatchReport.mem_generated_add.1 hadd).resolve_left hbefore
    -- no other class has the name
    obtain rfl : c = d := List.inj_on_of_nodup_map hnames hc hd hname
    refine ⟨s, files, s', _, rest, hhome, hwrite, ?_, hrest, hrun⟩
    exact List.Subset.trans (List.subset_append_right before.files files)
      (subset_of_processFrom BatchReport.files BatchReport.subset_files_add hrun)

/-- A file that is reported has been written with one of the classes, and only other classes after
it. -/
theorem exists_writeClass_of_mem_files
    (h : (processFrom report config kinds out classes : StateM FileTree _).run t = (final, t'))
    (hp : p ∈ final.files) : p ∈ report.files ∨ ∃ c ∈ classes, ∃ s files s' after rest,
      s.home = t.home ∧ (writeClass config kinds out c : StateM FileTree _).run s = (.ok files, s')
      ∧ p ∈ files ∧ rest ⊆ classes
      ∧ (processFrom after config kinds out rest : StateM FileTree _).run s' = (final, t') := by
  refine (exists_writeClass_of_mem BatchReport.files h hp).imp id ?_
  rintro ⟨c, hc, s, outcome, s', before, rest, hhome, hwrite, hbefore, hadd, hrest, hrun⟩
  cases outcome with
  | ok files =>
    have hfiles := (List.mem_append.1 hadd).resolve_left hbefore
    exact ⟨c, hc, s, files, s', _, rest, hhome, hwrite, hfiles, hrest, hrun⟩
  | error failure => exact absurd hadd hbefore

end JniBindings
