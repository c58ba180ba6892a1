import JniBindings.Proofs.Generation.Isolation
/-!
# Which writes are reported

The paths of a class reach the report only if the class does not fail. Until an action fails the
others have been carried out, and of these all but the last write files of the class itself
(`leads_of_runActions_eq_error`), while an action that fails changes no file. So a report accounts
for every file that a batch has changed, except for those that a failing class leaves behind
(`accountsFor_processBatch`), such as its glue if the proxy is refused (`exists_unreported`).
-/

namespace JniBindings

variable {t t' s : FileTree} {a : Action} {p : Path} {content : String} {loc home : Location}
  {actions rest : List Action} {written files : List Path}

/-! ### Actions that are possible -/

theorem Path.place_eq_of_same {p q : Path} (h : p.same q) (home : Location) :
    p.place home = q.place home := by
  rw [same, Bool.and_eq_true, decide_eq_true_eq, decide_eq_true_eq] at h
  rw [place, place, h.1, h.2]

/-- Where an action may have written, a path is reported. -/
theorem Action.exists_mem_report (h : a.WritesAt home loc) (written : List Path) :
    ∃ p ∈ a.report written, loc = p.place home := by
  cases a with
  | createFolder | fail => exact h.elim
  | write path content => exact ⟨path, List.mem_append_right written List.mem_cons_self, h⟩
  | register path entry =>
    rw [report]
    split
    · next hany =>
      obtain ⟨q, hq, hsame⟩ := List.any_eq_true.1 hany
      exact ⟨q, hq, h.trans (Path.place_eq_of_same hsame home)⟩
    · exact ⟨path, List.mem_append_right written List.mem_cons_self, h⟩

/-- If all actions have been possible, a path is reported wherever one of them may have written. -/
theorem exists_mem_files_of_runActions
    (h : (runActions written actions : StateM FileTree _).run t = (.ok files, t'))
    (ha : a ∈ actions) (hw : a.WritesAt home loc) : ∃ p ∈ files, loc = p.place home := by
  induction actions generalizing t written with
  | nil => cases ha
  | cons b rest ih =>
    rcases runActions_cons h with ⟨s, -, hrest⟩ | ⟨failure, -, herror⟩
    · rcases List.mem_cons.1 ha with rfl | ha
      · obtain ⟨p, hp, hplace⟩ := Action.exists_mem_report hw written
        exact ⟨p, subset_of_runActions hrest hp, hplace⟩
      · exact ih hrest ha
    · cases herror

/-! ### Actions that fail -/

theorem eq_of_orFail_eq_error {possible : Bool} {failure : Failure}
    (h : orFail possible = .error failure) : possible = false ∧ failure = .io := by
  cases possible with
  | true => cases h
  | false => exact ⟨rfl, (Except.error.inj h).symm⟩

theorem fst_write_of_not_snd {content : ByteArray} (h : (t.write p content).2 = false) :
    (t.write p content).1 = t := by
  unfold FileTree.write at h ⊢
  split at h
  · cases h
  · rfl

/-- An action that fails changes no file. -/
theorem Action.leads_of_error {failure : Failure}
    (h : (a.run : StateM FileTree _).run t = (.error failure, t')) :
    t.Leads (fun _ => False) t' := by
  cases a with
  | createFolder folder =>
    obtain ⟨-, rfl⟩ := Prod.mk.inj h
    exact FileTree.leads_createFolders t folder
  | write path content =>
    obtain ⟨hresult, rfl⟩ := Prod.mk.inj h
    rw [fst_write_of_not_snd (eq_of_orFail_eq_error hresult).1]
    exact .refl _ t
  | register path entry =>
    obtain ⟨text, s, hread, h⟩ := run_bind_eq_iff.1 h
    obtain ⟨-, rfl⟩ := Prod.mk.inj ((run_readTextOrEmpty t path).symm.trans hread)
    split at h
    · obtain ⟨-, rfl⟩ := Prod.mk.inj h
      exact .refl _ t
    · split at h
      · obtain ⟨-, rfl⟩ := Prod.mk.inj h
        exact .refl _ t
      · split at h
        · cases (Prod.mk.inj h).1
        · obtain ⟨hresult, rfl⟩ := Prod.mk.inj h
          rw [fst_write_of_not_snd (eq_of_orFail_eq_error hresult).1]
          exact .refl _ t
  | fail failure =>
    obtain ⟨-, rfl⟩ := Prod.mk.inj h
    exact .refl _ t

theorem attempted_subset (actions : List Action) : attempted actions ⊆ actions := by
  induction actions with
  | nil => exact List.Subset.refl []
  | cons a rest ih =>
    cases a with
    | fail => exact List.nil_subset _
    | createFolder | write | register => exact List.cons_subset_cons _ ih

/-- If something is carried out after an action of a class, the action is no entry in the fusion
header. -/
theorem entry?_of_run_rest {failure : Failure}
    (hlast : (a :: rest).Pairwise fun a _ => a.entry? = none)
    (h : (runActions written rest : StateM FileTree _).run t = (.error failure, t')) :
    a.entry? = none := by
  cases rest with
  | nil => cases (Prod.mk.inj h).1
  | cons b rest => exact (List.pairwise_cons.1 hlast).1 b List.mem_cons_self

/-- Actions of which one fails change files only where one in front of it writes a file. -/
theorem leads_of_runActions_eq_error {failure : Failure}
    (h : (runActions written actions : StateM FileTree _).run t = (.error failure, t'))
    (hlast : actions.Pairwise fun a _ => a.entry? = none) :
    t.Leads (fun loc => ∃ p content, .write p content ∈ attempted actions ∧ loc = p.place t.home)
      t' := by
  induction actions generalizing t written with
  | nil => cases (Prod.mk.inj h).1
  | cons a rest ih =>
    rcases runActions_cons h with ⟨s, ha, hrest⟩ | ⟨failure', ha, -⟩
    · have hl := Action.leads_run ha
      have hentry := entry?_of_run_rest hlast hrest
      rw [attempted_cons (ne_fail_of_run ha)]
      refine (hl.mono fun loc hw => ?_).trans
        ((ih hrest (List.pairwise_cons.1 hlast).2).mono fun loc hloc => ?_)
      · cases a with
        | createFolder | fail => exact hw.elim
        | write path content => exact ⟨path, content, List.mem_cons_self, hw⟩
        | register path entry => cases hentry
      · obtain ⟨p, content, hmem, hplace⟩ := hloc
        exact ⟨p, content, List.mem_cons_of_mem a hmem, hl.home ▸ hplace⟩
    · exact (Action.leads_of_error ha).mono fun _ => False.elim

/-- If an action fails, but not for lack of access, the files that the actions in front of it write
are there. -/
theorem exists_read_of_runActions_eq_error {failure : Failure}
    (h : (runActions written actions : StateM FileTree _).run t = (.error failure, t'))
    (hio : failure ≠ .io) (hlast : actions.Pairwise fun a _ => a.entry? = none)
    (hmem : .write p content ∈ attempted actions) : ∃ content', t'.read p = .ok content' := by
  induction actions generalizing t written with
  | nil => cases hmem
  | cons a rest ih =>
    rcases runActions_cons h with ⟨s, ha, hrest⟩ | ⟨failure', ha, hfailure⟩
    · rw [attempted_cons (ne_fail_of_run ha)] at hmem
      rcases List.mem_cons.1 hmem with rfl | hmem
      · exact (leads_runActions hrest).exists_read (read_of_run_write ha)
      · exact ih hrest (List.pairwise_cons.1 hlast).2 hmem
    · obtain rfl := Except.error.inj hfailure
      cases a with
      | createFolder | write =>
        exact absurd (eq_of_orFail_eq_error (Prod.mk.inj ha).1).2 hio
      | register path entry =>
        -- the proxy is added last, so that no file is left to be written
        have hrest : .write p content ∈ rest :=
          (List.mem_cons.1 (attempted_subset _ hmem)).resolve_left nofun
        cases (List.pairwise_cons.1 hlast).1 _ hrest
      | fail => cases hmem

/-! ### A list of classes -/

variable {config : Config} {kinds : List OutputKind} {out : Path} {classes : List ClassModel}
  {c : ClassModel} {report final : BatchReport}

/-- The classes of a list that fail when they are generated one after the other. -/
def failing (config : Config) (kinds : List OutputKind) (out : Path) :
    FileTree → List ClassModel → List ClassModel
  | _, [] => []
  | t, c :: rest =>
    match (writeClass config kinds out c : StateM FileTree _).run t with
    | (.ok _, t') => failing config kinds out t' rest
    | (.error _, t') => c :: failing config kinds out t' rest

theorem failing_cons_of_ok
    (h : (writeClass config kinds out c : StateM FileTree _).run t = (.ok files, s)) :
    failing config kinds out t (c :: classes) = failing config kinds out s classes := by
  rw [failing, h]

theorem failing_cons_of_error {failure : Failure}
    (h : (writeClass config kinds out c : StateM FileTree _).run t = (.error failure, s)) :
    failing config kinds out t (c :: classes) = c :: failing config kinds out s classes := by
  rw [failing, h]

/-- The classes that fail are reported by their names. -/
theorem map_failures_of_processFrom
    (h : (processFrom report config kinds out classes : StateM FileTree _).run t = (final, t')) :
    final.failures.map Prod.fst
      = report.failures.map Prod.fst
        ++ (failing config kinds out t classes).map ClassModel.name := by
  induction classes generalizing t report with
  | nil =>
    obtain ⟨rfl, -⟩ := Prod.mk.inj h
    rw [failing, List.map_nil, List.append_nil]
  | cons c rest ih =>
    obtain ⟨outcome, s, hc, hrest⟩ := processFrom_cons h
    rw [ih hrest]
    cases outcome with
    | ok files =>
      rw [failing_cons_of_ok hc]
      rfl
    | error failure =>
      rw [failing_cons_of_error hc, BatchReport.add, List.map_append, List.append_assoc]
      rfl

/-- A class writes files, in front of whatever makes it fail. -/
def Config.WritesFileAt (config : Config) (kinds : List OutputKind) (out : Path) (home : Location)
    (c : ClassModel) (loc : Location) : Prop :=
  ∃ p content, .write p content ∈ attempted (classActions config kinds out c) ∧ loc = p.place home

/-- A batch changes files only in places of reported paths and of files of classes that fail. -/
theorem leads_processFrom_of_files
    (h : (processFrom report config kinds out classes : StateM FileTree _).run t = (final, t')) :
    t.Leads (fun loc => (∃ p ∈ final.files, loc = p.place t.home)
      ∨ ∃ c ∈ failing config kinds out t classes,
        config.WritesFileAt kinds out t.home c loc) t' := by
  induction classes generalizing t report with
  | nil =>
    obtain ⟨-, rfl⟩ := Prod.mk.inj h
    exact .refl _ t
  | cons c rest ih =>
    obtain ⟨outcome, s, hc, hrest⟩ := processFrom_cons h
    have hhome := home_writeClass hc
    have hlater := ih hrest
    rw [hhome] at hlater
    cases outcome with
    | ok files =>
      rw [failing_cons_of_ok hc]
      refine FileTree.Leads.trans ((leads_runActions hc).mono fun loc hloc => ?_) hlater
      obtain ⟨a, ha, hw⟩ := hloc
      obtain ⟨p, hp, hplace⟩ := exists_mem_files_of_runActions hc ha hw
      have hsub := subset_of_processFrom BatchReport.files BatchReport.subset_files_add hrest
      exact .inl ⟨p, hsub (List.mem_append_right report.files hp), hplace⟩
    | error failure =>
      rw [failing_cons_of_error hc]
      refine ((leads_of_runActions_eq_error hc pairwise_classActions).mono fun loc hloc => ?_).trans
        (hlater.mono fun loc hloc => ?_)
      · exact .inr ⟨c, List.mem_cons_self, hloc⟩
      · refine hloc.imp id ?_
        rintro ⟨d, hd, hwrites⟩
        exact ⟨d, List.mem_cons_of_mem c hd, hwrites⟩

/-- The files that a class has written before it failed are there in the end. -/
theorem exists_read_of_mem_failing
    (h : (processFrom report config kinds out classes : StateM FileTree _).run t = (final, t'))
    (hio : final.HadAccess) (hc : c ∈ failing config kinds out t classes)
    (hmem : .write p content ∈ attempted (classActions config kinds out c)) :
    ∃ content', t'.read p = .ok content' := by
  induction classes generalizing t report with
  | nil => cases hc
  | cons d rest ih =>
    obtain ⟨outcome, s, hd, hrest⟩ := processFrom_cons h
    have hne := ne_io_of_processFrom hrest hio
    cases outcome with
    | ok files =>
      rw [failing_cons_of_ok hd] at hc
      exact ih hrest hc
    | error failure =>
      rw [failing_cons_of_error hd] at hc
      rcases List.mem_cons.1 hc with rfl | hc
      · obtain ⟨content', hread⟩ :=
          exists_read_of_runActions_eq_error hd (hne <| congrArg _ ·) pairwise_classActions hmem
        exact (leads_processFrom hrest).exists_read hread
      · exact ih hrest hc

/-- Only files that are written for a class which succeeds are reported. -/
theorem exists_action_of_mem_processFrom
    (h : (processFrom report config kinds out classes : StateM FileTree _).run t = (final, t'))
    (hp : p ∈ final.files) : p ∈ report.files
      ∨ ∃ c ∈ succeeding config kinds out t classes, ∃ a ∈ classActions config kinds out c,
        (∃ content, a = .write p content) ∨ ∃ entry, a = .register p entry := by
  induction classes generalizing t report with
  | nil =>
    obtain ⟨rfl, -⟩ := Prod.mk.inj h
    exact .inl hp
  | cons c rest ih =>
    obtain ⟨outcome, s, hc, hrest⟩ := processFrom_cons h
    have hlater := ih hrest
    cases outcome with
    | ok files =>
      rw [succeeding_cons_of_ok hc]
      rcases hlater with hfiles | ⟨d, hd, haction⟩
      · refine (List.mem_append.1 hfiles).imp id fun hfiles => ⟨c, List.mem_cons_self, ?_⟩
        exact (exists_action_of_mem_files hc hfiles).resolve_left List.not_mem_nil
      · exact .inr ⟨d, List.mem_cons_of_mem c hd, haction⟩
    | error failure =>
      rw [succeeding_cons_of_error hc]
      exact hlater

/-- What a report says about the files that a batch has changed between two trees. The classes that
have failed are named, and only files of the others are reported. Every file that is new or has
changed is in the place of a reported path, or has been written by a class before it failed; and if
files and folders could be accessed, all files of the latter kind are there. -/
structure BatchReport.AccountsFor (config : Config) (kinds : List OutputKind) (out : Path)
    (classes : List ClassModel) (t : FileTree) (report : BatchReport) (t' : FileTree) : Prop where
  named : report.failures.map Prod.fst
    = (failing config kinds out t classes).map ClassModel.name
  reported : ∀ p ∈ report.files, ∃ c ∈ succeeding config kinds out t classes,
    ∃ a ∈ classActions config kinds out c,
      (∃ content, a = .write p content) ∨ ∃ entry, a = .register p entry
  changed : ∀ loc, ¬ t.SameFile loc t' → (∃ p ∈ report.files, loc = p.place t.home)
    ∨ ∃ c ∈ failing config kinds out t classes, config.WritesFileAt kinds out t.home c loc
  left_behind : report.HadAccess → ∀ c ∈ failing config kinds out t classes, ∀ p content,
    .write p content ∈ attempted (classActions config kinds out c) →
      ∃ content', t'.read p = .ok content'

theorem accountsFor_processBatch
    (h : (processBatch config kinds out classes : StateM FileTree _).run t = (report, t')) :
    report.AccountsFor config kinds out classes t t' where
  named := map_failures_of_processFrom h
  reported _ hp := (exists_action_of_mem_processFrom h hp).resolve_left List.not_mem_nil
  changed loc hloc := by
    by_contra hnot
    exact hloc fun content => ((leads_processFrom_of_files h).kept loc content hnot).symm
  left_behind hio _ hc _ _ hmem := exists_read_of_mem_failing h hio hc hmem

/-- If no class fails, every file that is new or has changed is reported. -/
theorem BatchReport.AccountsFor.exists_mem_files
    (h : report.AccountsFor config kinds out classes t t') (hsuccess : report.isSuccess)
    (hloc : ¬ t.SameFile loc t') : ∃ p ∈ report.files, loc = p.place t.home := by
  have hfailures : report.failures = [] := List.isEmpty_iff.1 hsuccess
  have hnone : failing config kinds out t classes = [] := by
    have hnamed := h.named
    rw [hfailures] at hnamed
    exact List.map_eq_nil_iff.1 hnamed.symm
  refine (h.changed loc hloc).resolve_right ?_
  rw [hnone]
  rintro ⟨c, hc, -⟩
  cases hc

/-- A batch of two classes in an empty tree. The first fails after its glue has been written. -/
def failingBatch (config : Config) : BatchReport × FileTree :=
  (processBatch config [.glue, .proxy] ⟨"out"⟩ failingFirst : StateM FileTree _).run (.empty [])

theorem run_failingFirst (config : Config) :
    (processBatch config [.glue, .proxy] ⟨"out"⟩ failingFirst : StateM FileTree _).run
      (.empty []) = ((failingBatch config).1, (failingBatch config).2) :=
  (Prod.eta (failingBatch config)).symm

theorem accountsFor_failingFirst :
    (processBatch withFusion [.glue, .proxy] ⟨"out"⟩ failingFirst : StateM FileTree _).run
        (.empty []) = ((failingBatch withFusion).1, (failingBatch withFusion).2)
      ∧ ((failingBatch withFusion).1.failures.map Prod.fst = ["a.Bad"]
        ∧ (failingBatch withFusion).1.HadAccess)
      ∧ (failingBatch withFusion).1.AccountsFor withFusion [.glue, .proxy] ⟨"out"⟩ failingFirst
        (.empty []) (failingBatch withFusion).2 :=
  ⟨run_failingFirst withFusion, by decide +kernel,
    accountsFor_processBatch (run_failingFirst withFusion)⟩

/-- The glue of the class that fails is written, but not reported. -/
theorem exists_unreported :
    (failingBatch {}).1.HadAccess
      ∧ (FileTree.empty []).node? ["out", "glue", "Bad.h"] = none
      ∧ ((failingBatch {}).2.read ⟨"out/glue/Bad.h"⟩).toBool
      ∧ ∀ p ∈ (failingBatch {}).1.files, p.place [] ≠ ["out", "glue", "Bad.h"] := by
  decide +kernel

end JniBindings
