import JniBindings.Proofs.Outcome
import JniBindings.Proofs.Path
import Mathlib.Tactic.SplitIfs
/-!
# What becomes of a file tree

Creating folders and writing files lead from one tree to another in which folders are still folders,
files are still files, and no file has changed but the one that was written (`FileTree.Leads`). A
path that leads to a file then still does, so that what has been written can be read
(`FileTree.read_write`), also after other files have been written (`FileTree.Leads.read`).
-/

namespace JniBindings.FileTree

variable {t t' t'' : FileTree} {p : Path} {loc next : Location} {step : String}

/-! ### Following paths -/

theorem follow_parent (h : t.node? loc = some .folder) :
    t.follow loc ".." = .ok (loc.after "..") := by
  simp [follow, Location.after, h]

theorem follow_of_ne_parent (h : t.node? loc = some .folder) (hstep : step ≠ "..")
    (hlength : step.utf8ByteSize ≤ nameLimit) : t.follow loc step
      = if (t.node? (loc.after step)).isSome then .ok (loc.after step) else .error .missing := by
  rw [follow, if_neg (not_not.2 h), if_neg hstep, if_neg (Nat.not_lt.2 hlength), Location.after,
    if_neg hstep]

/-- A step that leads nowhere because nothing is there. -/
theorem of_follow_eq_missing (h : t.follow loc step = .error .missing) :
    t.node? loc = some .folder ∧ step ≠ ".." ∧ step.utf8ByteSize ≤ nameLimit
      ∧ t.node? (loc ++ [step]) = none := by
  unfold follow at h
  split_ifs at h with hfolder hparent hlong hthere
  · cases h
  · cases h
  · exact ⟨not_not.1 hfolder, hparent, Nat.not_lt.1 hlong, by simpa using hthere⟩

/-- A step that leads somewhere. -/
theorem of_follow_eq_ok (h : t.follow loc step = .ok next) : t.node? loc = some .folder
    ∧ next = loc.after step
    ∧ (step = ".." ∨ step.utf8ByteSize ≤ nameLimit ∧ (t.node? (loc.after step)).isSome) := by
  unfold follow at h
  split_ifs at h with hfolder hparent hlong hthere
  · rw [← Except.ok.inj h, Location.after, if_pos hparent]
    exact ⟨not_not.1 hfolder, rfl, Or.inl hparent⟩
  · rw [← Except.ok.inj h, Location.after, if_neg hparent]
    exact ⟨not_not.1 hfolder, rfl, Or.inr ⟨Nat.not_lt.1 hlong, hthere⟩⟩

theorem foldl_after_of_foldlM_follow {steps : List String}
    (h : steps.foldlM t.follow loc = .ok next) : next = steps.foldl Location.after loc := by
  induction steps generalizing loc with
  | nil => exact (Except.ok.inj h).symm
  | cons step steps ih =>
    rw [List.foldlM_cons] at h
    obtain ⟨loc', hfollow, h⟩ := bind_eq_ok_iff.1 h
    rw [List.foldl_cons, ← (of_follow_eq_ok hfollow).2.1]
    exact ih h

/-! ### Trees that lead to others -/

/-- One tree leads to another if folders stay folders, files stay files, and only files at certain
locations may have changed or be new. -/
structure Leads (written : Location → Prop) (t t' : FileTree) : Prop where
  home : t'.home = t.home
  folder : ∀ loc, t.node? loc = some .folder → t'.node? loc = some .folder
  file : ∀ loc content, t.node? loc = some (.file content) →
    ∃ content', t'.node? loc = some (.file content')
  kept : ∀ loc content, ¬ written loc →
    (t'.node? loc = some (.file content) ↔ t.node? loc = some (.file content))

namespace Leads

variable {written other : Location → Prop}

theorem refl (written : Location → Prop) (t : FileTree) : t.Leads written t where
  home := rfl
  folder _ h := h
  file _ content h := ⟨content, h⟩
  kept _ _ _ := Iff.rfl

theorem trans (h : t.Leads written t') (h' : t'.Leads written t'') : t.Leads written t'' where
  home := h'.home.trans h.home
  folder loc hloc := h'.folder loc (h.folder loc hloc)
  file loc content hloc := by
    obtain ⟨content', hloc'⟩ := h.file loc content hloc
    exact h'.file loc content' hloc'
  kept loc content hloc := (h'.kept loc content hloc).trans (h.kept loc content hloc)

theorem mono (h : t.Leads written t') (himp : ∀ loc, written loc → other loc) :
    t.Leads other t' where
  home := h.home
  folder := h.folder
  file := h.file
  kept loc content hloc := h.kept loc content fun hw => hloc (himp loc hw)

/-- Nothing has gone. -/
theorem isSome (h : t.Leads written t') {loc : Location} (hloc : (t.node? loc).isSome) :
    (t'.node? loc).isSome := by
  obtain ⟨node, hnode⟩ := Option.isSome_iff_exists.1 hloc
  cases node with
  | folder => exact Option.isSome_of_mem (h.folder loc hnode)
  | file content =>
    obtain ⟨content', hnode'⟩ := h.file loc content hnode
    exact Option.isSome_of_mem hnode'

theorem follow (h : t.Leads written t') (hstep : t.follow loc step = .ok next) :
    t'.follow loc step = .ok next := by
  obtain ⟨hfolder, rfl, hparent | ⟨hlength, hthere⟩⟩ := of_follow_eq_ok hstep
  · rw [hparent, follow_parent (h.folder loc hfolder)]
  · by_cases hparent : step = ".."
    · rw [hparent, follow_parent (h.folder loc hfolder)]
    · rw [follow_of_ne_parent (h.folder loc hfolder) hparent hlength, if_pos (h.isSome hthere)]

theorem foldlM_follow (h : t.Leads written t') {steps : List String}
    (hsteps : steps.foldlM t.follow loc = .ok next) :
    steps.foldlM t'.follow loc = .ok next := by
  induction steps generalizing loc with
  | nil => exact hsteps
  | cons step steps ih =>
    rw [List.foldlM_cons] at hsteps ⊢
    obtain ⟨loc', hstep, hsteps⟩ := bind_eq_ok_iff.1 hsteps
    rw [bind_eq_ok_iff]
    exact ⟨loc', h.follow hstep, ih hsteps⟩

end Leads

/-! ### Finding and reading -/

/-- A path that is found has been followed, and ends in a folder if it has to. -/
theorem find_eq_ok_iff : t.find p = .ok loc ↔ isUsable p ∧ p.text.isEmpty = false
    ∧ p.steps.foldlM t.follow (t.start p) = .ok loc
    ∧ (p.namesFolder → t.node? loc = some .folder) := by
  unfold find
  split_ifs with husable hempty
  · refine iff_of_false (fun h => by cases h) fun h => ?_
    simp [h.1] at husable
  · refine iff_of_false (fun h => by cases h) fun h => ?_
    simp [h.2.1] at hempty
  · rw [bind_eq_ok_iff]
    constructor
    · rintro ⟨loc', hfollow, h⟩
      split_ifs at h with hend
      obtain rfl := Except.ok.inj h
      refine ⟨by simpa using husable, by simpa using hempty, hfollow, fun hp => ?_⟩
      simpa [hp] using hend
    · rintro ⟨-, -, hfollow, hend⟩
      refine ⟨loc, hfollow, ?_⟩
      rw [if_neg (by simpa using hend)]
      rfl

theorem place_of_find (h : t.find p = .ok loc) : loc = p.place t.home :=
  foldl_after_of_foldlM_follow (find_eq_ok_iff.1 h).2.2.1

theorem read_eq_ok_iff {content : ByteArray} : t.read p = .ok content
    ↔ t.find p = .ok (p.place t.home) ∧ t.node? (p.place t.home) = some (.file content) := by
  rw [read, bind_eq_ok_iff]
  constructor
  · rintro ⟨loc, hfind, h⟩
    obtain rfl := place_of_find hfind
    split at h
    · next hnode =>
      obtain rfl := Except.ok.inj h
      exact ⟨hfind, hnode⟩
    · cases h
  · rintro ⟨hfind, hnode⟩
    refine ⟨_, hfind, ?_⟩
    rw [hnode]
    rfl

namespace Leads

variable {written : Location → Prop}

theorem place (h : t.Leads written t') (p : Path) : p.place t'.home = p.place t.home := by
  rw [h.home]

theorem start (h : t.Leads written t') (p : Path) : t'.start p = t.start p := by
  rw [FileTree.start, FileTree.start, h.home]

theorem find (h : t.Leads written t') (hfind : t.find p = .ok loc) : t'.find p = .ok loc := by
  obtain ⟨husable, hempty, hfollow, hend⟩ := find_eq_ok_iff.1 hfind
  rw [find_eq_ok_iff, h.start]
  exact ⟨husable, hempty, h.foldlM_follow hfollow, fun hp => h.folder loc (hend hp)⟩

/-- What can be read can still be read after other files have been written. -/
theorem read (h : t.Leads written t') {content : ByteArray} (hread : t.read p = .ok content)
    (hp : ¬ written (p.place t.home)) : t'.read p = .ok content := by
  obtain ⟨hfind, hnode⟩ := read_eq_ok_iff.1 hread
  rw [read_eq_ok_iff, h.place]
  exact ⟨h.find hfind, (h.kept _ content hp).2 hnode⟩

end Leads

/-! ### Creating folders -/

theorem leads_insert_folder (h : t.node? loc = none) :
    t.Leads (fun _ => False) (t.insert loc .folder) where
  home := rfl
  folder other hother := by
    by_cases hne : other = loc
    · rw [hne, h] at hother
      cases hother
    · rw [node?_insert_of_ne t hne, hother]
  file other content hother := by
    by_cases hne : other = loc
    · rw [hne, h] at hother
      cases hother
    · exact ⟨content, by rw [node?_insert_of_ne t hne, hother]⟩
  kept other content _ := by
    by_cases hne : other = loc
    · have hroot : loc ≠ [] := by
        rintro rfl
        cases h
      rw [hne, node?_insert_self t hroot, h]
      simp
    · rw [node?_insert_of_ne t hne]

theorem leads_enter (t : FileTree) (loc : Location) (step : String) :
    t.Leads (fun _ => False) (t.enter loc step).1 := by
  unfold enter
  split
  · exact .refl _ t
  · next hmissing => exact leads_insert_folder (of_follow_eq_missing hmissing).2.2.2
  · exact .refl _ t

theorem leads_enterAll (t : FileTree) (loc : Location) (steps : List String) :
    t.Leads (fun _ => False) (t.enterAll loc steps).1 := by
  induction steps generalizing t loc with
  | nil => exact .refl _ t
  | cons step steps ih =>
    have hstep := leads_enter t loc step
    rw [enterAll]
    split
    · next t' next hnext =>
      rw [hnext] at hstep
      exact hstep.trans (ih t' next)
    · next t' hnone =>
      rw [hnone] at hstep
      exact hstep

theorem leads_createFolders (t : FileTree) (p : Path) :
    t.Leads (fun _ => False) (t.createFolders p).1 := by
  unfold createFolders
  split
  · exact leads_enterAll t _ _
  · exact .refl _ t

/-! ### Writing files -/

theorem leads_insert_file (h : t.node? loc ≠ some .folder) (content : ByteArray) :
    t.Leads (· = loc) (t.insert loc (.file content)) where
  home := rfl
  folder other hother := by
    have hne : other ≠ loc := fun hne => h (hne ▸ hother)
    rw [node?_insert_of_ne t hne, hother]
  file other content' hother := by
    by_cases hne : other = loc
    · have hroot : loc ≠ [] := fun hroot => h (hroot ▸ t.node?_nil)
      exact ⟨content, by rw [hne, node?_insert_self t hroot]⟩
    · exact ⟨content', by rw [node?_insert_of_ne t hne, hother]⟩
  kept other content' hne := by rw [node?_insert_of_ne t hne]

/-- A path can be written: it leads through folders to a name in a folder, which is not that of a
folder. -/
structure IsWritable (t : FileTree) (p : Path) (front : List String) (folder : Location)
    (name : String) : Prop where
  steps : p.steps = front ++ [name]
  isUsable : isUsable p
  namesFile : p.namesFolder = false
  follow : front.foldlM t.follow (t.start p) = .ok folder
  isFolder : t.node? folder = some .folder
  length : name = ".." ∨ name.utf8ByteSize ≤ nameLimit
  isFree : t.node? (folder.after name) ≠ some .folder

theorem isWritable_of_target? (h : t.target? p = some loc) :
    ∃ front folder name, t.IsWritable p front folder name ∧ loc = folder.after name := by
  unfold target? at h
  split at h
  · cases h
  · next name hlast =>
    obtain ⟨front, hsteps⟩ := List.getLast?_eq_some_iff.1 hlast
    rw [hsteps, List.dropLast_concat] at h
    split_ifs at h with hpath
    have hpath : isUsable p ∧ p.namesFolder = false := by simpa using hpath
    split at h
    · cases h
    · next folder hfront =>
      refine ⟨front, folder, name, ?_⟩
      split at h
      · next hmissing =>
        obtain ⟨hfolder, hparent, hlength, hnone⟩ := of_follow_eq_missing hmissing
        have hafter : folder.after name = folder ++ [name] := if_neg hparent
        rw [hafter, Option.some.inj h]
        refine ⟨⟨hsteps, hpath.1, hpath.2, hfront, hfolder, Or.inr hlength, ?_⟩, rfl⟩
        rw [hafter, hnone]
        nofun
      · cases h
      · next loc' hthere =>
        obtain ⟨hfolder, rfl, hname⟩ := of_follow_eq_ok hthere
        split_ifs at h with hnode
        exact ⟨⟨hsteps, hpath.1, hpath.2, hfront, hfolder, hname.imp id And.left, hnode⟩,
          (Option.some.inj h).symm⟩

theorem place_of_target? (h : t.target? p = some loc) : loc = p.place t.home := by
  obtain ⟨front, folder, name, hp, rfl⟩ := isWritable_of_target? h
  rw [Path.place, hp.steps, List.foldl_append, foldl_after_of_foldlM_follow hp.follow]
  rfl

theorem node?_of_target? (h : t.target? p = some loc) : t.node? loc ≠ some .folder := by
  obtain ⟨front, folder, name, hp, rfl⟩ := isWritable_of_target? h
  exact hp.isFree

/-- A path that could be written is found once something is there. -/
theorem find_of_target? {written : Location → Prop} (h : t.target? p = some loc)
    (hl : t.Leads written t') (hthere : (t'.node? loc).isSome) : t'.find p = .ok loc := by
  obtain ⟨front, folder, name, hp, rfl⟩ := isWritable_of_target? h
  have hempty : p.text.isEmpty = false := by
    by_contra htext
    have htext : p.text = "" := by simpa using htext
    have hnil : p.steps = [] := by
      rw [Path.steps, Path.segments, htext]
      rfl
    rw [hp.steps] at hnil
    simp at hnil
  have hfollow : t'.follow folder name = .ok (folder.after name) := by
    have hfolder := hl.folder folder hp.isFolder
    by_cases hparent : name = ".."
    · rw [hparent, follow_parent hfolder]
    · rw [follow_of_ne_parent hfolder hparent (hp.length.resolve_left hparent), if_pos hthere]
  rw [find_eq_ok_iff, hp.namesFile, hl.start, hp.steps, List.foldlM_append, bind_eq_ok_iff]
  refine ⟨hp.isUsable, hempty, ⟨folder, hl.foldlM_follow hp.follow, ?_⟩,
    fun h => absurd h Bool.false_ne_true⟩
  rw [List.foldlM_cons, hfollow]
  rfl

theorem leads_write (t : FileTree) (p : Path) (content : ByteArray) :
    t.Leads (· = p.place t.home) (t.write p content).1 := by
  unfold write
  split
  · next loc htarget =>
    rw [← place_of_target? htarget]
    exact leads_insert_file (node?_of_target? htarget) content
  · exact .refl _ t

/-- What has been written can be read. -/
theorem read_write {content : ByteArray} (h : (t.write p content).2) :
    (t.write p content).1.read p = .ok content := by
  have hl := leads_write t p content
  unfold write at h hl ⊢
  split
  · next loc htarget =>
    rw [htarget] at hl
    have hroot : loc ≠ [] := fun hroot => node?_of_target? htarget (hroot ▸ t.node?_nil)
    have hthere := t.node?_insert_self hroot (.file content)
    rw [read_eq_ok_iff, home_insert, ← place_of_target? htarget]
    exact ⟨find_of_target? htarget hl (Option.isSome_of_mem hthere), hthere⟩
  · next htarget =>
    rw [htarget] at h
    cases h

/-- What has been written stays as it is when it is written once more, also if that fails. -/
theorem read_write_of_read {content : ByteArray} (h : t.read p = .ok content) :
    (t.write p content).1.read p = .ok content := by
  cases hp : t.target? p with
  | none =>
    rw [write, hp]
    exact h
  | some loc =>
    refine read_write ?_
    rw [write, hp]

end JniBindings.FileTree
