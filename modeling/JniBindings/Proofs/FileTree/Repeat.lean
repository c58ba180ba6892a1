import JniBindings.Proofs.FileTree
/-!
# Doing the same to a later tree

Folders that have been created are found by whoever creates them again, and a file that has been
written can be written again (`createFolders_of_leads`, `write_of_leads`). If everything that led
from one tree to another is done once more, beginning with the latter, the two meet again: every
node is as it was in the end, or as it has become on the way (`Repeats`).
-/

namespace JniBindings.FileTree

variable {t t' u : FileTree} {p : Path} {loc next folder : Location} {step name : String}
  {front : List String} {written : Location → Prop}

/-- Where nothing has been written, at most a folder is new. -/
theorem Leads.node?_eq_or_eq_folder (h : t.Leads written t') (hloc : ¬ written loc) :
    t'.node? loc = t.node? loc ∨ t'.node? loc = some .folder := by
  cases hnode : t'.node? loc with
  | none =>
    left
    by_contra hne
    obtain ⟨node, hsome⟩ := Option.ne_none_iff_exists'.1 (Ne.symm hne)
    have hthere := h.isSome (Option.isSome_of_mem hsome)
    rw [hnode] at hthere
    cases hthere
  | some node =>
    cases node with
    | folder => exact Or.inr rfl
    | file content => exact Or.inl ((h.kept loc content hloc).1 hnode).symm

/-- A path that leads to a file still does, whatever is in the file then. -/
theorem Leads.read_of_node? (h : t.Leads written t') {content content' : ByteArray}
    (hread : t.read p = .ok content) (hnode : t'.node? (p.place t.home) = some (.file content')) :
    t'.read p = .ok content' := by
  rw [read_eq_ok_iff, h.place]
  exact ⟨h.find (read_eq_ok_iff.1 hread).1, hnode⟩

theorem Leads.exists_read (h : t.Leads written t') {content : ByteArray}
    (hread : t.read p = .ok content) : ∃ content', t'.read p = .ok content' := by
  obtain ⟨content', hnode⟩ := h.file _ content (read_eq_ok_iff.1 hread).2
  exact ⟨content', h.read_of_node? hread hnode⟩

/-! ### Folders -/

/-- A folder that has been entered is there. -/
theorem of_enter_eq_some (h : t.enter loc step = (t', some next)) :
    t'.follow loc step = .ok next ∧ t'.node? next = some .folder := by
  unfold enter at h
  split at h
  · next there hfollow =>
    obtain ⟨rfl, hnext⟩ := Prod.mk.inj h
    obtain ⟨hfolder, hthere⟩ := Option.ite_none_right_eq_some.1 hnext
    obtain rfl := Option.some.inj hthere
    exact ⟨hfollow, hfolder⟩
  · next hmissing =>
    obtain ⟨hfolder, hparent, hlength, hnone⟩ := of_follow_eq_missing hmissing
    obtain ⟨rfl, hnext⟩ := Prod.mk.inj h
    obtain rfl := Option.some.inj hnext
    have hafter : loc.after step = loc ++ [step] := if_neg hparent
    have hnew : (t.insert (loc ++ [step]) .folder).node? (loc ++ [step]) = some .folder :=
      t.node?_insert_self (by simp) .folder
    refine ⟨?_, hnew⟩
    rw [follow_of_ne_parent ((leads_insert_folder hnone).folder loc hfolder) hparent hlength,
      hafter, if_pos (Option.isSome_of_mem hnew)]
  · obtain ⟨-, hnext⟩ := Prod.mk.inj h
    cases hnext

theorem enter_of_follow (h : t.follow loc step = .ok next) (hfolder : t.node? next = some .folder) :
    t.enter loc step = (t, some next) := by
  rw [enter, h]
  dsimp only
  rw [if_pos hfolder]

theorem enterAll_of_leads {steps : List String} (h : (t.enterAll loc steps).2)
    (hl : (t.enterAll loc steps).1.Leads written u) : u.enterAll loc steps = (u, true) := by
  induction steps generalizing t loc with
  | nil => rfl
  | cons step steps ih =>
    rw [enterAll] at h hl
    split at h
    · next s next hstep =>
      rw [hstep] at hl
      obtain ⟨hfollow, hfolder⟩ := of_enter_eq_some hstep
      -- what has been entered first is still there when all has been entered
      have hall := ((leads_enterAll s next steps).mono fun _ => False.elim).trans hl
      rw [enterAll, enter_of_follow (hall.follow hfollow) (hall.folder next hfolder)]
      exact ih h hl
    · cases h

theorem createFolders_of_leads (h : (t.createFolders p).2)
    (hl : (t.createFolders p).1.Leads written u) : u.createFolders p = (u, true) := by
  unfold createFolders at h hl ⊢
  split at h
  · next husable =>
    rw [if_pos husable] at hl ⊢
    have hstart : u.start p = t.start p := by
      rw [hl.start, (leads_enterAll t (t.start p) p.steps).start]
    rw [hstart]
    exact enterAll_of_leads h hl
  · cases h

/-! ### Files -/

theorem IsWritable.target? (h : t.IsWritable p front folder name) :
    t.target? p = some (folder.after name) := by
  have hpath : ¬ (!FileTree.isUsable p || p.namesFolder) = true := by
    simp [h.isUsable, h.namesFile]
  have hlast : p.steps.getLast? = some name := by
    rw [h.steps, List.getLast?_concat]
  rw [FileTree.target?, hlast]
  dsimp only
  rw [if_neg hpath, h.steps, List.dropLast_concat, h.follow]
  dsimp only
  by_cases hparent : name = ".."
  · rw [hparent, follow_parent h.isFolder]
    dsimp only
    rw [if_neg (hparent ▸ h.isFree)]
  · rw [follow_of_ne_parent h.isFolder hparent (h.length.resolve_left hparent)]
    by_cases hthere : (t.node? (folder.after name)).isSome
    · rw [if_pos hthere]
      dsimp only
      rw [if_neg h.isFree]
    · rw [if_neg hthere, Location.after, if_neg hparent]

/-- A path that could be written still can, unless a folder is in its place. -/
theorem target?_of_leads (h : t.target? p = some loc) (hl : t.Leads written u)
    (hfree : u.node? loc ≠ some .folder) : u.target? p = some loc := by
  obtain ⟨front, folder, name, hp, rfl⟩ := isWritable_of_target? h
  have hu : u.IsWritable p front folder name :=
    { steps := hp.steps
      isUsable := hp.isUsable
      namesFile := hp.namesFile
      follow := by
        rw [hl.start]
        exact hl.foldlM_follow hp.follow
      isFolder := hl.folder folder hp.isFolder
      length := hp.length
      isFree := hfree }
  exact hu.target?

theorem exists_target?_of_write {content : ByteArray} (h : (t.write p content).2) :
    ∃ loc, t.target? p = some loc ∧ t.write p content = (t.insert loc (.file content), true) := by
  cases htarget : t.target? p with
  | none =>
    rw [write, htarget] at h
    cases h
  | some loc => exact ⟨loc, rfl, by rw [write, htarget]⟩

/-- A file that has been written can be written again. -/
theorem write_of_leads {content : ByteArray} (h : (t.write p content).2)
    (hl : (t.write p content).1.Leads written u) (content' : ByteArray) :
    ∃ loc ≠ [], t.write p content = (t.insert loc (.file content), true)
      ∧ u.write p content' = (u.insert loc (.file content'), true) := by
  obtain ⟨loc, htarget, hwrite⟩ := exists_target?_of_write h
  have hroot : loc ≠ [] := fun hroot => node?_of_target? htarget (hroot ▸ t.node?_nil)
  have htl := leads_write t p content
  rw [hwrite] at hl htl
  obtain ⟨kept, hkept⟩ := hl.file loc content (t.node?_insert_self hroot _)
  have hu : u.target? p = some loc := by
    refine target?_of_leads htarget ((htl.mono fun _ _ => trivial).trans
      (hl.mono fun _ _ => trivial) : t.Leads (fun _ => True) u) ?_
    rw [hkept]
    nofun
  exact ⟨loc, hroot, hwrite, by rw [write, hu]⟩

/-! ### Once more -/

/-- A tree `u` in the course of doing again what has led to the tree `final`, where the same has led
to `s` the first time. -/
structure Repeats (final s u : FileTree) : Prop where
  before : s.Leads (fun _ => True) final
  after : final.Leads (fun _ => True) u
  node : ∀ loc, u.node? loc = final.node? loc ∨ u.node? loc = s.node? loc

namespace Repeats

variable {final s s' : FileTree}

theorem start (h : s.Leads (fun _ => True) final) : final.Repeats s final where
  before := h
  after := .refl _ final
  node _ := Or.inl rfl

/-- In the end every node is as it was. -/
theorem node?_eq (h : final.Repeats final u) (loc : Location) :
    u.node? loc = final.node? loc :=
  (h.node loc).elim id id

theorem home (h : final.Repeats s u) : u.home = s.home := h.after.home.trans h.before.home

/-- Nothing has to change the second time where nothing but new folders has come up the first time,
or everything is as in the end. -/
theorem settled (h : final.Repeats s u) (hs' : s'.Leads (fun _ => True) final)
    (hnode : ∀ loc, u.node? loc = final.node? loc ∨ s'.node? loc = s.node? loc
      ∨ s'.node? loc = some .folder) : final.Repeats s' u where
  before := hs'
  after := h.after
  node loc := by
    rcases hnode loc with hfinal | hsame | hfolder
    · exact Or.inl hfinal
    · rw [hsame]
      exact h.node loc
    · right
      rw [hfolder, h.after.folder loc (hs'.folder loc hfolder)]

theorem createFolders (h : final.Repeats s u) (hdone : (s.createFolders p).2)
    (hs' : (s.createFolders p).1.Leads (fun _ => True) final) :
    u.createFolders p = (u, true) ∧ final.Repeats (s.createFolders p).1 u := by
  have hu : (s.createFolders p).1.Leads (fun _ => True) u := hs'.trans h.after
  refine ⟨createFolders_of_leads hdone hu, h.settled hs' fun loc => Or.inr ?_⟩
  exact (leads_createFolders s p).node?_eq_or_eq_folder not_false

theorem write {content : ByteArray} (h : final.Repeats s u) (hdone : (s.write p content).2)
    (hs' : (s.write p content).1.Leads (fun _ => True) final) :
    (u.write p content).2 ∧ final.Repeats (s.write p content).1 (u.write p content).1 := by
  obtain ⟨loc, hroot, hs, hu⟩ := write_of_leads hdone (hs'.trans h.after) content
  have hul : u.Leads (fun _ => True) (u.write p content).1 :=
    (leads_write u p content).mono fun _ _ => trivial
  rw [hs] at hs' ⊢
  rw [hu] at hul ⊢
  refine ⟨rfl, hs', h.after.trans hul, fun other => ?_⟩
  by_cases hother : other = loc
  · right
    rw [hother, node?_insert_self u hroot, node?_insert_self s hroot]
  · rw [node?_insert_of_ne u hother, node?_insert_of_ne s hother]
    exact h.node other

end Repeats

end JniBindings.FileTree
