import JniBindings.FileTree.Basic
import JniBindings.Proofs.Text.Segments
/-!
# Where paths lead

The steps of a path lead from one location to another, whatever is there (`Path.place`). The name of
a file leads from the folder that it is joined to into that folder (`Path.place_join`), so that
files with different names in one folder, or in different folders, have different places.
-/

namespace JniBindings

/-- Where a step leads from a location. -/
def Location.after (loc : Location) (step : String) : Location :=
  if step = ".." then loc.dropLast else loc ++ [step]

/-- A text that is one step from a folder to a file in it. -/
structure IsFileName (name : String) : Prop where
  no_slash : '/' ∉ name.toList
  isStep : Path.isStep name
  ne_parent : name ≠ ".."

namespace Path

/-- Where a path leads, given the folder where paths begin that are not absolute. -/
def place (p : Path) (home : Location) : Location :=
  p.steps.foldl Location.after (if p.isAbsolute then [] else home)

/-! ### Joined paths -/

theorem steps_append_slash (front back : String) :
    (Path.mk (front ++ "/" ++ back)).steps = (Path.mk front).steps ++ (Path.mk back).steps := by
  have htext : (front ++ "/" ++ back).toList = front.toList ++ '/' :: back.toList := by simp
  rw [steps, segments, htext, Text.splitOn_append_cons, List.map_append, List.filter_append]
  rfl

theorem exists_eq_append_slash {s : String} (h : s.toList.getLast? = some '/') :
    ∃ front : String, s = front ++ "/" := by
  obtain ⟨front, hfront⟩ := List.getLast?_eq_some_iff.1 h
  refine ⟨String.ofList front, ?_⟩
  rw [← String.toList_inj, hfront, String.toList_append, String.toList_ofList]
  rfl

theorem isAbsolute_append {front : String} (h : front ≠ "") (back : String) :
    (Path.mk (front ++ back)).isAbsolute = (Path.mk front).isAbsolute := by
  have hne : front.toList ≠ [] := by simpa using h
  obtain ⟨c, rest, hcons⟩ := List.exists_cons_of_ne_nil hne
  simp [isAbsolute, hcons]

/-- A path in a folder leads where the folder leads, and on from there. -/
theorem join_spec (folder : Path) {name : String} (h : (Path.mk name).isAbsolute = false) :
    (folder.join name).steps = folder.steps ++ (Path.mk name).steps
      ∧ (folder.join name).isAbsolute = folder.isAbsolute := by
  obtain ⟨text⟩ := folder
  unfold join
  by_cases hempty : text = ""
  · subst hempty
    rw [if_pos (by simp), h]
    exact ⟨rfl, rfl⟩
  · rw [if_neg (by simp [h, hempty])]
    split
    · next hslash =>
      obtain ⟨front, rfl⟩ := exists_eq_append_slash hslash
      have hfolder := steps_append_slash front ""
      rw [String.append_empty] at hfolder
      rw [steps_append_slash, hfolder]
      exact ⟨by rw [List.append_assoc]; rfl, isAbsolute_append hempty name⟩
    · rw [steps_append_slash, String.append_assoc]
      exact ⟨rfl, isAbsolute_append hempty ("/" ++ name)⟩

theorem place_join_of_not_absolute (folder : Path) {name : String}
    (h : (Path.mk name).isAbsolute = false) (home : Location) :
    (folder.join name).place home
      = (Path.mk name).steps.foldl Location.after (folder.place home) := by
  obtain ⟨hsteps, habsolute⟩ := join_spec folder h
  rw [place, hsteps, habsolute, List.foldl_append]
  rfl

/-- A file lies in the folder that its name is joined to. -/
theorem place_join (folder : Path) {name : String} (h : IsFileName name) (home : Location) :
    (folder.join name).place home = folder.place home ++ [name] := by
  have habsolute : (Path.mk name).isAbsolute = false := by
    refine decide_eq_false fun hhead => h.no_slash ?_
    exact List.mem_of_mem_head? hhead
  have hsteps : (Path.mk name).steps = [name] := by
    rw [steps, segments, Text.splitOn_of_not_mem h.no_slash, List.map_cons, String.ofList_toList,
      List.map_nil, List.filter_cons_of_pos h.isStep, List.filter_nil]
  rw [place_join_of_not_absolute folder habsolute, hsteps, List.foldl_cons, List.foldl_nil,
    Location.after, if_neg h.ne_parent]

end Path

end JniBindings
