import JniBindings.Proofs.ClassNames
import JniBindings.Proofs.Proxy.Members
import Mathlib.Order.Bounds.Basic
/-!
# Names of constants

A constant has the identifier of its field with as few underscores behind it as make the name free:
neither reserved, nor taken, nor that of a constant in front (`NamesInOrder`). How many these can be
is bounded by the number of names in the way (`exists_freeName_eq`). So all names of constants
differ, and no constant of a proxy is called like one of its functions
(`Proxy.constants_named_apart`).
-/

namespace JniBindings

/-- A name with a number of underscores behind it. -/
def underscored (name : String) (n : Nat) : String := name ++ String.ofList (List.replicate n '_')

/-- A constant may have the name. -/
def IsFree (taken : List String) (name : String) : Prop := isReserved name = false ∧ name ∉ taken

theorem underscored_zero (name : String) : underscored name 0 = name := by
  simp [underscored]

theorem underscored_succ (name : String) (n : Nat) :
    underscored name (n + 1) = underscored (name ++ "_") n := by
  rw [← String.toList_inj]
  simp [underscored, List.replicate_succ]

theorem isFree_iff {taken : List String} {name : String} :
    IsFree taken name ↔ isBlocked taken name = false := by
  simp [IsFree, isBlocked]

theorem isFree_append_iff {taken earlier : List String} {name : String} :
    IsFree (taken ++ earlier) name ↔ IsFree taken name ∧ name ∉ earlier := by
  rw [IsFree, IsFree, List.mem_append, not_or, and_assoc]

theorem isFree_cons_append {taken earlier : List String} {word name : String} :
    IsFree (word :: taken ++ earlier) name ↔ IsFree (taken ++ word :: earlier) name := by
  rw [IsFree, IsFree, List.perm_middle.mem_iff]
  rfl

/-- The search for a free name ends with the least number of underscores, which is no more than
there are names in the way. -/
theorem exists_freeName_eq (taken : List String) (name : String) :
    ∃ n, freeName taken name = underscored name n
      ∧ IsLeast {n | IsFree taken (underscored name n)} n
      ∧ n ≤ (blockers taken name.length).length := by
  fun_induction freeName taken name with
  | case1 name hblocked ih =>
    obtain ⟨n, heq, ⟨hfree, hleast⟩, hbound⟩ := ih
    rw [← underscored_succ] at heq
    rw [Set.mem_ofPred_eq, ← underscored_succ] at hfree
    refine ⟨n + 1, heq, ⟨hfree, fun m hm => ?_⟩, hbound.trans_lt (length_blockers_lt hblocked)⟩
    cases m with
    | zero =>
      rw [Set.mem_ofPred_eq, underscored_zero, isFree_iff, hblocked] at hm
      cases hm
    | succ m =>
      rw [Set.mem_ofPred_eq, underscored_succ] at hm
      exact Nat.succ_le_succ (hleast hm)
  | case2 name hfree =>
    rw [Bool.not_eq_true] at hfree
    refine ⟨0, (underscored_zero name).symm, ⟨?_, fun m _ => m.zero_le⟩, Nat.zero_le _⟩
    rwa [Set.mem_ofPred_eq, underscored_zero, isFree_iff]

/-- There is one constant for each field. Its name is the identifier of the field with the least
number of underscores that keeps it off all names that are taken and those of the constants in
front. -/
structure NamesInOrder (taken : List String) (fields : List Field) (constants : List Constant) :
    Prop where
  length : constants.length = fields.length
  named : ∀ i f k, fields[i]? = some f → constants[i]? = some k →
    ∃ n, k = f.toConstant (underscored (identifier f.name) n)
      ∧ IsLeast {n | IsFree (taken ++ (constants.take i).map Constant.name)
          (underscored (identifier f.name) n)} n

theorem Field.name_toConstant (f : Field) (name : String) : (f.toConstant name).name = name := by
  unfold toConstant
  split <;> rfl

theorem namesInOrder_nameConstants (taken : List String) (fields : List Field) :
    NamesInOrder taken fields (nameConstants taken fields) := by
  induction fields generalizing taken with
  | nil => exact ⟨rfl, nofun⟩
  | cons f fields ih =>
    obtain ⟨hlength, hnamed⟩ := ih (freeName taken (identifier f.name) :: taken)
    refine ⟨congrArg Nat.succ hlength, ?_⟩
    rintro (_ | i) g k hg hk
    · obtain rfl := Option.some.inj hg
      obtain rfl := Option.some.inj hk
      obtain ⟨n, hn, hleast, -⟩ := exists_freeName_eq taken (identifier f.name)
      exact ⟨n, by rw [hn], by simpa using hleast⟩
    · obtain ⟨n, hn, hleast⟩ := hnamed i g k hg hk
      -- the name of the first constant is taken for all others
      simp only [isFree_cons_append] at hleast
      refine ⟨n, hn, ?_⟩
      rw [nameConstants, List.take_succ_cons, List.map_cons, Field.name_toConstant]
      exact hleast

namespace NamesInOrder

variable {taken : List String} {fields : List Field} {constants : List Constant}
  (h : NamesInOrder taken fields constants)
include h

theorem isFree {i : Nat} {k : Constant} (hk : constants[i]? = some k) :
    IsFree (taken ++ (constants.take i).map Constant.name) k.name := by
  have hi : i < fields.length := h.length ▸ (List.getElem?_eq_some_iff.1 hk).1
  obtain ⟨n, rfl, hleast⟩ := h.named i _ k (List.getElem?_eq_getElem hi) hk
  rw [Field.name_toConstant]
  exact hleast.1

theorem isFree_of_mem {k : Constant} (hk : k ∈ constants) : IsFree taken k.name := by
  obtain ⟨i, hi⟩ := List.mem_iff_getElem?.1 hk
  exact (isFree_append_iff.1 (h.isFree hi)).1

theorem nodup : (constants.map Constant.name).Nodup := by
  rw [List.nodup_iff_pairwise_ne, List.pairwise_iff_getElem]
  intro i j hi hj hij heq
  rw [List.length_map] at hi hj
  have hfree := isFree_append_iff.1 (h.isFree (List.getElem?_eq_getElem hj))
  rw [List.getElem_map, List.getElem_map] at heq
  refine hfree.2 (heq ▸ List.mem_map_of_mem ?_)
  exact List.mem_take_iff_getElem.2 ⟨i, by omega, rfl⟩

end NamesInOrder

/-- The names of the functions that a proxy has for the members of its class. -/
def Proxy.functionNames (p : Proxy) : List String :=
  p.constructors.map ProxyConstructor.functionName ++ p.methods.map ProxyMethod.functionName
    ++ p.fields.flatMap ProxyField.accessorNames

theorem Proxy.constants_of_ofModel {config : Config} {names : ClassNames} {c : ClassModel}
    {p : Proxy} (h : ofModel config names c = .ok p) :
    p.constants = constantsOf c.fields p.functionNames := by
  obtain ⟨_, -, h⟩ := bind_eq_ok_iff.1 h
  obtain ⟨_, -, h⟩ := bind_eq_ok_iff.1 h
  obtain ⟨_, -, h⟩ := bind_eq_ok_iff.1 h
  obtain ⟨_, -, h⟩ := bind_eq_ok_iff.1 h
  obtain ⟨_, -, h⟩ := bind_eq_ok_iff.1 h
  obtain rfl := Except.ok.inj h
  rfl

/-- Each constant field has one constant, in the order of the fields and with the least number of
underscores behind its identifier; the search for it goes no further than there are names in the
way. The names of the constants differ from each other, from reserved words and from all that is
taken. In a proxy they differ from the names of factories, methods, getters and setters. -/
theorem Proxy.constants_named_apart :
    (∀ taken name, ∃ n ≤ (keywords ++ proxyNames ++ taken).length,
        freeName taken name = underscored name n)
      ∧ (∀ fields taken,
        NamesInOrder taken (fields.filter Field.isConstant) (constantsOf fields taken)
        ∧ ((constantsOf fields taken).map Constant.name).Nodup
        ∧ ∀ k ∈ constantsOf fields taken, isReserved k.name = false ∧ k.name ∉ taken)
      ∧ ∀ config names c p, ofModel config names c = .ok p → ∀ k ∈ p.constants,
        (∀ v ∈ p.constructors, v.functionName ≠ k.name) ∧ (∀ v ∈ p.methods, v.functionName ≠ k.name)
          ∧ ∀ v ∈ p.fields, v.getter ≠ some k.name ∧ v.setter ≠ some k.name := by
  have hnamed (fields : List Field) (taken : List String) :
      NamesInOrder taken (fields.filter Field.isConstant) (constantsOf fields taken) :=
    namesInOrder_nameConstants taken _
  refine ⟨fun taken name => ?_, fun fields taken => ⟨hnamed fields taken,
    (hnamed fields taken).nodup, fun k hk => (hnamed fields taken).isFree_of_mem hk⟩,
    fun config names c p hp k hk => ?_⟩
  · obtain ⟨n, hn, -, hbound⟩ := exists_freeName_eq taken name
    exact ⟨n, hbound.trans (List.length_filter_le _ _), hn⟩
  · rw [constants_of_ofModel hp] at hk
    have hfree := ((hnamed _ _).isFree_of_mem hk).2
    simp only [functionNames, List.mem_append, List.mem_map, List.mem_flatMap, not_or, not_exists,
      not_and, ProxyField.accessorNames, Option.mem_toList] at hfree
    obtain ⟨⟨hconstructors, hmethods⟩, hfields⟩ := hfree
    exact ⟨hconstructors, hmethods, hfields⟩

/-- A class with constants that are called like a keyword, like a method, and like another constant
after it has been renamed. -/
def crowdedClass : ClassModel :=
  ["delete", "size", "size_"].foldl
    (fun c name => c.withField
      { declaringClass := "a.B", name, type := .primitive .int,
        modifiers := .ofList [.isStatic, .isFinal] })
    ((ClassModel.ofName "a.B").withMethod "size" .void [] (.ofList [.isPublic]))

theorem Proxy.constants_named_apart_crowdedClass :
    ∃ names p, ClassNames.ofModel crowdedClass = .ok names ∧ ofModel {} names crowdedClass = .ok p
      ∧ p.constants.map Constant.name = ["delete_", "size_", "size__"]
      ∧ p.methods.map ProxyMethod.functionName = ["size"]
      ∧ ∀ k ∈ p.constants, ∀ v ∈ p.methods, v.functionName ≠ k.name := by
  obtain ⟨names, hnames, hmade⟩ := ClassNames.exists_ofModel (c := crowdedClass) (by decide)
    (by decide) (by decide)
  obtain ⟨p, hp, hmethods, hnone⟩ : ∃ p, ofModel {} names crowdedClass = .ok p
      ∧ p.methods.map ProxyMethod.functionName = ["size"] ∧ p.functionNames = ["size"] := by
    have henclosing : names.enclosingInstance = none := hmade.enclosingInstance
    cases names
    subst henclosing
    exact ⟨_, rfl, rfl, rfl⟩
  obtain ⟨-, -, hapart⟩ := constants_named_apart
  refine ⟨names, p, hnames, hp, ?_, hmethods, fun k hk => (hapart {} names _ p hp k hk).2.1⟩
  have hrenamed (taken : List String) (name : String) (hname : isBlocked taken name)
      (hnext : isBlocked taken (name ++ "_") = false) : freeName taken name = name ++ "_" := by
    rw [freeName, dif_pos hname, freeName, dif_neg (by simp [hnext])]
  have hdelete : freeName ["size"] (identifier "delete") = "delete_" :=
    hrenamed _ _ (by decide) (by decide)
  have hsize : freeName ["delete_", "size"] (identifier "size") = "size_" :=
    hrenamed _ _ (by decide) (by decide)
  have hsize_ : freeName ["size_", "delete_", "size"] (identifier "size_") = "size__" :=
    hrenamed _ _ (by decide) (by decide)
  rw [constants_of_ofModel hp, hnone]
  show (nameConstants ["size"] crowdedClass.fields).map Constant.name = _
  simp only [crowdedClass, List.foldl_cons, List.foldl_nil, ClassModel.withField]
  simp only [ClassModel.withMethod, ClassModel.ofName, List.nil_append, List.cons_append,
    nameConstants, hdelete, hsize, hsize_, List.map_cons, List.map_nil, Field.name_toConstant]

end JniBindings
