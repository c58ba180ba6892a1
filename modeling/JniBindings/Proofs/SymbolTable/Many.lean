import JniBindings.Proofs.Json.Array
import JniBindings.Proofs.SymbolTable
/-!
# Symbol tables of many classes

The reader of many classes asks for everything to be sound and first tries to read what it finds as
one class. It reads an object as the reader of one class does (`ClassEntry.ofJson?_numbered`), and
it never reads an array that begins with an object as one class (`ClassEntry.ofJson?_array_object`).
So an array of objects is read as the models of its elements as soon as there is one and all of them
denote something (`ClassModel.listOfJson_eq_iff`). The empty array is read as the values of one
class, all of them left out.
-/

namespace JniBindings

/-! ### Steps -/

theorem bind_eq_some_of_imp {α β : Type} {x y : Option α} {f g : α → Option β} {b : β}
    (h : x.bind f = some b) (hxy : ∀ a, x = some a → y = some a)
    (hfg : ∀ a, f a = some b → g a = some b) : y.bind g = some b := by
  obtain ⟨a, ha, h⟩ := Option.bind_eq_some_iff.1 h
  exact Option.bind_eq_some_iff.2 ⟨a, hxy a ha, hfg a h⟩

theorem mapM_eq_some_iff {α β : Type} {f : α → Option β} {xs : List α} {ys : List β} :
    xs.mapM f = some ys ↔ List.Forall₂ (fun x y => f x = some y) xs ys := by
  induction xs generalizing ys with
  | nil =>
    rw [List.mapM_nil, List.forall₂_nil_left_iff]
    exact ⟨fun h => (Option.some.inj h).symm, fun h => h ▸ rfl⟩
  | cons x xs ih =>
    simp only [List.mapM_cons, Option.bind_eq_bind, Option.bind_eq_some_iff, ih,
      List.forall₂_cons_left_iff]
    constructor
    · rintro ⟨y, hy, rest, hrest, h⟩
      exact ⟨y, rest, hy, hrest, (Option.some.inj h).symm⟩
    · rintro ⟨y, rest, hy, hrest, rfl⟩
      exact ⟨y, hy, rest, hrest, rfl⟩

theorem exists_of_forall₂_comp {α β γ : Type} {R : α → β → Prop} {S : β → γ → Prop} {xs : List α}
    {zs : List γ} (h : List.Forall₂ (fun x z => ∃ y, R x y ∧ S y z) xs zs) :
    ∃ ys, List.Forall₂ R xs ys ∧ List.Forall₂ S ys zs := by
  induction h with
  | nil => exact ⟨[], .nil, .nil⟩
  | cons h _ ih =>
    obtain ⟨y, hxy, hyz⟩ := h
    obtain ⟨ys, hxs, hzs⟩ := ih
    exact ⟨y :: ys, .cons hxy hxs, .cons hyz hzs⟩

/-! ### Kinds by name and by number -/

section

variable {α : Type} {read read' : Json → Option α}

theorem Json.list?_of_imp (h : ∀ v a, read v = some a → read' v = some a) (v : Json) (as : List α)
    (hv : v.list? read = some as) : v.list? read' = some as := by
  cases v with
  | array elements =>
    rw [Json.list?, mapM_eq_some_iff] at hv ⊢
    exact hv.imp h
  | _ => cases hv

theorem partOr_of_imp (h : ∀ v a, read v = some a → read' v = some a) {default : α}
    {part : Option Json} (a : α) (hpart : partOr default read part = some a) :
    partOr default read' part = some a := by
  cases part with
  | none => exact hpart
  | some v => exact h v a hpart

end

theorem AnnotationKind.ofJson?_numbered (v : Json) (kind : AnnotationKind)
    (h : ofJson? .named v = some kind) : ofJson? .numbered v = some kind := by
  cases v with
  | string pieces => exact h
  | _ => cases h

theorem Annotation.ofJson?_numbered (v : Json) (a : Annotation)
    (h : ofJson? .named v = some a) : ofJson? .numbered v = some a := by
  refine bind_eq_some_of_imp h (fun _ => id) fun _ h => ?_
  cases v with
  | object members =>
    refine bind_eq_some_of_imp h (fun _ => id) fun kind? h => ?_
    refine bind_eq_some_of_imp h (fun kind hkind => ?_) fun _ => id
    exact bind_eq_some_of_imp hkind (fun _ => id) fun kind => AnnotationKind.ofJson?_numbered kind _
  | array elements =>
    cases elements with
    | nil => exact h
    | cons kind parts =>
      exact bind_eq_some_of_imp h (AnnotationKind.ofJson?_numbered kind) fun _ => id
  | _ => exact h

theorem annotationList?_numbered (v : Json) (as : List Annotation)
    (h : annotationList? .named v = some as) : annotationList? .numbered v = some as :=
  Json.list?_of_imp Annotation.ofJson?_numbered v as h

theorem MethodEntry.ofJson?_numbered (v : Json) (entry : MethodEntry)
    (h : ofJson? .named v = some entry) : ofJson? .numbered v = some entry := by
  refine bind_eq_some_of_imp h (fun _ => id) fun parts h => ?_
  split at h
  · refine bind_eq_some_of_imp h (fun _ => id) fun name h => ?_
    refine bind_eq_some_of_imp h (fun _ => id) fun result h => ?_
    refine bind_eq_some_of_imp h (fun _ => id) fun modifiers h => ?_
    refine bind_eq_some_of_imp h (fun _ => id) fun parameters h => ?_
    refine bind_eq_some_of_imp h (fun _ => id) fun exceptions h => ?_
    exact bind_eq_some_of_imp h (partOr_of_imp annotationList?_numbered) fun _ => id
  · cases h

theorem FieldEntry.ofJson?_numbered (v : Json) (entry : FieldEntry)
    (h : ofJson? .named v = some entry) : ofJson? .numbered v = some entry := by
  refine bind_eq_some_of_imp h (fun _ => id) fun parts h => ?_
  split at h
  · refine bind_eq_some_of_imp h (fun _ => id) fun name h => ?_
    refine bind_eq_some_of_imp h (fun _ => id) fun type h => ?_
    refine bind_eq_some_of_imp h (fun _ => id) fun modifiers h => ?_
    exact bind_eq_some_of_imp h (partOr_of_imp annotationList?_numbered) fun _ => id
  · cases h

/-- A class is also read where the kinds of annotations may be numbered. -/
theorem ClassEntry.ofJson?_numbered (v : Json) (entry : ClassEntry)
    (h : ofJson? .named v = some entry) : ofJson? .numbered v = some entry := by
  refine bind_eq_some_of_imp h (fun _ => id) fun parts h => ?_
  split at h
  · refine bind_eq_some_of_imp h (fun _ => id) fun name h => ?_
    refine bind_eq_some_of_imp h (fun _ => id) fun simpleName h => ?_
    refine bind_eq_some_of_imp h (fun _ => id) fun modifiers h => ?_
    refine bind_eq_some_of_imp h (fun _ => id) fun enclosingInstance h => ?_
    refine bind_eq_some_of_imp h
      (partOr_of_imp (Json.list?_of_imp MethodEntry.ofJson?_numbered)) fun constructors h => ?_
    refine bind_eq_some_of_imp h
      (partOr_of_imp (Json.list?_of_imp MethodEntry.ofJson?_numbered)) fun methods h => ?_
    exact bind_eq_some_of_imp h
      (partOr_of_imp (Json.list?_of_imp FieldEntry.ofJson?_numbered)) fun _ => id
  · cases h

/-! ### Arrays that are no class -/

/-- The values of an array are the first parts of a record. -/
theorem Json.head?_of_record?_array {keys : List String} {v : Json} {vs : List Json}
    {parts : List (Option Json)} (h : (array (v :: vs)).record? keys = some parts) :
    parts.head? = some (some v) := by
  rw [record?] at h
  split at h
  · obtain rfl := Option.some.inj h
    rfl
  · cases h

/-- An array that begins with an object is not the array of the values of a class, of which the
first is a text. -/
theorem ClassEntry.ofJson?_array_object (form : KindForm)
    (members : List (List Json.Piece × Json)) (vs : List Json) :
    ofJson? form (.array (.object members :: vs)) = none := by
  rw [Option.eq_none_iff_forall_ne_some]
  intro entry h
  obtain ⟨parts, hparts, h⟩ := Option.bind_eq_some_iff.1 h
  have hhead := Json.head?_of_record?_array hparts
  split at h
  · -- The object stands where the name of the class is read as a text.
    obtain rfl := Option.some.inj hhead
    obtain ⟨name, hname, -⟩ := Option.bind_eq_some_iff.1 h
    cases hname
  · cases h

/-- A class of which all parts are left out. -/
def ClassModel.nameless : ClassModel := (ofName "").withModifiers (.ofList [])

theorem ClassEntry.exists_ofJson?_emptyArray :
    ∃ entry, ofJson? .numbered (.array []) = some entry ∧ entry.toModel = .ok .nameless :=
  ⟨_, rfl, rfl⟩

/-! ### Values that denote something -/

namespace Json

theorem depthOfList_le {vs : List Json} {n : Nat} (h : ∀ v ∈ vs, v.depth ≤ n) :
    depthOfList vs ≤ n := by
  induction vs with
  | nil => exact Nat.zero_le n
  | cons v vs ih =>
    rw [List.forall_mem_cons] at h
    exact Nat.max_le.2 ⟨h.1, ih h.2⟩

/-- The value is an object, nested no deeper than 100 levels. -/
def isShallowObject : Json → Bool
  | object members => (object members).depth ≤ 100
  | _ => false

/-- Everything in the value that the text holds denotes something. -/
def textDenotes (text : String) : Bool := (parse? text).any denotes

theorem all_textDenotes {texts : List String} {vs : List Json}
    (h : List.Forall₂ (fun text v => parse? text = some v) texts vs) :
    texts.all textDenotes = denotesList vs := by
  induction h with
  | nil => rw [List.all_nil, denotesList]
  | cons hv _ ih => rw [List.all_cons, ih, textDenotes, hv, Option.any_some, denotesList]

theorem exists_of_isShallowObject {v : Json} (h : v.isShallowObject) :
    ∃ members, v = object members ∧ v.depth ≤ 100 := by
  cases v with
  | object members => exact ⟨members, rfl, of_decide_eq_true h⟩
  | _ => cases h

theorem sound_of_isShallowObject {v : Json} (h : v.isShallowObject) : v.sound 0 = v.denotes := by
  obtain ⟨members, -, hdepth⟩ := exists_of_isShallowObject h
  have hlimit : 0 + v.depth ≤ depthLimit := by
    rw [depthLimit]
    omega
  rw [sound, decide_eq_true hlimit, Bool.and_true]

theorem sound_array_of_isShallowObject {vs : List Json} (h : ∀ v ∈ vs, v.isShallowObject) :
    (array vs).sound 0 = denotesList vs := by
  have hlist : depthOfList vs ≤ 100 := depthOfList_le fun v hv => by
    obtain ⟨members, -, hdepth⟩ := exists_of_isShallowObject (h v hv)
    exact hdepth
  have hlimit : 0 + (array vs).depth ≤ depthLimit := by
    rw [depth, depthLimit]
    omega
  rw [sound, decide_eq_true hlimit, Bool.and_true, denotes]

end Json

/-! ### Classes one by one -/

namespace ClassModel

/-- The text holds an object nested no deeper than 100 levels, which is read as the class. -/
structure IsObjectText (text : String) (c : ClassModel) : Prop where
  isShallowObject : (Json.parse? text).any Json.isShallowObject
  ofJson : ofJson text = .ok c

/-- The value is an object nested no deeper than 100 levels, which is read as the class. -/
structure IsObject (v : Json) (c : ClassModel) : Prop where
  isShallowObject : v.isShallowObject
  toModel : ∃ entry, ClassEntry.ofJson? .numbered v = some entry ∧ entry.toModel = .ok c

theorem IsObjectText.exists_value {text : String} {c : ClassModel} (h : IsObjectText text c) :
    ∃ v, Json.parse? text = some v ∧ IsObject v c := by
  obtain ⟨v, hv, hofJson⟩ := bind_eq_ok_iff.1 h.ofJson
  obtain ⟨entry, hentry, hmodel⟩ := bind_eq_ok_iff.1 hofJson
  rw [readable_eq_ok_iff] at hv hentry
  have hobject := h.isShallowObject
  rw [hv, Option.any_some] at hobject
  exact ⟨v, hv, hobject, entry, ClassEntry.ofJson?_numbered v entry hentry, hmodel⟩

theorem listOfJson_of_sound {text : String} {v : Json} {entries : List ClassEntry}
    {cs : List ClassModel} (hv : Json.parse? text = some v) (hsound : v.sound 0)
    (hentries : ClassEntry.listOfJson? v = some entries)
    (hcs : List.Forall₂ (fun entry c => ClassEntry.toModel entry = .ok c) entries cs) :
    listOfJson text = .ok cs := by
  refine bind_eq_ok_iff.2 ⟨v, readable_eq_ok_iff.2 hv, ?_⟩
  refine bind_eq_ok_iff.2 ⟨entries, readable_eq_ok_iff.2 ?_, mapM_eq_ok_iff.2 hcs⟩
  rw [if_pos hsound, hentries]

theorem listOfJson_of_not_sound {text : String} {v : Json} (hv : Json.parse? text = some v)
    (hsound : v.sound 0 = false) : listOfJson text = .error .badJson := by
  rw [listOfJson, hv]
  change (readable (if v.sound 0 then _ else none) >>= _) = _
  rw [hsound]
  rfl

/-- One object is read as the list of the class that it is read as alone, if everything in it
denotes something. -/
theorem IsObjectText.listOfJson_eq {text : String} {c : ClassModel} (h : IsObjectText text c) :
    listOfJson text = if Json.textDenotes text then .ok [c] else .error .badJson := by
  obtain ⟨v, hv, hobject, entry, hentry, hmodel⟩ := h.exists_value
  have hsound := Json.sound_of_isShallowObject hobject
  rw [Json.textDenotes, hv, Option.any_some]
  cases hdenotes : v.denotes with
  | false => exact listOfJson_of_not_sound hv (hsound.trans hdenotes)
  | true =>
    refine listOfJson_of_sound hv (hsound.trans hdenotes) ?_ (.cons hmodel .nil)
    rw [ClassEntry.listOfJson?, hentry]

/-- An array of objects is read as the list of the classes that the objects are read as alone, if
there is one and everything in them denotes something. -/
theorem listOfJson_arrayOf {text : String} {texts : List String} {cs : List ClassModel}
    (htext : Json.IsArrayOf text texts) (htexts : List.Forall₂ IsObjectText texts cs) :
    listOfJson text
      = if texts = [] then .ok [nameless]
        else if texts.all Json.textDenotes then .ok cs
        else .error .badJson := by
  obtain ⟨vs, hvs, hcs⟩ := exists_of_forall₂_comp (htexts.imp fun _ _ h => h.exists_value)
  have hparse := Json.parse?_array htext hvs
  have hshallow : ∀ v ∈ vs, v.isShallowObject := fun v hv => by
    obtain ⟨c, -, hc⟩ := exists_of_mem_forall₂ hcs.flip hv
    exact hc.isShallowObject
  have hsound := Json.sound_array_of_isShallowObject hshallow
  obtain ⟨entries, hentries, hmodels⟩ := exists_of_forall₂_comp (hcs.imp fun _ _ h => h.toModel)
  rw [Json.all_textDenotes hvs]
  cases hvs with
  | nil =>
    -- One class is tried before many, and the empty array is taken for one.
    obtain ⟨entry, hentry, hmodel⟩ := ClassEntry.exists_ofJson?_emptyArray
    refine listOfJson_of_sound hparse hsound ?_ (.cons hmodel .nil)
    rw [ClassEntry.listOfJson?, hentry]
  | @cons text v texts vs _ _ =>
    rw [if_neg (List.cons_ne_nil text texts)]
    cases hdenotes : Json.denotesList (v :: vs) with
    | false => exact listOfJson_of_not_sound hparse (hsound.trans hdenotes)
    | true =>
      refine listOfJson_of_sound hparse (hsound.trans hdenotes) ?_ hmodels
      obtain ⟨members, rfl, -⟩ := Json.exists_of_isShallowObject (hshallow v List.mem_cons_self)
      rw [ClassEntry.listOfJson?, ClassEntry.ofJson?_array_object]
      exact mapM_eq_some_iff.2 hentries

/-- Reading many classes is reading each, except that the empty array is read as one class without
a name and that here everything has to denote something. So the classes of an array of objects are
those that the objects are read as alone exactly if there is an object and all of them denote
something, and one object is read as its class exactly if it denotes something. -/
theorem listOfJson_eq_iff {text : String} {texts : List String} {cs : List ClassModel}
    (htext : Json.IsArrayOf text texts) (htexts : List.Forall₂ IsObjectText texts cs) :
    (listOfJson text = .ok cs ↔ texts ≠ [] ∧ ∀ t ∈ texts, Json.textDenotes t) ∧
      (texts = [] → listOfJson text = .ok [nameless]) ∧
      ((∃ t ∈ texts, ¬ Json.textDenotes t) → listOfJson text = .error .badJson) ∧
      List.Forall₂ (fun t c =>
        (listOfJson t = .ok [c] ↔ Json.textDenotes t) ∧
          (¬ Json.textDenotes t → listOfJson t = .error .badJson)) texts cs := by
  rw [listOfJson_arrayOf htext htexts, ← List.all_eq_true]
  refine ⟨?_, fun h => if_pos h, ?_, htexts.imp fun t c h => ?_⟩
  · by_cases hnil : texts = []
    · subst hnil
      cases htexts
      simp
    · cases hall : texts.all Json.textDenotes <;> simp [hnil]
  · rintro ⟨t, ht, hdenotes⟩
    have hnil : texts ≠ [] := List.ne_nil_of_mem ht
    have hall : ¬ texts.all Json.textDenotes := fun hall => hdenotes (List.all_eq_true.1 hall t ht)
    rw [if_neg hnil, if_neg hall]
  · rw [h.listOfJson_eq]
    cases Json.textDenotes t <;> simp

theorem listOfJson_eq_iff_twoClasses :
    listOfJson "[\x7b\"name\":\"B\",\"note\":1\x7d, \x7b\"methods\":[\x7b\"name\":\"f\"\x7d]\x7d]"
      = .ok [(ofName "B").withModifiers (.ofList []),
          nameless.withMethod "f" .void [] (.ofList [])] := by
  have hfirst : IsObjectText "\x7b\"name\":\"B\",\"note\":1\x7d"
      ((ofName "B").withModifiers (.ofList [])) := ⟨by decide +kernel, by decide +kernel⟩
  have hsecond : IsObjectText " \x7b\"methods\":[\x7b\"name\":\"f\"\x7d]\x7d"
      (nameless.withMethod "f" .void [] (.ofList [])) := ⟨by decide +kernel, by decide +kernel⟩
  exact (listOfJson_eq_iff ⟨[], [], [], rfl, rfl, rfl, by decide⟩
    (.cons hfirst (.cons hsecond .nil))).1.2 ⟨List.cons_ne_nil _ _, by decide +kernel⟩

/-- The empty array is not read as no classes, and an object is read alone although half of a
surrogate pair stands under a key that is passed over. -/
theorem exists_listOfJson_ne :
    (∃ text texts cs, Json.IsArrayOf text texts ∧ List.Forall₂ IsObjectText texts cs ∧
        listOfJson text ≠ .ok cs) ∧
      ∃ text c, IsObjectText text c ∧ listOfJson text ≠ .ok [c] := by
  refine ⟨⟨"[]", [], [], ⟨[], [], [], rfl, rfl, rfl, by decide⟩, .nil, by decide +kernel⟩, ?_⟩
  exact ⟨"\x7b\"note\":\"\\ud800\"\x7d", nameless, ⟨by decide +kernel, by decide +kernel⟩,
    by decide +kernel⟩

end ClassModel

end JniBindings
