import JniBindings.Proofs.ClassNames
import JniBindings.Proofs.Glue.Binding
import JniBindings.Proofs.Overload
/-!
# Methods that are added to a class

Methods are told apart by counting those of the same name. So methods of other names, wherever they
are added to a class, change nothing about the functions that stand for the methods it had before
(`ClassModel.GainsMethods.keeps_functions`).
-/

namespace JniBindings

/-- The second list is the first one with new elements inserted anywhere. -/
inductive Inserts {α : Type} (new : α → Prop) : List α → List α → Prop
  | nil : Inserts new [] []
  | keep {x : α} {xs ys : List α} (h : Inserts new xs ys) : Inserts new (x :: xs) (x :: ys)
  | insert {y : α} {xs ys : List α} (hy : new y) (h : Inserts new xs ys) :
    Inserts new xs (y :: ys)

theorem Inserts.filter_eq {α : Type} {new : α → Prop} {old : α → Bool} {xs ys : List α}
    (h : Inserts new xs ys) (hold : ∀ x ∈ xs, old x) (hnew : ∀ y, new y → ¬ old y) :
    ys.filter old = xs := by
  induction h with
  | nil => rfl
  | keep _ ih =>
    obtain ⟨hx, hxs⟩ := List.forall_mem_cons.1 hold
    rw [List.filter_cons_of_pos hx, ih hxs]
  | insert hy _ ih => rw [List.filter_cons_of_neg (hnew _ hy), ih hold]

/-! ### Resolving members of some names -/

section Filter

variable {keep : String → Bool}

theorem occurrences_filter {word : String} (h : keep word) (names : List String) :
    occurrences word (names.filter keep) = occurrences word names :=
  List.count_filter h

/-- The index of a member depends on the members of its own name only. -/
theorem indexed_filter {α : Type} (keep : String → Bool) (name : α → String) (seen : List String)
    (ms : List α) :
    indexed name (seen.filter keep) (ms.filter (keep <| name ·))
      = (indexed name seen ms).filter (keep <| name ·.1) := by
  induction ms generalizing seen with
  | nil => rfl
  | cons m ms ih =>
    rw [indexed, List.filter_cons, List.filter_cons, ← ih, List.filter_cons]
    by_cases hm : keep (name m)
    · rw [if_pos hm, if_pos hm, if_pos hm, indexed, occurrences_filter hm]
    · rw [if_neg hm, if_neg hm, if_neg hm]

theorem resolveMethod_filter {enclosing : Option JavaType} {names : List String} {m : Method}
    {index : Nat} (h : keep m.name) :
    resolveMethod enclosing (names.filter keep) m index
      = resolveMethod enclosing names m index := by
  rw [resolveMethod, resolveMethod, Method.needsSuffix, Method.needsSuffix, occurrences_filter h]

theorem resolveMethods_filter (keep : String → Bool) {enclosing : Option JavaType}
    {ms : List Method} {rs : List (Resolved Method)} (h : resolveMethods enclosing ms = .ok rs) :
    resolveMethods enclosing (ms.filter (keep ·.name)) = .ok (rs.filter (keep ·.member.name)) := by
  have hnames : (ms.filter (keep ·.name)).map Method.name = (ms.map Method.name).filter keep := by
    rw [List.filter_map]
    rfl
  rw [resolveMethods, hnames]
  have hindexed := indexed_filter keep Method.name [] ms
  rw [List.filter_nil] at hindexed
  rw [hindexed]
  refine mapM_filter h (fun p r hr => ?_) fun p hp => resolveMethod_filter hp
  rw [member_of_resolveMethod hr]

end Filter

namespace ClassModel

/-- The second class is the first one with methods inserted that share their names with none of its
methods. -/
structure GainsMethods (c c₂ : ClassModel) : Prop where
  methods : Inserts (fun m => c.hasMethod m.name = false) c.methods c₂.methods
  rest : c₂ = { c with methods := c₂.methods }

namespace GainsMethods

variable {c c₂ : ClassModel} (h : c.GainsMethods c₂)
include h

theorem filter_methods : c₂.methods.filter (c.hasMethod ·.name) = c.methods :=
  h.methods.filter_eq (fun m hm => List.any_eq_true.2 ⟨m, hm, decide_eq_true rfl⟩)
    fun _ hm => Bool.not_eq_true _ ▸ hm

/-- The methods that are selected are those that were selected before, among others. -/
theorem filter_selected (selects : Method → Bool) :
    (c₂.methods.filter selects).filter (c.hasMethod ·.name) = c.methods.filter selects := by
  rw [List.filter_comm, h.filter_methods]

theorem names_eq : ClassNames.ofModel c₂ = ClassNames.ofModel c := by
  rw [h.rest]
  rfl

theorem proxiedConstructors_eq (config : Config) :
    config.proxiedConstructors c₂ = config.proxiedConstructors c := by
  rw [h.rest]
  rfl

theorem proxyConstructors_eq {config : Config} {names : ClassNames} {p p₂ : Proxy}
    (hp : Proxy.ofModel config names c = .ok p) (hp₂ : Proxy.ofModel config names c₂ = .ok p₂) :
    p.constructors = p₂.constructors := by
  obtain ⟨rs, _, hmade, hviews, -⟩ := Proxy.collected_of_ofModel hp
  obtain ⟨rs₂, _, hmade₂, hviews₂, -⟩ := Proxy.collected_of_ofModel hp₂
  have hresolved := hmade₂.resolvedConstructors
  rw [h.proxiedConstructors_eq, hmade.resolvedConstructors] at hresolved
  rw [← Except.ok.inj hresolved, hviews] at hviews₂
  exact Except.ok.inj hviews₂

theorem proxyMethods_eq {config : Config} {names : ClassNames} {p p₂ : Proxy}
    (hp : Proxy.ofModel config names c = .ok p) (hp₂ : Proxy.ofModel config names c₂ = .ok p₂) :
    p.methods = p₂.methods.filter (c.hasMethod ·.name) := by
  obtain ⟨_, rs, hmade, -, hviews⟩ := Proxy.collected_of_ofModel hp
  obtain ⟨_, rs₂, hmade₂, -, hviews₂⟩ := Proxy.collected_of_ofModel hp₂
  have hresolved := resolveMethods_filter c.hasMethod hmade₂.resolvedMethods
  rw [Config.proxiedMethods, h.filter_selected] at hresolved
  have hrs : rs = rs₂.filter (c.hasMethod ·.member.name) :=
    Except.ok.inj (hmade.resolvedMethods.symm.trans hresolved)
  have hkept : (rs₂.filter (c.hasMethod ·.member.name)).mapM (ProxyMethod.ofResolved names)
      = .ok (p₂.methods.filter (c.hasMethod ·.name)) := by
    refine mapM_filter hviews₂ (fun r v hv => ?_) fun _ _ => rfl
    rw [(ProxyMethod.isMadeFrom_of_ofResolved hv).name]
  rw [hrs, hkept] at hviews
  exact (Except.ok.inj hviews).symm

theorem nativeFunctions_eq {config : Config} {names : ClassNames} {g g₂ : Glue}
    (hg : Glue.ofModel config names c = .ok g) (hg₂ : Glue.ofModel config names c₂ = .ok g₂) :
    g.functions = g₂.functions.filter (c.hasMethod ·.name) := by
  have hnative : (Glue.nativeMethods c₂).filter (c.hasMethod ·.name) = Glue.nativeMethods c :=
    h.filter_selected Method.isNative
  have hnames : (Glue.nativeMethods c).map Method.name
      = ((Glue.nativeMethods c₂).map Method.name).filter c.hasMethod := by
    rw [List.filter_map, ← hnative]
    rfl
  have hkept : (Glue.nativeMethods c).mapM (fun m => NativeFunction.ofMethod names m
      (1 < occurrences m.name ((Glue.nativeMethods c).map Method.name)))
      = .ok (g₂.functions.filter (c.hasMethod ·.name)) := by
    rw [hnames, ← hnative]
    refine mapM_filter (Glue.functions_of_ofModel hg₂) (fun m f hf => ?_) fun m hm => ?_
    · rw [(NativeFunction.isMadeFrom_of_ofMethod hf).name]
    · rw [occurrences_filter hm]
  exact Except.ok.inj ((Glue.functions_of_ofModel hg).symm.trans hkept)

/-- Adding methods of other names changes no name of the class, no constructor of its proxy, and no
function, slot, descriptor or symbol of a method that was there before: what stands for these
methods is the same, in the same order, as what stands for them among all methods. -/
theorem keeps_functions (config : Config) (names : ClassNames) :
    c₂.methods.filter (c.hasMethod ·.name) = c.methods
    ∧ ClassNames.ofModel c₂ = ClassNames.ofModel c
    ∧ (∀ p p₂, Proxy.ofModel config names c = .ok p → Proxy.ofModel config names c₂ = .ok p₂ →
      p.constructors = p₂.constructors
        ∧ p₂.methods.map ProxyMethod.name = (config.proxiedMethods c₂).map Method.name
        ∧ p.methods = p₂.methods.filter (c.hasMethod ·.name))
    ∧ ∀ g g₂, Glue.ofModel config names c = .ok g → Glue.ofModel config names c₂ = .ok g₂ →
      g₂.functions.map NativeFunction.name = (Glue.nativeMethods c₂).map Method.name
        ∧ g.functions = g₂.functions.filter (c.hasMethod ·.name) := by
  refine ⟨h.filter_methods, h.names_eq,
    fun p p₂ hp hp₂ => ⟨h.proxyConstructors_eq hp hp₂, ?_, h.proxyMethods_eq hp hp₂⟩,
    fun g g₂ hg hg₂ => ⟨?_, h.nativeFunctions_eq hg hg₂⟩⟩
  · obtain ⟨_, methods, hmade⟩ := Proxy.isMadeFrom_of_ofModel hp₂
    rw [← map_member_resolveMethods hmade.resolvedMethods, List.map_map, eq_comm]
    exact map_eq_map_of_forall₂ hmade.methods fun r v hv => hv.name.symm
  · exact (map_eq_map_of_forall₂ (Glue.forall₂_functions hg₂) fun m f hf => hf.name.symm).symm

end GainsMethods

/-- A class with an overloaded native method. -/
def namesakes : ClassModel :=
  (((ClassModel.ofName "a.B").withConstructor [] (.ofList [.isPublic])).withMethod "f" .void []
    (.ofList [.isPublic, .isNative])).withMethod "f" .void [⟨"x", .primitive .int⟩]
    (.ofList [.isPublic, .isNative])

/-- The class with another method between those. -/
def namesakesApart : ClassModel :=
  ((((ClassModel.ofName "a.B").withConstructor [] (.ofList [.isPublic])).withMethod "f" .void []
    (.ofList [.isPublic, .isNative])).withMethod "f_1" .void []
    (.ofList [.isPublic, .isNative])).withMethod "f" .void [⟨"x", .primitive .int⟩]
    (.ofList [.isPublic, .isNative])

theorem keeps_functions_namesakes :
    namesakes.GainsMethods namesakesApart
    ∧ ∃ names p p₂ g g₂, ClassNames.ofModel namesakes = .ok names
      ∧ Proxy.ofModel {} names namesakes = .ok p ∧ Proxy.ofModel {} names namesakesApart = .ok p₂
      ∧ Glue.ofModel {} names namesakes = .ok g ∧ Glue.ofModel {} names namesakesApart = .ok g₂
      ∧ ClassNames.ofModel namesakesApart = .ok names ∧ p.constructors = p₂.constructors
      ∧ p₂.methods.map ProxyMethod.name = ["f", "f_1", "f"]
      ∧ p.methods = p₂.methods.filter (namesakes.hasMethod ·.name)
      ∧ g.functions = g₂.functions.filter (namesakes.hasMethod ·.name) := by
  have hgains : namesakes.GainsMethods namesakesApart :=
    ⟨.keep (.insert (by decide) (.keep .nil)), rfl⟩
  obtain ⟨names, hnames, hmade⟩ := ClassNames.exists_ofModel (c := namesakes) (by decide)
    (by decide) (by decide)
  have henclosing : names.enclosingInstance = none := hmade.enclosingInstance
  obtain ⟨⟨p, hp⟩, p₂, hp₂⟩ : (∃ p, Proxy.ofModel {} names namesakes = .ok p)
      ∧ ∃ p₂, Proxy.ofModel {} names namesakesApart = .ok p₂ := by
    cases names
    subst henclosing
    exact ⟨⟨_, rfl⟩, _, rfl⟩
  obtain ⟨g, hg⟩ : ∃ g, Glue.ofModel {} names namesakes = .ok g := ⟨_, rfl⟩
  obtain ⟨g₂, hg₂⟩ : ∃ g₂, Glue.ofModel {} names namesakesApart = .ok g₂ := ⟨_, rfl⟩
  obtain ⟨-, hkeepsNames, hproxy, hglue⟩ := hgains.keeps_functions {} names
  obtain ⟨hconstructors, hmethodNames, hmethods⟩ := hproxy p p₂ hp hp₂
  refine ⟨hgains, names, p, p₂, g, g₂, hnames, hp, hp₂, hg, hg₂, hkeepsNames.trans hnames,
    hconstructors, hmethodNames, hmethods, (hglue g g₂ hg hg₂).2⟩

end ClassModel

end JniBindings
