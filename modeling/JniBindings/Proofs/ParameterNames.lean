import JniBindings.Proofs.Glue.Binding
import JniBindings.Proofs.Namespace
import JniBindings.Proofs.Proxy.Members
import JniBindings.Proxy.Printer
/-!
# Names of parameters

The name of a parameter is made without a look at the others: it becomes an identifier, and if that
is reserved or stands for something that generated functions declare themselves, an underscore goes
behind it. Such a name never ends in an underscore itself, so one is enough
(`NativeParameter.isTaken_nameAt`), and two parameters get the same name just if they have the same
identifier, or one of them has the identifier of the other with the underscore that this one gets
(`NativeParameter.nameAt_eq_nameAt_iff`). Where neither is the case (`Method.ParametersApart`), as
with words that do not end in an underscore (`Method.parametersApart_of_isWord`), every function for
the method declares each name once (`NativeParameter.named_apart`).
-/

namespace JniBindings

/-- The name of a parameter as an identifier. -/
def Parameter.identifier (p : Parameter) : String := JniBindings.identifier (Text.trim p.name)

namespace NativeParameter

/-! ### Names that are taken -/

/-- No parameter may have the name: it is reserved, or generated functions declare it themselves. -/
def isTaken (name : String) : Bool := isReserved name || generatedNames.contains name

theorem isTaken_iff {name : String} :
    isTaken name ↔ name ∈ keywords ++ proxyNames ++ generatedNames := by
  simp [isTaken, isReserved, or_assoc]

theorem isTaken_eq_false_iff {name : String} :
    isTaken name = false ↔ isReserved name = false ∧ name ∉ generatedNames := by
  simp [isTaken]

theorem getLast?_ne_of_isTaken {name : String} (h : isTaken name) :
    name.toList.getLast? ≠ some '_' := by
  have hall : ∀ w ∈ keywords ++ proxyNames ++ generatedNames, w.toList.getLast? ≠ some '_' := by
    decide +kernel
  exact hall name (isTaken_iff.1 h)

theorem isTaken_append_underscore (name : String) : isTaken (name ++ "_") = false := by
  rw [← Bool.not_eq_true]
  intro h
  refine getLast?_ne_of_isTaken h ?_
  simp

theorem ne_append_of_isTaken {v : String} (h : isTaken v) (w : String) : v ≠ w ++ "_" := by
  rintro rfl
  rw [isTaken_append_underscore] at h
  cases h

/-! ### The name at a position -/

/-- The name at a position before it is looked up among those that are taken. -/
def baseAt (name : String) (position : Nat) : String :=
  if (Text.trim name).isEmpty then "arg" ++ toString position
  else identifier (Text.trim name)

theorem nameAt_eq (name : String) (i : Nat) :
    nameAt name i = if isTaken (baseAt name i) then baseAt name i ++ "_" else baseAt name i :=
  rfl

theorem baseAt_of_ne {p : Parameter} (h : Text.trim p.name ≠ "") (i : Nat) :
    baseAt p.name i = p.identifier := by
  rw [baseAt, if_neg (by simpa using h)]
  rfl

/-- One underscore is enough to make a name free. -/
theorem isTaken_nameAt (name : String) (i : Nat) : isTaken (nameAt name i) = false := by
  rw [nameAt_eq]
  split
  · exact isTaken_append_underscore _
  · next h => exact eq_false_of_ne_true h

/-- Two parameters with the same name have the same identifier, or one has the identifier that the
other gets for its own. -/
theorem nameAt_eq_nameAt_iff {p q : Parameter} (hp : Text.trim p.name ≠ "")
    (hq : Text.trim q.name ≠ "") (i j : Nat) :
    nameAt p.name i = nameAt q.name j ↔ p.identifier = q.identifier
      ∨ (isTaken p.identifier ∧ q.identifier = p.identifier ++ "_")
      ∨ (isTaken q.identifier ∧ p.identifier = q.identifier ++ "_") := by
  rw [nameAt_eq, nameAt_eq, baseAt_of_ne hp, baseAt_of_ne hq]
  generalize p.identifier = v
  generalize q.identifier = w
  by_cases hv : isTaken v <;> by_cases hw : isTaken w
  · simp [hv, hw, ne_append_of_isTaken hv, ne_append_of_isTaken hw]
  · have hne : v ≠ w := by
      rintro rfl
      exact hw hv
    simp [hv, hw, hne, eq_comm]
  · have hne : v ≠ w := by
      rintro rfl
      exact hv hw
    simp [hv, hw, hne]
  · simp [hv, hw]

theorem names_ofMethod {m : Method} {ps : List NativeParameter} (h : ofMethod m = .ok ps) :
    ps.map name = m.parameters.zipIdx.map fun p => nameAt p.1.name p.2 :=
  (map_eq_map_of_forall₂ (forall₂_ofMethod h) fun _ _ hq =>
    (ofParameter_eq_ok_iff.1 hq).1.symm).symm

theorem isTaken_of_ofMethod {m : Method} {ps : List NativeParameter} (h : ofMethod m = .ok ps) :
    ∀ p ∈ ps, isTaken p.name = false := by
  intro p hp
  have hname : p.name ∈ ps.map name := List.mem_map_of_mem hp
  rw [names_ofMethod h, List.mem_map] at hname
  obtain ⟨q, -, hq⟩ := hname
  rw [← hq]
  exact isTaken_nameAt _ _

end NativeParameter

/-! ### Parameters of a method -/

/-- What keeps the names of a method's parameters apart: none is blank, their identifiers differ,
and where one of these is taken, no other one is the same with an underscore behind it. -/
structure Method.ParametersApart (m : Method) : Prop where
  named : ∀ p ∈ m.parameters, Text.trim p.name ≠ ""
  different : (m.parameters.map Parameter.identifier).Nodup
  unhidden : ∀ p ∈ m.parameters, ∀ q ∈ m.parameters, NativeParameter.isTaken p.identifier →
    q.identifier ≠ p.identifier ++ "_"

instance (m : Method) : Decidable m.ParametersApart :=
  decidable_of_iff
    ((∀ p ∈ m.parameters, Text.trim p.name ≠ "")
      ∧ (m.parameters.map Parameter.identifier).Nodup
      ∧ ∀ p ∈ m.parameters, ∀ q ∈ m.parameters, NativeParameter.isTaken p.identifier →
        q.identifier ≠ p.identifier ++ "_")
    ⟨fun ⟨h, h', h''⟩ => ⟨h, h', h''⟩, fun ⟨h, h', h''⟩ => ⟨h, h', h''⟩⟩

theorem Method.ParametersApart.nodup_names {m : Method} (h : m.ParametersApart)
    {ps : List NativeParameter} (hps : NativeParameter.ofMethod m = .ok ps) :
    (ps.map NativeParameter.name).Nodup := by
  have hdifferent := h.different
  rw [List.nodup_iff_pairwise_ne, List.pairwise_map, List.pairwise_iff_getElem] at hdifferent
  rw [NativeParameter.names_ofMethod hps, List.nodup_iff_pairwise_ne, List.pairwise_map,
    List.pairwise_iff_getElem]
  intro i j hi hj hij heq
  rw [List.length_zipIdx] at hi hj
  rw [List.getElem_zipIdx, List.getElem_zipIdx] at heq
  have hmi := List.getElem_mem hi
  have hmj := List.getElem_mem hj
  rcases (NativeParameter.nameAt_eq_nameAt_iff (h.named _ hmi) (h.named _ hmj) _ _).1 heq with
    hsame | ⟨htaken, hhidden⟩ | ⟨htaken, hhidden⟩
  · exact hdifferent i j hi hj hij hsame
  · exact h.unhidden _ hmi _ hmj htaken hhidden
  · exact h.unhidden _ hmj _ hmi htaken hhidden

/-! ### Parameters that functions declare -/

/-- All parameters that the function for a native method declares: the environment, the class or the
instance, and those of the method. -/
def Prototype.declaredParameters (p : Prototype) : List FunctionParameter :=
  [⟨.environment, "env"⟩,
    if p.isStatic then ⟨.passed (.plain .classObject), "clazz"⟩
    else ⟨.passed (.plain .object), "thiz"⟩]
    ++ p.parameters.map fun q => ⟨.passed (q.passedType .raw), q.name⟩

/-- Parameters as they are declared between the brackets of a function. -/
def declarationList (ps : List FunctionParameter) : String :=
  Text.joinWith ", " (ps.map fun p => p.type.text ++ " " ++ p.name)

/-- The parameters are declared between the brackets of the prototype, and nothing else is. -/
theorem Prototype.text_eq_declarationList (p : Prototype) :
    p.text = p.result.name ++ " JNICALL " ++ p.symbol ++ "("
      ++ declarationList p.declaredParameters ++ ")" := by
  change _ = _ ++ Text.joinWith ", " (p.declaredParameters.map FunctionParameter.text) ++ ")"
  have hmethod : (p.parameters.map fun q => FunctionParameter.mk (.passed (q.passedType .raw))
      q.name).map (", " ++ FunctionParameter.text ·)
      = p.parameters.map fun q => ", " ++ (q.native.name ++ " " ++ q.name) :=
    List.map_map
  have hreceiver : FunctionParameter.text
      (if p.isStatic then ⟨.passed (.plain .classObject), "clazz"⟩
        else ⟨.passed (.plain .object), "thiz"⟩)
      = if p.isStatic then "jclass clazz" else "jobject thiz" := by
    split <;> decide
  rw [text_eq, ← hmethod, ← hreceiver, declaredParameters, List.cons_append, List.cons_append,
    List.nil_append, List.map_cons, Text.joinWith_cons_eq_concat, List.map_map, List.map_cons]
  have henvironment : FunctionParameter.text ⟨.environment, "env"⟩ = "JNIEnv* env" := by decide
  rw [← String.toList_inj]
  simp [Text.concat, henvironment, Function.comp_def]

/-- Each parameter is declared under a name of its own. -/
def DeclaresApart (ps : List FunctionParameter) : Prop := (ps.map FunctionParameter.name).Nodup

/-- The prototype declares its parameters, and nothing else, between its brackets, each under a name
of its own. -/
structure Prototype.NamesApart (p : Prototype) : Prop where
  written : p.text = p.result.name ++ " JNICALL " ++ p.symbol ++ "("
    ++ declarationList p.declaredParameters ++ ")"
  apart : DeclaresApart p.declaredParameters

/-- The first line of a function of a proxy declares its parameters, and nothing else, between its
brackets, each under a name of its own. -/
structure Forwarding.NamesApart (style : Style) (f : Forwarding) : Prop where
  written : f.head style = "    " ++ (if f.isStatic || style = .raw then "static " else "")
    ++ f.resultText ++ " " ++ f.name ++ "("
    ++ declarationList (Proxy.declaredParameters style f) ++ ")"
    ++ (if style = .helper && !f.isStatic then " const" else "") ++ " \x7b\n"
  apart : DeclaresApart (Proxy.declaredParameters style f)

namespace Method.ParametersApart

variable {m : Method} (h : m.ParametersApart)
include h

/-- The parameters of a method may stand behind parameters that a function declares itself. -/
theorem declaresApart {ps : List NativeParameter} (hps : NativeParameter.ofMethod m = .ok ps)
    {declared : List FunctionParameter} (leading : List String)
    (hdeclared : declared.map FunctionParameter.name = leading ++ ps.map NativeParameter.name)
    (hleading : leading.Nodup) (hgenerated : leading ⊆ NativeParameter.generatedNames) :
    DeclaresApart declared := by
  rw [DeclaresApart, hdeclared]
  refine List.nodup_append'.2 ⟨hleading, h.nodup_names hps, fun name hl hp => ?_⟩
  obtain ⟨p, hmem, rfl⟩ := List.mem_map.1 hp
  have hfree := NativeParameter.isTaken_of_ofMethod hps p hmem
  exact (NativeParameter.isTaken_eq_false_iff.1 hfree).2 (hgenerated hl)

theorem namesApart_prototype {names : ClassNames} {overloaded : Bool} {f : NativeFunction}
    (hf : NativeFunction.ofMethod names m overloaded = .ok f) : f.prototype.NamesApart := by
  have hmade := NativeFunction.isMadeFrom_of_ofMethod hf
  refine ⟨f.prototype.text_eq_declarationList, ?_⟩
  refine h.declaresApart hmade.parameters
    ["env", if f.isStatic then "clazz" else "thiz"] ?_ ?_ ?_
  · rw [Prototype.declaredParameters, List.map_append, List.map_map]
    cases hstatic : f.isStatic <;> simp [NativeFunction.prototype, hstatic, Function.comp_def]
  · cases f.isStatic <;> decide
  · cases f.isStatic <;> decide

theorem namesApart_constructor (style : Style) {names : ClassNames} {r : Resolved Method}
    (hr : r.member = m) {v : ProxyConstructor} (hv : ProxyConstructor.ofResolved names r = .ok v) :
    (Proxy.constructorForwarding style names v).NamesApart style := by
  have hmade := ProxyConstructor.isMadeFrom_of_ofResolved hv
  rw [← hr] at h
  refine ⟨rfl, ?_⟩
  refine h.declaresApart hmade.parameters
    ((Proxy.implicitParameters style true).map FunctionParameter.name
      ++ (Proxy.enclosingParameters names).map NativeParameter.name) ?_ ?_ ?_
  · simp [Proxy.declaredParameters, Proxy.constructorForwarding, Function.comp_def]
  · rw [Proxy.enclosingParameters]
    cases style <;> cases names.isInner <;> decide
  · rw [Proxy.enclosingParameters]
    cases style <;> cases names.isInner <;> decide

theorem namesApart_method (style : Style) {names : ClassNames} {r : Resolved Method}
    (hr : r.member = m) {v : ProxyMethod} (hv : ProxyMethod.ofResolved names r = .ok v) :
    (Proxy.methodForwarding style v).NamesApart style := by
  have hmade := ProxyMethod.isMadeFrom_of_ofResolved hv
  rw [← hr] at h
  refine ⟨rfl, ?_⟩
  refine h.declaresApart hmade.parameters
    ((Proxy.implicitParameters style v.isStatic).map FunctionParameter.name) ?_ ?_ ?_
  · simp [Proxy.declaredParameters, Proxy.methodForwarding, Function.comp_def]
  · cases style <;> cases v.isStatic <;> decide
  · cases style <;> cases v.isStatic <;> decide

end Method.ParametersApart

theorem Parameter.identifier_of_isWord (p : Parameter) (h : IsWord p.name) :
    p.identifier = p.name := by
  rw [identifier, Text.trim, Namespace.trimList_of_isWord h, String.ofList_toList]
  exact JniBindings.identifier_of_isWord h

/-- Names of letters, digits and underscores are kept apart if they differ and none ends in an
underscore. -/
theorem Method.parametersApart_of_isWord {m : Method}
    (hwords : ∀ p ∈ m.parameters, IsWord p.name)
    (hdifferent : (m.parameters.map Parameter.name).Nodup)
    (hends : ∀ p ∈ m.parameters, p.name.toList.getLast? ≠ some '_') : m.ParametersApart where
  named p hp := by
    rw [Text.trim, Namespace.trimList_of_isWord (hwords p hp), String.ofList_toList]
    intro hempty
    exact (hwords p hp).1 (by rw [hempty]; rfl)
  different := by
    have hsame : m.parameters.map Parameter.identifier = m.parameters.map Parameter.name :=
      List.map_congr_left fun p hp => p.identifier_of_isWord (hwords p hp)
    rwa [hsame]
  unhidden p _ q hq _ heq := by
    rw [q.identifier_of_isWord (hwords q hq)] at heq
    refine hends q hq ?_
    rw [heq]
    simp

namespace NativeParameter

/-- The parameters of a method get names that are neither reserved nor those of anything that
generated functions declare themselves. If nothing keeps them from being apart, the names differ,
and every function that is made for the method, in glue or in a proxy and in either style, declares
each of its parameters under a name of its own. -/
theorem named_apart {m : Method} {ps : List NativeParameter} (h : ofMethod m = .ok ps) :
    (∀ p ∈ ps, isReserved p.name = false ∧ p.name ∉ generatedNames)
      ∧ (m.ParametersApart → (ps.map name).Nodup
        ∧ (∀ names overloaded f, NativeFunction.ofMethod names m overloaded = .ok f →
          f.prototype.NamesApart)
        ∧ (∀ style names r v, r.member = m → ProxyConstructor.ofResolved names r = .ok v →
          (Proxy.constructorForwarding style names v).NamesApart style)
        ∧ ∀ style names r v, r.member = m → ProxyMethod.ofResolved names r = .ok v →
          (Proxy.methodForwarding style v).NamesApart style) := by
  refine ⟨fun p hp => isTaken_eq_false_iff.1 (isTaken_of_ofMethod h p hp), fun hm => ?_⟩
  refine ⟨hm.nodup_names h, ?_, ?_, ?_⟩
  · intro names overloaded f hf
    exact hm.namesApart_prototype hf
  · intro style names r v hr hv
    exact hm.namesApart_constructor style hr hv
  · intro style names r v hr hv
    exact hm.namesApart_method style hr hv

/-- A method with given names for parameters. -/
def methodWithNames (names : List String) : Method :=
  { declaringClass := "a.B", name := "f", result := .void
    parameters := names.map fun name => ⟨name, .string⟩
    modifiers := .ofList [.isPublic, .isNative] }

/-- A method some of whose parameters have names that are taken or are no identifiers of C++. -/
def renamedMethod : Method := methodWithNames ["delete", "env_", "clazz", "a$b", "a_b", "größe"]

theorem named_apart_renamedMethod :
    ∃ ps names f v, ofMethod renamedMethod = .ok ps
      ∧ ClassNames.ofModel (.ofName "a.B") = .ok names
      ∧ NativeFunction.ofMethod names renamedMethod false = .ok f
      ∧ ProxyMethod.ofResolved names ⟨renamedMethod, 0, none⟩ = .ok v
      ∧ renamedMethod.ParametersApart
      ∧ ps.map name = ["delete_", "env_", "clazz_", "a_00024b", "a_b", "gr_000f6_000dfe"]
      ∧ (∀ p ∈ ps, isReserved p.name = false ∧ p.name ∉ generatedNames)
      ∧ (ps.map name).Nodup
      ∧ f.prototype.NamesApart ∧ (Proxy.methodForwarding .raw v).NamesApart .raw := by
  have hapart : renamedMethod.ParametersApart := by decide +kernel
  obtain ⟨ps, hps⟩ : ∃ ps, ofMethod renamedMethod = .ok ps := ⟨_, rfl⟩
  obtain ⟨names, hnames⟩ : ∃ names, ClassNames.ofModel (.ofName "a.B") = .ok names := ⟨_, rfl⟩
  obtain ⟨f, hf⟩ : ∃ f, NativeFunction.ofMethod names renamedMethod false = .ok f := ⟨_, rfl⟩
  obtain ⟨v, hv⟩ : ∃ v, ProxyMethod.ofResolved names ⟨renamedMethod, 0, none⟩ = .ok v := ⟨_, rfl⟩
  obtain ⟨hfree, hmethod⟩ := named_apart hps
  obtain ⟨hnodup, hglue, -, hproxy⟩ := hmethod hapart
  refine ⟨ps, names, f, v, hps, hnames, hf, hv, hapart, ?_, hfree, hnodup, hglue _ _ _ hf,
    hproxy .raw _ _ _ rfl hv⟩
  rw [names_ofMethod hps]
  decide +kernel

/-- Names that differ and are all identifiers of Java can still get the same name: where one is
taken and another one is the same with an underscore behind it, and where one is the other with a
character replaced by its code point. -/
theorem clashing_names :
    (∃ ps, ofMethod (methodWithNames ["delete", "delete_"]) = .ok ps
      ∧ ps.map name = ["delete_", "delete_"] ∧ ¬ (ps.map name).Nodup)
      ∧ ∃ ps, ofMethod (methodWithNames ["a$", "a_00024"]) = .ok ps
        ∧ ps.map name = ["a_00024", "a_00024"] ∧ ¬ (ps.map name).Nodup :=
  ⟨⟨_, rfl, by decide +kernel⟩, _, rfl, by decide +kernel⟩

end NativeParameter

end JniBindings
