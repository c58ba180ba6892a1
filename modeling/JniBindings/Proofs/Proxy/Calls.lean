import JniBindings.Proofs.ClassNames
import JniBindings.Proofs.Proxy.Members
import JniBindings.Proofs.Text.Joined
import JniBindings.Proxy.Initialization
import JniBindings.Proxy.Printer
/-!
# What the functions of a proxy pass on

A call through the native interface takes its arguments as they come, and trusts the descriptor with
which its id was looked up. So what a function declares, what it passes on, the interface function
that it calls and what it does with the value have to agree with that descriptor
(`Proxy.calls_agree`).
-/

namespace JniBindings

/-! ### Arguments and values -/

/-- How a parameter of a C++ type is passed on: what is wrapped is unwrapped. -/
def PassedType.expression (name : String) : PassedType → String
  | plain _ => name
  | wrapped _ => name ++ ".get()"

theorem NativeParameter.argument_eq (p : NativeParameter) (style : Style) :
    p.argument style = (p.passedType style).expression p.name := by
  unfold argument passedType
  split <;> rfl

/-- Parameters have given types, in their order, and the native types of these. -/
structure NativeParameter.HaveTypes (ts : List JavaType) (ps : List NativeParameter) : Prop where
  types : ps.map NativeParameter.type = ts
  natives : ts.mapM JavaType.native = .ok (ps.map NativeParameter.native)

theorem NativeParameter.haveTypes_ofMethod {m : Method} {ps : List NativeParameter}
    (h : ofMethod m = .ok ps) : HaveTypes m.parameterTypes ps :=
  ⟨types_ofMethod h, natives_ofMethod h⟩

/-- A parameter as it is declared: a reference is wrapped in helper style. -/
theorem FunctionParameter.text_passed (p : NativeParameter) (style : Style) :
    FunctionParameter.text ⟨.passed (p.passedType style), p.name⟩
      = (if style = .helper ∧ ¬ p.type.isPrimitive then
        "const " ++ ("::jnicpp::LocalRef<" ++ p.native.name ++ ">") ++ "&" else p.native.name)
        ++ " " ++ p.name := by
  have hobject : (style = .helper && p.isObject) = true ↔
      style = .helper ∧ ¬ p.type.isPrimitive := by
    simp [NativeParameter.isObject]
  simp only [NativeParameter.passedType, hobject]
  split <;> rfl

/-- The parameters in front of those of the Java member, as they are written. -/
def Style.implicitDeclarations : Style → Bool → List String
  | helper, _ => []
  | raw, true => ["JNIEnv* env"]
  | raw, false => ["JNIEnv* env", "jobject thiz"]

theorem Proxy.map_text_implicitParameters (style : Style) (isStatic : Bool) :
    (Proxy.implicitParameters style isStatic).map FunctionParameter.text
      = style.implicitDeclarations isStatic := by
  cases style <;> cases isStatic <;> decide

namespace Forwarding

/-- After the parameters that every function has, a function declares those that it passes on, in
the same order, and nothing else is written between the brackets of its call. This call, on the
class or on the instance, is what the function ends with. -/
structure PassesOn (style : Style) (f : Forwarding) : Prop where
  declared : Proxy.declaredParameters style f = Proxy.implicitParameters style f.isStatic
    ++ f.call.arguments.map fun p => ⟨.passed (p.passedType style), p.name⟩
  written : f.call.text style = "env->" ++ f.call.function ++ "(" ++ f.call.receiver.text
    ++ ", getClassInitState()." ++ f.call.slot
    ++ Text.concat (f.call.arguments.map fun p =>
      ", " ++ (p.passedType style).expression p.name) ++ ")"
  receiver : f.call.receiver.text = if f.isStatic then "getClassInitState().sClazz"
    else if style = .helper then "getThis()" else "thiz"
  head : f.head style = "    " ++ (if f.isStatic ∨ style = .raw then "static " else "")
    ++ f.resultText ++ " " ++ f.name ++ "("
    ++ Text.joinWith ", " (style.implicitDeclarations f.isStatic ++ f.call.arguments.map fun p =>
      (if style = .helper ∧ ¬ p.type.isPrimitive then
        "const " ++ ("::jnicpp::LocalRef<" ++ p.native.name ++ ">") ++ "&" else p.native.name)
        ++ " " ++ p.name)
    ++ ")" ++ (if style = .helper ∧ ¬ f.isStatic then " const" else "") ++ " \x7b\n"
  text : f.text style = "    // " ++ f.signature ++ "\n" ++ f.head style
    ++ (if style = .helper then "        ::jnicpp::Env env;\n        assertInited(env.get());\n"
      else "        assertInited(env);\n")
    ++ f.returned.text (f.call.text style) ++ "    \x7d\n\n"

/-- A function that declares what its call passes on, and calls on what it is a function of. -/
theorem passesOn_of_eq {f : Forwarding} {style : Style} (h : f.parameters = f.call.arguments)
    (hreceiver : f.call.receiver = Proxy.receiver style f.isStatic) : f.PassesOn style where
  declared := by rw [Proxy.declaredParameters, h]
  written := by
    rw [InterfaceCall.text, NativeParameter.arguments]
    simp only [NativeParameter.argument_eq]
  receiver := by
    rw [hreceiver]
    cases style <;> cases f.isStatic <;> rfl
  head := by
    unfold head
    rw [Proxy.declaredParameters, h, List.map_append, Proxy.map_text_implicitParameters,
      List.map_map]
    simp only [Function.comp_def, FunctionParameter.text_passed, Bool.or_eq_true, Bool.and_eq_true,
      decide_eq_true_eq, Bool.not_eq_true', Bool.not_eq_true]
  text := by
    cases style <;> rfl

/-- A function calls on behalf of a member, of which the lookup is given: with its id, and on the
class if the member is static. -/
structure CallsMember (id : Lookup) (f : Forwarding) : Prop where
  slot : f.call.slot = id.slot
  isStatic : f.isStatic = id.isStatic
  receiver : f.call.receiver = .heldClass ↔ id.isStatic

/-- A function returns a value of a type. The value is cast if it is a reference, but not a bare
object, and wrapped in helper style if it is a reference. -/
structure Yields (style : Style) (t : JavaType) (n : NativeType) (f : Forwarding) : Prop where
  native : t.native = .ok n
  needsCast : needsCast n.name ↔ ¬ t.isPrimitive ∧ n ≠ .object
  resultText : f.resultText
    = if style = .helper ∧ ¬ t.isPrimitive then wrapper n.name else n.name
  returned : f.returned = if t = .void then .nothing
    else .value (if ¬ t.isPrimitive ∧ n ≠ .object then some n else none)
      (if style = .helper ∧ ¬ t.isPrimitive then [wrapper n.name] else [])
  written : ∀ call, f.returned.text call = if t = .void then "        " ++ call ++ ";\n"
    else
      let value := if ¬ t.isPrimitive ∧ n ≠ .object then
        "reinterpret_cast<" ++ n.name ++ ">(" ++ call ++ ")" else call
      "        return " ++ (if style = .helper ∧ ¬ t.isPrimitive then
        "::jnicpp::LocalRef<" ++ n.name ++ ">" ++ "(" ++ value ++ ")" else value) ++ ";\n"

end Forwarding

namespace Proxy

theorem receiver_eq_heldClass_iff (style : Style) (isStatic : Bool) :
    receiver style isStatic = .heldClass ↔ isStatic := by
  cases style <;> cases isStatic <;> decide

theorem resultText_eq (style : Style) (t : JavaType) (n : NativeType) :
    resultText style t n
      = if style = .helper ∧ ¬ t.isPrimitive then wrapper n.name else n.name := by
  simp [resultText]

theorem returned_eq {t : JavaType} {n : NativeType} (h : t.native = .ok n) (style : Style) :
    returned style t n = if t = .void then .nothing
      else .value (if ¬ t.isPrimitive ∧ n ≠ .object then some n else none)
        (if style = .helper ∧ ¬ t.isPrimitive then [wrapper n.name] else []) := by
  have hvoid : n = .scalar .void ↔ t = .void := JavaType.native_eq_scalar_iff h .void
  simp only [returned, hvoid, JavaType.needsCast_iff h, Bool.and_eq_true, decide_eq_true_eq,
    Bool.not_eq_true', Bool.not_eq_true]

/-- A function that is made for a type returns a value of this type. -/
theorem yields_of_native {t : JavaType} {n : NativeType} (h : t.native = .ok n) {style : Style}
    {f : Forwarding} (htext : f.resultText = resultText style t n)
    (hreturned : f.returned = returned style t n) : f.Yields style t n where
  native := h
  needsCast := JavaType.needsCast_iff h
  resultText := htext.trans (resultText_eq style t n)
  returned := hreturned.trans (returned_eq h style)
  written call := by
    rw [hreturned, returned_eq h style]
    by_cases hvoid : t = .void
    · rw [if_pos hvoid, if_pos hvoid]
      rfl
    · rw [if_neg hvoid, if_neg hvoid]
      unfold Returned.text
      split_ifs <;> rfl

theorem passesOn_forwardings {p : Proxy} {f : Forwarding} (hf : f ∈ p.forwardings) :
    f.PassesOn p.config.style := by
  simp only [forwardings, List.mem_append, List.mem_map, List.mem_flatMap] at hf
  obtain (⟨m, -, rfl⟩ | ⟨m, -, rfl⟩) | ⟨v, -, hv⟩ := hf
  · exact Forwarding.passesOn_of_eq rfl rfl
  · exact Forwarding.passesOn_of_eq rfl rfl
  · simp only [fieldForwardings, List.mem_append, List.mem_map] at hv
    obtain ⟨name, -, rfl⟩ | ⟨name, -, rfl⟩ := hv
    · exact Forwarding.passesOn_of_eq rfl rfl
    · exact Forwarding.passesOn_of_eq rfl rfl

/-- The functions that forward to Java stand one after the other in the header. -/
theorem contains_forwardings (p : Proxy) :
    Contains (Text.concat (p.forwardings.map (·.text p.config.style))) p.header := by
  have hclass : Contains (Text.concat (p.forwardings.map (·.text p.config.style)))
      p.classText := by
    unfold classText
    iterate 6 apply Contains.before
    exact (Contains.refl _).after _
  unfold header
  exact ((hclass.after _).before _).before _

end Proxy

/-! ### Constructors -/

/-- The descriptor of a constructor is read as the enclosing instance of an inner class and the
parameters, and this is what its function passes on: one argument for each. -/
structure ProxyConstructor.Agrees (style : Style) (names : ClassNames) (m : Method)
    (v : ProxyConstructor) : Prop where
  descriptor : MethodType.ofDescriptor v.descriptor
    = .ok ⟨names.enclosingInstance.toList ++ m.parameterTypes, m.result⟩
  function : (Proxy.constructorForwarding style names v).call.function = "NewObject"
  slot : (Proxy.constructorForwarding style names v).call.slot = (Proxy.constructorLookup v).slot
  arguments : (Proxy.constructorForwarding style names v).call.arguments
    = Proxy.enclosingParameters names ++ v.parameters
  enclosing : (Proxy.enclosingParameters names).map (fun p => (p.name, p.native))
    = names.enclosingInstance.toList.map fun _ => ("enclosingClass", NativeType.object)
  parameters : NativeParameter.HaveTypes m.parameterTypes v.parameters
  result : (Proxy.constructorForwarding style names v).resultText
    = if style = .helper then names.proxy else "jobject"
  returned : ∀ call, (Proxy.constructorForwarding style names v).returned.text call
    = "        return " ++ (if style = .helper then
        names.proxy ++ "(" ++ ("::jnicpp::LocalRef<jobject>" ++ "(" ++ call ++ ")") ++ ")"
      else call) ++ ";\n"

theorem ProxyConstructor.IsMadeFrom.agrees {names : ClassNames} {r : Resolved Method}
    {v : ProxyConstructor} (h : v.IsMadeFrom names r) (hconstructor : r.member.isConstructor)
    (hm : ∀ t ∈ r.member.types, t.NamesHave JavaType.IsDescribed)
    (he : ∀ t ∈ names.enclosingInstance, t.NamesHave JavaType.IsDescribed) (style : Style) :
    v.Agrees style names r.member where
  descriptor := by
    rw [Method.ofDescriptor_descriptor h.descriptor hm he, Method.jvmType,
      Method.jvmParameters_of_isConstructor hconstructor]
  function := rfl
  slot := rfl
  arguments := rfl
  enclosing := by
    rw [Proxy.enclosingParameters, ClassNames.isInner]
    cases names.enclosingInstance <;> rfl
  parameters := NativeParameter.haveTypes_ofMethod h.parameters
  result := by cases style <;> rfl
  returned call := by
    have hwrapper : wrapper NativeType.object.name = "::jnicpp::LocalRef<jobject>" := by decide
    rw [← hwrapper]
    cases style <;> rfl

/-! ### Methods -/

/-- The descriptor of a method is read as its parameters and its result. These are what its function
passes on and returns, and the result selects the interface function. -/
structure ProxyMethod.Agrees (style : Style) (m : Method) (v : ProxyMethod) : Prop where
  descriptor : MethodType.ofDescriptor v.descriptor = .ok ⟨m.parameterTypes, m.result⟩
  function : (Proxy.methodForwarding style v).call.function
    = "Call" ++ (if m.isStatic then "Static" else "") ++ m.result.selector ++ "Method"
  member : (Proxy.methodForwarding style v).CallsMember (Proxy.methodLookup v)
  isStatic : (Proxy.methodLookup v).isStatic = m.isStatic
  parameters : NativeParameter.HaveTypes m.parameterTypes
    (Proxy.methodForwarding style v).call.arguments
  result : (Proxy.methodForwarding style v).Yields style m.result v.native

theorem ProxyMethod.IsMadeFrom.agrees {names : ClassNames} {r : Resolved Method}
    {v : ProxyMethod} (h : v.IsMadeFrom names r)
    (hm : ∀ t ∈ r.member.types, t.NamesHave JavaType.IsDescribed) (style : Style) :
    v.Agrees style r.member where
  descriptor := by
    rw [Method.ofDescriptor_descriptor h.descriptor hm nofun, Method.jvmType,
      Method.jvmParameters_none]
  function := by
    rw [← h.isStatic, ← h.result]
    rfl
  member := ⟨rfl, rfl, Proxy.receiver_eq_heldClass_iff style v.isStatic⟩
  isStatic := h.isStatic
  parameters := NativeParameter.haveTypes_ofMethod h.parameters
  result := by
    rw [← h.result]
    exact Proxy.yields_of_native (h.result ▸ h.native) rfl rfl

/-! ### Fields -/

/-- The descriptor of a field is read as its type. The getter takes nothing and returns a value of
this type, the setter takes such a value and returns nothing, and the type selects the interface
functions. -/
structure ProxyField.Agrees (style : Style) (f : Field) (v : ProxyField) : Prop where
  descriptor : JavaType.ofDescriptor v.descriptor = .ok f.type
  isStatic : (Proxy.fieldLookup v).isStatic = f.isStatic
  getter : ∀ name, (Proxy.getterForwarding style v name).call.function
      = "Get" ++ (if f.isStatic then "Static" else "") ++ f.type.selector ++ "Field"
    ∧ (Proxy.getterForwarding style v name).CallsMember (Proxy.fieldLookup v)
    ∧ NativeParameter.HaveTypes [] (Proxy.getterForwarding style v name).call.arguments
    ∧ (Proxy.getterForwarding style v name).Yields style f.type v.native
  setter : ∀ name, (Proxy.setterForwarding style v name).call.function
      = "Set" ++ (if f.isStatic then "Static" else "") ++ f.type.selector ++ "Field"
    ∧ (Proxy.setterForwarding style v name).CallsMember (Proxy.fieldLookup v)
    ∧ NativeParameter.HaveTypes [f.type] (Proxy.setterForwarding style v name).call.arguments
    ∧ (Proxy.setterForwarding style v name).resultText = "void"
    ∧ (Proxy.setterForwarding style v name).returned = .nothing
    ∧ ∀ call, (Proxy.setterForwarding style v name).returned.text call = "        " ++ call ++ ";\n"

theorem ProxyField.IsMadeFrom.agrees {accessors : Bool × Bool} {r : Resolved Field}
    {v : ProxyField} (h : v.IsMadeFrom accessors r)
    (hf : r.member.type.NamesHave JavaType.IsDescribed) (style : Style) :
    v.Agrees style r.member where
  descriptor := JavaType.ofDescriptor_of_descriptor h.descriptor hf
  isStatic := h.isStatic
  getter := by
    rw [← h.isStatic, ← h.type]
    refine fun name => ⟨rfl, ⟨rfl, rfl, Proxy.receiver_eq_heldClass_iff style v.isStatic⟩,
      ⟨rfl, rfl⟩, ?_⟩
    exact Proxy.yields_of_native (h.type ▸ h.native) rfl rfl
  setter := by
    rw [← h.isStatic, ← h.type]
    refine fun name => ⟨rfl, ⟨rfl, rfl, Proxy.receiver_eq_heldClass_iff style v.isStatic⟩,
      ⟨rfl, ?_⟩, rfl, rfl, fun call => rfl⟩
    rw [List.mapM_cons, h.type, h.native]
    rfl

namespace Proxy

/-- What is looked up, declared, passed on and returned agrees with the types of the members, in
their order: each descriptor is read as the types that its function takes and returns. A constructor
has the result that its declaration has. The functions stand in the header as they are listed. -/
theorem calls_agree {config : Config} {names : ClassNames} {c : ClassModel} {p : Proxy}
    (h : ofModel config names c = .ok p)
    (hconstructor : ∀ m ∈ c.constructors, m.isConstructor)
    (hconstructors : ∀ m ∈ c.constructors, ∀ t ∈ m.types, t.NamesHave JavaType.IsDescribed)
    (hmethods : ∀ m ∈ c.methods, ∀ t ∈ m.types, t.NamesHave JavaType.IsDescribed)
    (hfields : ∀ f ∈ c.fields, f.type.NamesHave JavaType.IsDescribed)
    (he : ∀ t ∈ names.enclosingInstance, t.NamesHave JavaType.IsDescribed) :
    List.Forall₂ (ProxyConstructor.Agrees config.style names) (config.proxiedConstructors c)
        p.constructors
      ∧ List.Forall₂ (ProxyMethod.Agrees config.style) (config.proxiedMethods c) p.methods
      ∧ List.Forall₂ (ProxyField.Agrees config.style) (config.proxiedFields c) p.fields
      ∧ (∀ f ∈ p.forwardings, f.PassesOn config.style)
      ∧ Contains (Text.concat (p.forwardings.map (·.text config.style))) p.header := by
  obtain ⟨constructors, methods, hp⟩ := isMadeFrom_of_ofModel h
  refine ⟨?_, ?_, ?_, fun f hf => hp.config ▸ passesOn_forwardings hf,
    hp.config ▸ p.contains_forwardings⟩
  · refine forall₂_of_map_member_eq (map_member_resolveMethods hp.resolvedConstructors)
      hp.constructors fun r v hr hv => ?_
    have hmem := Config.mem_of_mem_proxiedConstructors hr
    exact hv.agrees (hconstructor _ hmem) (hconstructors _ hmem) he _
  · refine forall₂_of_map_member_eq (map_member_resolveMethods hp.resolvedMethods)
      hp.methods fun r v hr hv => ?_
    exact hv.agrees (hmethods _ (Config.mem_of_mem_proxiedMethods hr)) _
  · refine forall₂_of_map_member_eq (map_member_resolveFields _) hp.fields fun r v hr hv => ?_
    exact hv.agrees (hfields _ (Config.mem_of_mem_proxiedFields hr)) _

/-- An inner class with a constructor, an overloaded method and a field, which takes arrays. -/
def innerClass : ClassModel :=
  ((((ClassModel.ofName "a.B$C").withEnclosingInstance (.declared "a.B")).withConstructor
    [⟨"x", .array (.declared "a.E")⟩] (.ofList [.isPublic])).withMethod "f" .string
    [⟨"x", .array (.array (.primitive .int))⟩] (.ofList [.isPublic, .isStatic])).withField
    { declaringClass := "a.B$C", name := "g", type := .array (.primitive .long),
      modifiers := .ofList [.isPublic] }

theorem calls_agree_innerClass :
    ∃ names p, ClassNames.ofModel innerClass = .ok names
      ∧ ofModel { useJniHelper := true } names innerClass = .ok p
      ∧ (∀ m ∈ innerClass.constructors, m.isConstructor)
      ∧ (∀ m ∈ innerClass.constructors, ∀ t ∈ m.types, t.NamesHave JavaType.IsDescribed)
      ∧ (∀ m ∈ innerClass.methods, ∀ t ∈ m.types, t.NamesHave JavaType.IsDescribed)
      ∧ (∀ f ∈ innerClass.fields, f.type.NamesHave JavaType.IsDescribed)
      ∧ (∀ t ∈ names.enclosingInstance, t.NamesHave JavaType.IsDescribed)
      ∧ (∀ f ∈ p.forwardings, f.PassesOn .helper)
      ∧ p.fields.length = 1
      ∧ ∃ v, p.constructors = [v]
        ∧ MethodType.ofDescriptor v.descriptor
          = .ok ⟨[.declared "a.B", .array (.declared "a.E")], .void⟩ := by
  obtain ⟨names, hnames, hmade⟩ := ClassNames.exists_ofModel (c := innerClass) (by decide)
    (by decide) (by decide)
  have henclosing : names.enclosingInstance = some (.declared "a.B") := hmade.enclosingInstance
  obtain ⟨p, hp⟩ : ∃ p, ofModel { useJniHelper := true } names innerClass = .ok p := by
    cases names
    subst henclosing
    exact ⟨_, rfl⟩
  have hE : JavaType.IsDescribed "a.E" := ⟨by simp, by simp, by simp⟩
  have hB : JavaType.IsDescribed "a.B" := ⟨by simp, by simp, by simp⟩
  have hstring : JavaType.IsDescribed "java.lang.String" := ⟨by simp, by simp, by simp⟩
  have hconstructor : ∀ m ∈ innerClass.constructors, m.isConstructor := by decide
  have hconstructors : ∀ m ∈ innerClass.constructors, ∀ t ∈ m.types,
      t.NamesHave JavaType.IsDescribed := by
    have hcs : innerClass.constructors = [_] := rfl
    simp [hcs, Method.types, Method.parameterTypes, Method.constructor, JavaType.NamesHave,
      JavaType.void, hE]
  have hmethods : ∀ m ∈ innerClass.methods, ∀ t ∈ m.types,
      t.NamesHave JavaType.IsDescribed := by
    have hms : innerClass.methods = [_] := rfl
    simp [hms, Method.types, Method.parameterTypes, JavaType.NamesHave, JavaType.string, hstring]
  have hfields : ∀ f ∈ innerClass.fields, f.type.NamesHave JavaType.IsDescribed := by
    have hfs : innerClass.fields = [_] := rfl
    simp [hfs, JavaType.NamesHave]
  have he : ∀ t ∈ names.enclosingInstance, t.NamesHave JavaType.IsDescribed := by
    simp [henclosing, JavaType.NamesHave, hB]
  obtain ⟨hcs, -, hfs, hpasses, -⟩ := calls_agree hp hconstructor hconstructors hmethods hfields he
  have hproxied : Config.proxiedConstructors { useJniHelper := true } innerClass = [_] := rfl
  rw [hproxied, List.forall₂_cons_left_iff] at hcs
  obtain ⟨v, vs, hv, hvs, hcons⟩ := hcs
  rw [List.forall₂_nil_left_iff.1 hvs] at hcons
  refine ⟨names, p, hnames, hp, hconstructor, hconstructors, hmethods, hfields, he, hpasses,
    hfs.length_eq.symm, v, hcons, ?_⟩
  rw [hv.descriptor, henclosing]
  rfl

/-- A class with a constructor that was declared elsewhere, with a result. -/
def classWithResult : ClassModel :=
  (ClassModel.ofName "a.B").withDeclaration
    { declaringClass := "a.B", name := constructorName, result := .primitive .int,
      parameters := [], modifiers := .ofList [.isPublic] }

/-- The descriptor of a constructor does not always end with the letter of `void`. -/
theorem exists_constructor_descriptor_int :
    ∃ names p v, ClassNames.ofModel classWithResult = .ok names
      ∧ ofModel {} names classWithResult = .ok p ∧ v ∈ p.constructors
      ∧ MethodType.ofDescriptor v.descriptor = .ok ⟨[], .primitive .int⟩ := by
  obtain ⟨names, hnames, hmade⟩ := ClassNames.exists_ofModel (c := classWithResult) (by decide)
    (by decide) (by decide)
  have henclosing : names.enclosingInstance = none := hmade.enclosingInstance
  cases names
  subst henclosing
  have hnames' : MethodType.HasNames JavaType.IsDescribed ⟨[], .primitive .int⟩ := ⟨nofun, trivial⟩
  exact ⟨_, _, _, hnames, rfl, List.mem_cons_self, MethodType.ofDescriptor_descriptor hnames' rfl⟩

end Proxy

end JniBindings
