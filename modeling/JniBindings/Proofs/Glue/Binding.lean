import JniBindings.Glue.Printer
import JniBindings.Proofs.ClassNames
import JniBindings.Proofs.Member
/-!
# How native methods are bound

The virtual machine calls a native method with the arguments that its descriptor promises, and finds
the function for it by its symbol or in the table of registrations. So the prototype, the stub and
the row of a function have to agree with the descriptor of one and the same method
(`NativeFunction.Binds`), and the header, the source and the table have to list the same functions
(`Glue.functions_bind`).
-/

namespace JniBindings

namespace Symbol

/-- The symbol of an overloaded method is longer. -/
theorem long_ne_short (className methodName descriptor : String) :
    long className methodName descriptor ≠ short className methodName := by
  intro h
  have hlength := congrArg (·.toList.length) h
  simp [long] at hlength

end Symbol

/-- A prototype as it is written: references are passed as they are. -/
theorem Prototype.text_eq (p : Prototype) :
    p.text = p.result.name ++ " JNICALL " ++ p.symbol ++ "(JNIEnv* env, "
      ++ (if p.isStatic then "jclass clazz" else "jobject thiz")
      ++ Text.concat (p.parameters.map fun q => ", " ++ (q.native.name ++ " " ++ q.name)) ++ ")" :=
  rfl

namespace NativeFunction

/-- What the parts of a function say about its method, as data and as they are written: a descriptor
is kept that is read as what the virtual machine sees of the method, the prototype has the native
types of that descriptor, the stub has this prototype and returns a value if the descriptor has a
result, and the row names the symbol of the prototype and the descriptor. References are passed as
they are. -/
structure Binds (m : Method) (f : NativeFunction) : Prop where
  name : f.name = m.name
  isStatic : f.prototype.isStatic = m.isStatic
  descriptor : MethodType.ofDescriptor f.descriptor = .ok ⟨m.parameterTypes, m.result⟩
  parameters : m.parameterTypes.mapM JavaType.native
    = .ok (f.prototype.parameters.map NativeParameter.native)
  result : m.result.native = .ok f.prototype.result
  written : f.prototype.text = f.prototype.result.name ++ " JNICALL " ++ f.symbol
    ++ "(JNIEnv* env, " ++ (if m.isStatic then "jclass clazz" else "jobject thiz")
    ++ Text.concat (f.prototype.parameters.map fun p => ", " ++ (p.native.name ++ " " ++ p.name))
    ++ ")"
  returned : f.stub.returned.isSome ↔ m.result ≠ .void
  stub : f.stub.text = "JNIEXPORT " ++ f.prototype.text ++ " \x7b\n"
    ++ "    // TODO(jni-cppgen): generated method stub.\n"
    ++ (if m.result = .void then "" else "    return " ++ m.result.zero ++ ";\n") ++ "\x7d\n\n"
  row : f.registration.text = "        \x7bconst_cast<char *>(" ++ Cpp.quoted f.name
    ++ "), const_cast<char *>(" ++ Cpp.quoted f.descriptor ++ "), reinterpret_cast<void *>("
    ++ f.prototype.symbol ++ ")\x7d,\n"

/-- What a function is made from. -/
structure IsMadeFrom (names : ClassNames) (m : Method) (overloaded : Bool) (f : NativeFunction) :
    Prop where
  name : f.name = m.name
  isStatic : f.isStatic = m.isStatic
  result : f.result = m.result
  descriptor : m.descriptor none = .ok f.descriptor
  parameters : NativeParameter.ofMethod m = .ok f.parameters
  native : m.result.native = .ok f.native
  symbol : ∃ d, JavaType.listDescriptor m.parameterTypes = .ok d
    ∧ f.symbol = if overloaded then Symbol.long names.symbol m.name d
      else Symbol.short names.symbol m.name

theorem isMadeFrom_of_ofMethod {names : ClassNames} {m : Method} {overloaded : Bool}
    {f : NativeFunction} (h : ofMethod names m overloaded = .ok f) :
    f.IsMadeFrom names m overloaded := by
  obtain ⟨descriptor, hdescriptor, h⟩ := bind_eq_ok_iff.1 h
  obtain ⟨d, hd⟩ := m.listDescriptor_of_descriptor hdescriptor
  rw [hd] at h
  cases overloaded with
  | false | true =>
    obtain ⟨symbol, hsymbol, h⟩ := bind_eq_ok_iff.1 h
    obtain ⟨parameters, hparameters, h⟩ := bind_eq_ok_iff.1 h
    obtain ⟨native, hnative, h⟩ := bind_eq_ok_iff.1 h
    have hf := Except.ok.inj h
    subst hf
    exact ⟨rfl, rfl, rfl, hdescriptor, hparameters, blame_eq_ok_iff.1 hnative, d, hd,
      (Except.ok.inj hsymbol).symm⟩

theorem IsMadeFrom.native_eq_void_iff {names : ClassNames} {m : Method} {overloaded : Bool}
    {f : NativeFunction} (h : f.IsMadeFrom names m overloaded) :
    f.native = .scalar .void ↔ m.result = .void := JavaType.native_eq_scalar_iff h.native .void

theorem IsMadeFrom.binds {names : ClassNames} {m : Method} {overloaded : Bool}
    {f : NativeFunction} (h : f.IsMadeFrom names m overloaded)
    (hm : ∀ t ∈ m.types, t.NamesHave JavaType.IsDescribed) : f.Binds m where
  name := h.name
  isStatic := h.isStatic
  descriptor := by
    rw [Method.ofDescriptor_descriptor h.descriptor hm nofun, Method.jvmType,
      Method.jvmParameters_none]
  parameters := NativeParameter.natives_ofMethod h.parameters
  result := h.native
  written := by
    rw [← h.isStatic]
    exact Prototype.text_eq f.prototype
  returned := by
    rw [NativeFunction.stub, ne_eq, ← h.native_eq_void_iff]
    by_cases hscalar : f.native = .scalar .void <;> simp [hscalar]
  stub := by
    unfold Stub.text NativeFunction.stub
    simp only [h.result, h.native_eq_void_iff]
    by_cases hvoid : m.result = .void <;> simp [hvoid]
  row := rfl

end NativeFunction

/-- The declaration of a function in the header, under a comment. -/
def Prototype.declarationText (comment : String) (p : Prototype) : String :=
  comment ++ "JNIEXPORT " ++ p.text ++ ";\n\n"

/-- The definition of a function in the source, under a comment. -/
def Stub.definitionText (comment : String) (s : Stub) : String := comment ++ s.text

namespace Glue

/-! ### What the files list -/

/-- The glue with other functions. -/
def withFunctions (g : Glue) (fs : List NativeFunction) : Glue := { g with functions := fs }

/-- The comments in front of the functions. -/
def comments (g : Glue) : List String := g.functions.map (·.comment g.names.qualified)

/-- The files list the same functions in the same order: the header declares the prototypes that the
source defines, and the table has one row for each. Nothing else in the files depends on the
functions, except that the table is in the header if there is no source. -/
structure ListsFunctions (g : Glue) : Prop where
  defined : g.defined.map Stub.prototype = g.declared
  registered : g.registrations
    = g.functions.zipWith (fun f p => ⟨f.name, f.descriptor, p.symbol⟩) g.declared
  header : ∃ front middle back, ∀ fs, (g.withFunctions fs).header
    = front ++ Text.concat ((g.withFunctions fs).comments.zipWith Prototype.declarationText
        (g.withFunctions fs).declared)
      ++ middle
      ++ (if g.config.glueSource then "" else (g.withFunctions fs).registration "inline ") ++ back
  source : ∃ front back, ∀ fs, (g.withFunctions fs).source
    = front ++ Text.concat ((g.withFunctions fs).comments.zipWith Stub.definitionText
        (g.withFunctions fs).defined)
      ++ (g.withFunctions fs).registration "" ++ back
  table : ∀ qualifier, ∃ front back, ∀ fs, fs ≠ [] → (g.withFunctions fs).registration qualifier
    = front ++ Text.concat ((g.withFunctions fs).registrations.map Registration.text) ++ back

theorem zipWith_declared (g : Glue) {β : Type} (k : NativeFunction → Prototype → β) :
    g.functions.zipWith k g.declared = g.functions.map fun f => k f f.prototype := by
  rw [declared, List.zipWith_map_right, List.zipWith_self]

theorem zipWith_comments_declared (g : Glue) :
    g.comments.zipWith Prototype.declarationText g.declared
      = g.functions.map fun f => f.comment g.names.qualified ++ "JNIEXPORT " ++ f.prototype.text
        ++ ";\n\n" := by
  rw [comments, List.zipWith_map_left, zipWith_declared]
  rfl

theorem zipWith_comments_defined (g : Glue) :
    g.comments.zipWith Stub.definitionText g.defined
      = g.functions.map fun f => f.comment g.names.qualified ++ f.stub.text := by
  rw [comments, defined, List.zipWith_map, List.zipWith_self]
  rfl

/-- The header up to the first declaration. -/
def headerFront (g : Glue) : String :=
  notice
    ++ "/* C++ header file for class " ++ g.names.slashed ++ " */\n"
    ++ "#pragma once\n\n#include <jni.h>\n\n"
    ++ g.opening
    ++ "// DO NOT modify\n"
    ++ fullClassName g.names.slashed
    ++ constantLines "" g.constants
    ++ "#ifdef __cplusplus\nextern \"C\" \x7b\n#endif\n\n"

/-- What follows the last declaration, up to the definition of the function that registers all. -/
def headerMiddle (g : Glue) : String :=
  "#ifdef __cplusplus\n\x7d\n#endif\n\n"
    ++ if g.config.glueSource then "bool registerNativeFunctions(JNIEnv* env);\n\n" else ""

/-- The end of the header. -/
def headerBack (g : Glue) : String := (if g.config.glueSource then "" else "\n") ++ g.closing

theorem header_eq (g : Glue) :
    g.header = g.headerFront
      ++ Text.concat (g.comments.zipWith Prototype.declarationText g.declared)
      ++ g.headerMiddle ++ (if g.config.glueSource then "" else g.registration "inline ")
      ++ g.headerBack := by
  rw [zipWith_comments_declared]
  unfold header headerFront headerMiddle headerBack
  cases g.config.glueSource with
  | false | true =>
    simp only [Bool.false_eq_true, if_true, if_false, String.append_assoc, String.empty_append]

/-- The source up to the first definition. -/
def sourceFront (g : Glue) : String :=
  notice ++ "#include " ++ Cpp.quoted g.headerName ++ "\n\n" ++ g.opening

theorem source_eq (g : Glue) :
    g.source = g.sourceFront
      ++ Text.concat (g.comments.zipWith Stub.definitionText g.defined)
      ++ g.registration "" ++ ("\n" ++ g.closing) := by
  rw [zipWith_comments_defined, source, sourceFront]
  simp only [String.append_assoc]

/-- The function that registers all others, up to the first row of its table. -/
def tableFront (qualifier : String) : String :=
  qualifier ++ "bool registerNativeFunctions(JNIEnv* env) \x7b\n"
    ++ "    static const JNINativeMethod gsNativeMethods[] = \x7b\n"

/-- What follows the last row. -/
def tableBack : String :=
  "    \x7d;\n\n"
    ++ "    jclass clazz = env->FindClass(reinterpret_cast<const char*>(FULL_CLASS_NAME));\n"
    ++ "    if (clazz == nullptr) \x7b\n        return false;\n    \x7d\n"
    ++ "    bool registered = env->RegisterNatives(clazz, gsNativeMethods,\n"
    ++ "            sizeof(gsNativeMethods) / sizeof(gsNativeMethods[0])) == JNI_OK;\n"
    ++ "    env->DeleteLocalRef(clazz);\n"
    ++ "    return registered;\n\x7d\n"

theorem registration_eq {g : Glue} (h : g.registrations ≠ []) (qualifier : String) :
    g.registration qualifier = tableFront qualifier
      ++ Text.concat (g.registrations.map Registration.text) ++ tableBack := by
  unfold registration tableFront tableBack
  rw [if_neg (by simpa using h)]
  simp only [String.append_assoc]

theorem listsFunctions (g : Glue) : g.ListsFunctions where
  defined := by
    rw [defined, List.map_map]
    rfl
  registered := by
    rw [zipWith_declared]
    rfl
  header := ⟨g.headerFront, g.headerMiddle, g.headerBack, fun fs => header_eq (g.withFunctions fs)⟩
  source := ⟨g.sourceFront, "\n" ++ g.closing, fun fs => source_eq (g.withFunctions fs)⟩
  table := by
    refine fun qualifier => ⟨tableFront qualifier, tableBack, fun fs hfs => ?_⟩
    exact registration_eq (by simpa [registrations, withFunctions] using hfs) qualifier

/-! ### Symbols -/

variable {config : Config} {names : ClassNames} {c : ClassModel} {g : Glue}

theorem names_of_ofModel (h : ofModel config names c = .ok g) : g.names = names := by
  obtain ⟨functions, -, h⟩ := bind_eq_ok_iff.1 h
  exact (congrArg Glue.names (Except.ok.inj h)).symm

theorem functions_of_ofModel (h : ofModel config names c = .ok g) :
    (nativeMethods c).mapM (fun m => NativeFunction.ofMethod names m
      (1 < occurrences m.name ((nativeMethods c).map Method.name))) = .ok g.functions := by
  obtain ⟨functions, hfunctions, h⟩ := bind_eq_ok_iff.1 h
  have hg := Except.ok.inj h
  subst hg
  exact hfunctions

theorem forall₂_functions (h : ofModel config names c = .ok g) :
    List.Forall₂ (fun m f => f.IsMadeFrom names m
        (1 < occurrences m.name ((nativeMethods c).map Method.name)))
      (nativeMethods c) g.functions :=
  (mapM_eq_ok_iff.1 (functions_of_ofModel h)).imp fun _ _ => NativeFunction.isMadeFrom_of_ofMethod

/-- The long form of a symbol stands for a method that shares its name, the short form for one that
does not. -/
theorem symbol_eq_long_iff (h : ofModel config names c = .ok g) {i : Nat} {m : Method}
    {f : NativeFunction} (hm : (nativeMethods c)[i]? = some m) (hf : g.functions[i]? = some f) :
    ∃ d, JavaType.listDescriptor m.parameterTypes = .ok d
      ∧ (f.symbol = Symbol.long names.symbol m.name d ∨ f.symbol = Symbol.short names.symbol m.name)
      ∧ (f.symbol = Symbol.long names.symbol m.name d
        ↔ ∃ j, j ≠ i ∧ ((nativeMethods c).map Method.name)[j]? = some m.name) := by
  have hname : ((nativeMethods c).map Method.name)[i]? = some m.name := by simp [hm]
  obtain ⟨hi, hmi⟩ := List.getElem?_eq_some_iff.1 hm
  obtain ⟨hi', hfi⟩ := List.getElem?_eq_some_iff.1 hf
  have hmade := (forall₂_functions h).get hi hi'
  rw [List.get_eq_getElem, List.get_eq_getElem, hmi, hfi] at hmade
  obtain ⟨d, hd, hsymbol⟩ := hmade.symbol
  refine ⟨d, hd, ?_, ?_⟩
  · rw [hsymbol]
    split
    · exact Or.inl rfl
    · exact Or.inr rfl
  · rw [← one_lt_occurrences_iff hname, hsymbol]
    split
    · next hover => exact iff_of_true rfl (of_decide_eq_true hover)
    · next hover =>
      refine iff_of_false (fun heq => Symbol.long_ne_short _ _ _ heq.symm) fun hlt => ?_
      exact hover (decide_eq_true hlt)

/-- Every native method of a class, and nothing else, has a function, in the order of declaration;
each function agrees with the descriptor of its method, the files list the functions in the same
order, and exactly the methods that share their names with other native methods have long
symbols. -/
theorem functions_bind (h : ofModel config names c = .ok g)
    (hc : ∀ m ∈ nativeMethods c, ∀ t ∈ m.types, t.NamesHave JavaType.IsDescribed) :
    List.Forall₂ NativeFunction.Binds (nativeMethods c) g.functions ∧ g.ListsFunctions
      ∧ ∀ (i : Nat) (m : Method) (f : NativeFunction),
        (nativeMethods c)[i]? = some m → g.functions[i]? = some f →
        ∃ d, JavaType.listDescriptor m.parameterTypes = .ok d
          ∧ (f.symbol = Symbol.long names.symbol m.name d
            ∨ f.symbol = Symbol.short names.symbol m.name)
          ∧ (f.symbol = Symbol.long names.symbol m.name d
            ↔ ∃ j, j ≠ i ∧ ((nativeMethods c).map Method.name)[j]? = some m.name) := by
  refine ⟨?_, listsFunctions g, fun i m f => symbol_eq_long_iff h⟩
  have hall := forall₂_functions h
  rw [List.forall₂_iff_get] at hall ⊢
  refine ⟨hall.1, fun i hi hi' => (hall.2 i hi hi').binds ?_⟩
  exact hc _ (List.get_mem _ _)

/-- A class with an overloaded native method, another native method and a method that shares its
name but is not native. -/
def mixedClass : ClassModel :=
  ((((ClassModel.ofName "a.B").withMethod "f" .void [⟨"x", .array (.declared "a.E")⟩]
    (.ofList [.isNative])).withMethod "g" (.primitive .int) [⟨"x", .primitive .long⟩]
    (.ofList [.isStatic, .isNative])).withMethod "g" .void [] (.ofList [])).withMethod "f"
    .string [] (.ofList [.isNative])

theorem functions_bind_mixedClass :
    ∃ names g, ClassNames.ofModel mixedClass = .ok names ∧ ofModel {} names mixedClass = .ok g
      ∧ (∀ m ∈ nativeMethods mixedClass, ∀ t ∈ m.types, t.NamesHave JavaType.IsDescribed)
      ∧ g.functions.map NativeFunction.name = ["f", "g", "f"]
      ∧ List.Forall₂ NativeFunction.Binds (nativeMethods mixedClass) g.functions
      ∧ g.ListsFunctions
      ∧ ∀ f, g.functions[1]? = some f → f.symbol = Symbol.short names.symbol "g" := by
  obtain ⟨names, hnames, -⟩ := ClassNames.exists_ofModel (c := mixedClass) (by decide) (by decide)
    (by decide)
  obtain ⟨g, hg⟩ : ∃ g, ofModel {} names mixedClass = .ok g := ⟨_, rfl⟩
  have hname : JavaType.IsDescribed "a.E" := ⟨by simp, by simp, by simp⟩
  have hstring : JavaType.IsDescribed "java.lang.String" := ⟨by simp, by simp, by simp⟩
  have hc : ∀ m ∈ nativeMethods mixedClass, ∀ t ∈ m.types,
      t.NamesHave JavaType.IsDescribed := by
    have hmethods : nativeMethods mixedClass = [_, _, _] := rfl
    simp [hmethods, Method.types, Method.parameterTypes, JavaType.NamesHave, JavaType.void,
      JavaType.string, hname, hstring]
  obtain ⟨hbinds, hlists, hsymbol⟩ := functions_bind hg hc
  refine ⟨names, g, hnames, hg, hc, ?_, hbinds, hlists, fun f hf => ?_⟩
  · have hnames : (nativeMethods mixedClass).map Method.name = ["f", "g", "f"] := rfl
    rw [← hnames, eq_comm]
    exact map_eq_map_of_forall₂ hbinds fun _ _ hb => hb.name.symm
  · obtain ⟨d, -, hor, hiff⟩ := hsymbol 1 _ f rfl hf
    refine hor.resolve_left fun hlong => ?_
    obtain ⟨j, hj, hname⟩ := hiff.1 hlong
    rcases j with _ | _ | _ | j
    · exact absurd hname (by decide)
    · exact hj rfl
    · exact absurd hname (by decide)
    · cases hname

end Glue

end JniBindings
