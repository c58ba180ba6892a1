import JniBindings.GeneratedFile
import JniBindings.Glue.Basic
/-!
# Files of the glue

`Glue.header` declares the functions of a class's native methods. `Glue.source` defines stubs for
them, and the function that registers them; without a source file the header defines the latter.
-/

namespace JniBindings

/-- The first parameter after the environment: the class or the instance. -/
def Prototype.receiver (p : Prototype) : String :=
  if p.isStatic then "jclass clazz" else "jobject thiz"

/-- The prototype as it is written, without the word that exports it. -/
def Prototype.text (p : Prototype) : String :=
  p.result.name ++ " JNICALL " ++ p.symbol ++ "(JNIEnv* env, " ++ p.receiver
    ++ NativeParameter.declarations p.parameters .raw ++ ")"

/-- The comment in front of a function. -/
def NativeFunction.comment (f : NativeFunction) (className : String) : String :=
  "/*\n * Class:     " ++ className ++ "\n * Method:    " ++ f.signature
    ++ "\n * Signature: " ++ f.descriptor ++ "\n */\n"

/-- A row of the table of native methods. -/
def Registration.text (r : Registration) : String :=
  "        \x7bconst_cast<char *>(" ++ Cpp.quoted r.name ++ "), const_cast<char *>("
    ++ Cpp.quoted r.descriptor ++ "), reinterpret_cast<void *>(" ++ r.symbol ++ ")\x7d,\n"

/-- The definition of a function that is yet to be written. -/
def Stub.text (s : Stub) : String :=
  "JNIEXPORT " ++ s.prototype.text ++ " \x7b\n"
    ++ "    // TODO(jni-cppgen): generated method stub.\n"
    ++ (match s.returned with
      | some value => "    return " ++ value ++ ";\n"
      | none => "")
    ++ "\x7d\n\n"

namespace Glue

/-- What opens the namespaces around the functions. -/
def opening (g : Glue) : String :=
  lineOf g.config.namespacePath.opening ++ "namespace " ++ g.names.simple ++ " \x7b\n\n"

/-- What closes the namespaces around the functions. -/
def closing (g : Glue) : String :=
  "\x7d // endof namespace " ++ g.names.simple ++ "\n" ++ lineOf g.config.namespacePath.closing

/-- The definition of the function that registers all others; `qualifier` stands in front. -/
def registration (g : Glue) (qualifier : String) : String :=
  qualifier ++ "bool registerNativeFunctions(JNIEnv* env) \x7b\n"
    ++ if g.registrations.isEmpty then "    return true;\n\x7d\n"
    else
      "    static const JNINativeMethod gsNativeMethods[] = \x7b\n"
        ++ Text.concat (g.registrations.map Registration.text)
        ++ "    \x7d;\n\n"
        ++ "    jclass clazz = env->FindClass(reinterpret_cast<const char*>(FULL_CLASS_NAME));\n"
        ++ "    if (clazz == nullptr) \x7b\n        return false;\n    \x7d\n"
        ++ "    bool registered = env->RegisterNatives(clazz, gsNativeMethods,\n"
        ++ "            sizeof(gsNativeMethods) / sizeof(gsNativeMethods[0])) == JNI_OK;\n"
        ++ "    env->DeleteLocalRef(clazz);\n"
        ++ "    return registered;\n\x7d\n"

/-- The header. -/
def header (g : Glue) : String :=
  notice
    ++ "/* C++ header file for class " ++ g.names.slashed ++ " */\n"
    ++ "#pragma once\n\n#include <jni.h>\n\n"
    ++ g.opening
    ++ "// DO NOT modify\n"
    ++ fullClassName g.names.slashed
    ++ constantLines "" g.constants
    ++ "#ifdef __cplusplus\nextern \"C\" \x7b\n#endif\n\n"
    ++ Text.concat (g.functions.map fun f =>
      f.comment g.names.qualified ++ "JNIEXPORT " ++ f.prototype.text ++ ";\n\n")
    ++ "#ifdef __cplusplus\n\x7d\n#endif\n\n"
    ++ (if g.config.glueSource then "bool registerNativeFunctions(JNIEnv* env);\n\n"
      else g.registration "inline " ++ "\n")
    ++ g.closing

/-- The source. -/
def source (g : Glue) : String :=
  notice
    ++ "#include " ++ Cpp.quoted g.headerName ++ "\n\n"
    ++ g.opening
    ++ Text.concat (g.functions.map fun f => f.comment g.names.qualified ++ f.stub.text)
    ++ g.registration ""
    ++ "\n"
    ++ g.closing

/-- The files. -/
def files (g : Glue) : GeneratedClass :=
  { header := ⟨g.headerName, g.header⟩
    source := if g.config.glueSource then some ⟨g.sourceName, g.source⟩ else none }

end Glue

end JniBindings
