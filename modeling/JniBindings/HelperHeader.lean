import JniBindings.GeneratedFile
import JniBindings.Text.Segments
/-!
# The helper header

Proxies in helper style include a header with three small types: `Env` attaches the calling thread
to the virtual machine, and `LocalRef` and `GlobalRef` own references.
-/

namespace JniBindings

/-- The lines of the helper header after the notice. -/
def helperLines : List String := [
  "/* Reference and environment helpers for generated C++ proxies */",
  "#pragma once",
  "",
  "#include <jni.h>",
  "#include <assert.h>",
  "#include <utility>",
  "",
  "namespace jnicpp \x7b",
  "",
  "class Env \x7b",
  "public:",
  "    // Must run once, typically from JNI_OnLoad, before any Env is created.",
  "    static void init(JavaVM* vm) \x7b",
  "        javaVM() = vm;",
  "    \x7d",
  "",
  "    Env() \x7b",
  "        JavaVM* vm = javaVM();",
  "        assert(vm != nullptr);",
  "        if (vm->GetEnv(reinterpret_cast<void**>(&_env), JNI_VERSION_1_6) == JNI_EDETACHED) \x7b",
  "            vm->AttachCurrentThread(reinterpret_cast<void**>(&_env), nullptr);",
  "            _attached = true;",
  "        \x7d",
  "    \x7d",
  "",
  "    ~Env() \x7b",
  "        if (_attached) \x7b",
  "            javaVM()->DetachCurrentThread();",
  "        \x7d",
  "    \x7d",
  "",
  "    Env(const Env&) = delete;",
  "    Env& operator=(const Env&) = delete;",
  "",
  "    JNIEnv* get() const \x7b",
  "        return _env;",
  "    \x7d",
  "",
  "    JNIEnv* operator->() const \x7b",
  "        return _env;",
  "    \x7d",
  "",
  "private:",
  "    static JavaVM*& javaVM() \x7b",
  "        static JavaVM* vm = nullptr;",
  "        return vm;",
  "    \x7d",
  "",
  "    JNIEnv* _env = nullptr;",
  "    bool _attached = false;",
  "\x7d;",
  "",
  "template <typename T>",
  "class LocalRef \x7b",
  "public:",
  "    LocalRef() = default;",
  "",
  "    explicit LocalRef(T ref) : _ref(ref) \x7b\x7d",
  "",
  "    LocalRef(LocalRef&& other) noexcept : _ref(other.release()) \x7b\x7d",
  "",
  "    LocalRef& operator=(LocalRef&& other) noexcept \x7b",
  "        if (this != &other) \x7b",
  "            reset(other.release());",
  "        \x7d",
  "        return *this;",
  "    \x7d",
  "",
  "    LocalRef(const LocalRef&) = delete;",
  "    LocalRef& operator=(const LocalRef&) = delete;",
  "",
  "    ~LocalRef() \x7b",
  "        reset();",
  "    \x7d",
  "",
  "    T get() const \x7b",
  "        return _ref;",
  "    \x7d",
  "",
  "    T release() \x7b",
  "        T ref = _ref;",
  "        _ref = nullptr;",
  "        return ref;",
  "    \x7d",
  "",
  "    void reset(T ref = nullptr) \x7b",
  "        if (_ref != nullptr) \x7b",
  "            Env env;",
  "            env->DeleteLocalRef(_ref);",
  "        \x7d",
  "        _ref = ref;",
  "    \x7d",
  "",
  "private:",
  "    T _ref = nullptr;",
  "\x7d;",
  "",
  "template <typename T>",
  "class GlobalRef \x7b",
  "public:",
  "    GlobalRef() = default;",
  "",
  "    explicit GlobalRef(const LocalRef<T>& local) : _ref(newGlobal(local.get())) \x7b\x7d",
  "",
  "    GlobalRef(const GlobalRef& other) : _ref(newGlobal(other._ref)) \x7b\x7d",
  "",
  "    GlobalRef& operator=(const GlobalRef& other) \x7b",
  "        if (this != &other) \x7b",
  "            reset(newGlobal(other._ref));",
  "        \x7d",
  "        return *this;",
  "    \x7d",
  "",
  "    GlobalRef(GlobalRef&& other) noexcept : _ref(other._ref) \x7b",
  "        other._ref = nullptr;",
  "    \x7d",
  "",
  "    GlobalRef& operator=(GlobalRef&& other) noexcept \x7b",
  "        if (this != &other) \x7b",
  "            reset(other._ref);",
  "            other._ref = nullptr;",
  "        \x7d",
  "        return *this;",
  "    \x7d",
  "",
  "    ~GlobalRef() \x7b",
  "        reset();",
  "    \x7d",
  "",
  "    T get() const \x7b",
  "        return _ref;",
  "    \x7d",
  "",
  "    void reset(T ref = nullptr) \x7b",
  "        if (_ref != nullptr) \x7b",
  "            Env env;",
  "            env->DeleteGlobalRef(_ref);",
  "        \x7d",
  "        _ref = ref;",
  "    \x7d",
  "",
  "private:",
  "    static T newGlobal(T ref) \x7b",
  "        if (ref == nullptr) \x7b",
  "            return nullptr;",
  "        \x7d",
  "        Env env;",
  "        return static_cast<T>(env->NewGlobalRef(ref));",
  "    \x7d",
  "",
  "    T _ref = nullptr;",
  "\x7d;",
  "",
  "\x7d // namespace jnicpp"]

/-- The helper header. -/
def helperHeader : GeneratedFile :=
  { name := "jnihelper.h"
    content := notice ++ Text.concat (helperLines.map (· ++ "\n")) }

end JniBindings
