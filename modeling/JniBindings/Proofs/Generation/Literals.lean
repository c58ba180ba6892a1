import JniBindings.Proofs.Cpp.StringBody
import JniBindings.Proofs.Glue.Binding
import JniBindings.Proofs.Proxy.Members
import JniBindings.Proofs.Text.Joined
import JniBindings.Proxy.Printer
/-!
# Literals that name Java entities

Generated files name classes, members and descriptors in string literals. In the lookups of a proxy
the names of members are written with escapes and always read back. In the table of native methods
they are written as they are, and so are all descriptors and the name of the class; these literals
stand for what they name only if it is plain (`literals_denote`).
-/

namespace JniBindings

open Cpp (Denotes IsPlain quoted)

/-- A row of the table of native methods has two literals. They stand for the name and descriptor of
a method if these are plain. -/
structure Registration.Names (name descriptor : String) (r : Registration) : Prop where
  written : r.text = "        \x7bconst_cast<char *>(" ++ quoted r.name ++ "), const_cast<char *>("
    ++ quoted r.descriptor ++ "), reinterpret_cast<void *>(" ++ r.symbol ++ ")\x7d,\n"
  name : Denotes r.name name ↔ IsPlain name
  descriptor : Denotes r.descriptor descriptor ↔ IsPlain descriptor

/-- The line of a lookup has two literals. The first one stands for the name of a member, and the
second one for its descriptor if that is plain. -/
structure Lookup.Names (name descriptor : String) (id : Lookup) : Prop where
  written : (Statement.lookUp id).lines = ["state." ++ id.slot ++ " = env->Get"
    ++ Proxy.staticWord id.isStatic ++ id.kind.word ++ "ID(state.sClazz, " ++ quoted id.nameLiteral
    ++ ", " ++ quoted id.descriptorLiteral ++ ");"]
  name : Denotes id.nameLiteral name
  descriptor : Denotes id.descriptorLiteral descriptor ↔ IsPlain descriptor

/-! ### The name of the class -/

/-- The constant with the name of a class is defined in a text. -/
def DefinesClassName (slashed text : String) : Prop :=
  Contains ("static constexpr auto FULL_CLASS_NAME = u8" ++ quoted slashed ++ ";\n\n") text

theorem Glue.definesClassName (g : Glue) : DefinesClassName g.names.slashed g.header := by
  unfold header
  iterate 6 apply Contains.before
  exact (Contains.refl _).after _

theorem Proxy.definesClassName (p : Proxy) : DefinesClassName p.names.slashed p.header := by
  have hclass : DefinesClassName p.names.slashed p.classText := by
    unfold classText
    iterate 10 apply Contains.before
    exact (Contains.refl _).after _
  unfold header
  iterate 2 apply Contains.before
  exact Contains.after hclass _

/-! ### Members -/

theorem NativeFunction.IsMadeFrom.names {m : Method} {f : NativeFunction} {names : ClassNames}
    {overloaded : Bool} (h : f.IsMadeFrom names m overloaded) :
    f.registration.Names m.name f.descriptor where
  written := rfl
  name := h.name ▸ Cpp.denotes_self_iff
  descriptor := Cpp.denotes_self_iff

theorem Lookup.names_of_denotes {name descriptor : String} {id : Lookup}
    (hname : Denotes id.nameLiteral name) (hdescriptor : id.descriptorLiteral = descriptor) :
    id.Names name descriptor where
  written := rfl
  name := hname
  descriptor := hdescriptor ▸ Cpp.denotes_self_iff

theorem denotes_constructorName : Denotes constructorName constructorName := by
  refine Cpp.denotes_self_iff.2 (Cpp.isPlain_of_forall ?_)
  simp [constructorName, Cpp.isOrdinary, Cpp.endsLine]

/-- What the literals that name Java entities stand for. Names of members are read back from the
lookups of a proxy. All other names and descriptors are read back from their literals if and only if
they are plain: the names in the table of native methods, all descriptors, and the name of the
class. -/
theorem literals_denote (config : Config) {names : ClassNames} {c : ClassModel}
    (hnames : ClassNames.ofModel c = .ok names) :
    (∀ g, Glue.ofModel config names c = .ok g →
        List.Forall₂ (fun m r => ∃ d, m.descriptor none = .ok d ∧ Registration.Names m.name d r)
          (Glue.nativeMethods c) g.registrations
        ∧ DefinesClassName names.slashed g.header)
      ∧ (∀ p, Proxy.ofModel config names c = .ok p →
        (∃ constructors methods fields, p.lookups = constructors ++ methods ++ fields
          ∧ List.Forall₂ (fun m id => ∃ d, m.descriptor c.enclosingInstance = .ok d
            ∧ Lookup.Names constructorName d id) (config.proxiedConstructors c) constructors
          ∧ List.Forall₂ (fun m id => ∃ d, m.descriptor none = .ok d ∧ Lookup.Names m.name d id)
            (config.proxiedMethods c) methods
          ∧ List.Forall₂ (fun f id => ∃ d, f.type.descriptor = .ok d ∧ Lookup.Names f.name d id)
            (config.proxiedFields c) fields)
        ∧ DefinesClassName names.slashed p.header)
      ∧ names.slashed = Text.replaceChar '.' '/' (Text.trim c.name)
      ∧ (Denotes names.slashed names.slashed ↔ IsPlain names.slashed) := by
  have hmade := ClassNames.isMadeFrom_of_ofModel hnames
  refine ⟨fun g hg => ⟨?_, ?_⟩, fun p hp => ?_, hmade.slashed, Cpp.denotes_self_iff⟩
  · rw [Glue.registrations, List.forall₂_map_right_iff]
    exact (Glue.forall₂_functions hg).imp fun m f hf => ⟨f.descriptor, hf.descriptor, hf.names⟩
  · rw [← Glue.names_of_ofModel hg]
    exact g.definesClassName
  · obtain ⟨constructors, methods, h⟩ := Proxy.isMadeFrom_of_ofModel hp
    refine ⟨⟨_, _, _, rfl, ?_, ?_, ?_⟩, h.names ▸ p.definesClassName⟩
    · rw [List.forall₂_map_right_iff]
      refine forall₂_of_map_member_eq (map_member_resolveMethods h.resolvedConstructors)
        h.constructors fun r v _ hv => ⟨v.descriptor, ?_,
          Lookup.names_of_denotes denotes_constructorName rfl⟩
      rw [← hmade.enclosingInstance]
      exact hv.descriptor
    · rw [List.forall₂_map_right_iff]
      refine forall₂_of_map_member_eq (map_member_resolveMethods h.resolvedMethods) h.methods
        fun r v _ hv => ⟨v.descriptor, hv.descriptor, Lookup.names_of_denotes ?_ rfl⟩
      rw [← hv.name]
      exact Cpp.denotes_stringBody v.name
    · rw [List.forall₂_map_right_iff]
      refine forall₂_of_map_member_eq (map_member_resolveFields (config.proxiedFields c)) h.fields
        fun r v _ hv => ⟨v.descriptor, hv.descriptor, Lookup.names_of_denotes ?_ rfl⟩
      rw [← hv.name]
      exact Cpp.denotes_stringBody v.name

/-- The literals in what is generated for a class: its name, and the names and descriptors in the
table of native methods and in the lookups. -/
def literalsOf (c : ClassModel) :
    Except Failure (String × List (String × String) × List (String × String)) := do
  let names ← ClassNames.ofModel c
  let g ← Glue.ofModel {} names c
  let p ← Proxy.ofModel {} names c
  pure (names.slashed, g.registrations.map fun r => (r.name, r.descriptor),
    p.lookups.map fun id => (id.nameLiteral, id.descriptorLiteral))

theorem exists_of_literalsOf {c : ClassModel} {slashed : String}
    {rows lookups : List (String × String)} (h : literalsOf c = .ok (slashed, rows, lookups)) :
    ∃ names g p, ClassNames.ofModel c = .ok names ∧ Glue.ofModel {} names c = .ok g
      ∧ Proxy.ofModel {} names c = .ok p ∧ names.slashed = slashed
      ∧ g.registrations.map (fun r => (r.name, r.descriptor)) = rows
      ∧ p.lookups.map (fun id => (id.nameLiteral, id.descriptorLiteral)) = lookups := by
  obtain ⟨names, hnames, h⟩ := bind_eq_ok_iff.1 h
  obtain ⟨g, hg, h⟩ := bind_eq_ok_iff.1 h
  obtain ⟨p, hp, h⟩ := bind_eq_ok_iff.1 h
  have heq := Except.ok.inj h
  simp only [Prod.mk.injEq] at heq
  exact ⟨names, g, p, hnames, hg, hp, heq⟩

/-- A class with a public native method. -/
def nativeClass (name method : String) (parameter : JavaType) : ClassModel :=
  (ClassModel.ofName name).withMethod method .void [⟨"x", parameter⟩]
    (.ofList [.isPublic, .isNative])

/-- The name of a method with a quotation mark is read back from its lookup, but not from its row in
the table. -/
theorem literals_denote_quotationMark :
    ∃ names g p, ClassNames.ofModel (nativeClass "a.B" "f\"" (.declared "a.C")) = .ok names
      ∧ Glue.ofModel {} names (nativeClass "a.B" "f\"" (.declared "a.C")) = .ok g
      ∧ Proxy.ofModel {} names (nativeClass "a.B" "f\"" (.declared "a.C")) = .ok p
      ∧ (∀ r ∈ g.registrations, ¬ Denotes r.name "f\"" ∧ Denotes r.descriptor "(La/C;)V")
      ∧ (∀ id ∈ p.lookups, Denotes id.nameLiteral "f\"" ∧ Denotes id.descriptorLiteral "(La/C;)V")
      ∧ DefinesClassName "a/B" g.header ∧ DefinesClassName "a/B" p.header := by
  have hliterals : literalsOf (nativeClass "a.B" "f\"" (.declared "a.C"))
      = .ok ("a/B", [("f\"", "(La/C;)V")], [("f\\\"", "(La/C;)V")]) := by decide +kernel
  obtain ⟨names, g, p, hnames, hg, hp, hslashed, hrows, hlookups⟩ := exists_of_literalsOf hliterals
  have hplain : IsPlain "(La/C;)V" :=
    Cpp.isPlain_of_forall (by simp [Cpp.isOrdinary, Cpp.endsLine])
  have hnot : ¬ IsPlain "f\"" := fun h => absurd (h.ordinary '"' (by simp)) (by decide)
  have hdescriptor {m : Method} {d : String}
      (hm : m = (nativeClass "a.B" "f\"" (.declared "a.C")).methods.head (by decide))
      (hd : m.descriptor none = .ok d) : d = "(La/C;)V" := by
    subst hm
    exact (Except.ok.inj hd).symm
  obtain ⟨hglue, hproxy, -⟩ := literals_denote {} hnames
  obtain ⟨hregistrations, hheader⟩ := hglue g hg
  obtain ⟨⟨_, _, _, hall, hconstructors, hmethods, hfields⟩, hproxyHeader⟩ := hproxy p hp
  refine ⟨names, g, p, hnames, hg, hp, fun r hr => ?_, fun id hid => ?_, hslashed ▸ hheader,
    hslashed ▸ hproxyHeader⟩
  · obtain ⟨m, hm, d, hd, hnamed⟩ := exists_of_mem_forall₂ hregistrations hr
    obtain rfl := List.mem_singleton.1 hm
    obtain rfl := hdescriptor rfl hd
    exact ⟨fun h => hnot (hnamed.name.1 h), hnamed.descriptor.2 hplain⟩
  · obtain rfl := List.forall₂_nil_left_iff.1 hconstructors
    obtain rfl := List.forall₂_nil_left_iff.1 hfields
    rw [hall, List.nil_append, List.append_nil] at hid
    obtain ⟨m, hm, d, hd, hnamed⟩ := exists_of_mem_forall₂ hmethods hid
    obtain rfl := List.mem_singleton.1 hm
    obtain rfl := hdescriptor rfl hd
    exact ⟨hnamed.name, hnamed.descriptor.2 hplain⟩

/-- The names of a class, of a method and of the class of a parameter can each be such that their
literals do not stand for them. -/
theorem exists_not_denotes :
    ∃ names g p, ClassNames.ofModel (nativeClass "a.B\\" "f\"" (.declared "a\n")) = .ok names
      ∧ Glue.ofModel {} names (nativeClass "a.B\\" "f\"" (.declared "a\n")) = .ok g
      ∧ Proxy.ofModel {} names (nativeClass "a.B\\" "f\"" (.declared "a\n")) = .ok p
      ∧ names.slashed = "a/B\\"
      ∧ g.registrations.map (fun r => (r.name, r.descriptor)) = [("f\"", "(La\n;)V")]
      ∧ p.lookups.map (fun id => (id.nameLiteral, id.descriptorLiteral))
        = [("f\\\"", "(La\n;)V")]
      ∧ ¬ Denotes "a/B\\" "a/B\\" ∧ ¬ Denotes "f\"" "f\"" ∧ ¬ Denotes "(La\n;)V" "(La\n;)V" := by
  have hliterals : literalsOf (nativeClass "a.B\\" "f\"" (.declared "a\n"))
      = .ok ("a/B\\", [("f\"", "(La\n;)V")], [("f\\\"", "(La\n;)V")]) := by decide +kernel
  obtain ⟨names, g, p, hnames, hg, hp, hslashed, hrows, hlookups⟩ := exists_of_literalsOf hliterals
  have hnot {s : String} {c : Char} (hc : c ∈ s.toList) (hmeaning : ¬ Cpp.isOrdinary c) :
      ¬ Denotes s s := fun h => hmeaning ((Cpp.denotes_self_iff.1 h).ordinary c hc)
  refine ⟨names, g, p, hnames, hg, hp, hslashed, hrows, hlookups, ?_, ?_, ?_⟩
  · exact hnot (c := '\\') (by simp) (by decide)
  · exact hnot (c := '"') (by simp) (by decide)
  · exact hnot (c := '\n') (by simp) (by decide)

end JniBindings
