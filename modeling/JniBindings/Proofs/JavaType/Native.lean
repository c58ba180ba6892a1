import JniBindings.JavaType.Native
import JniBindings.Proofs.JavaType.Descriptor
import Mathlib.Tactic.SplitIfs
/-!
# Types and their native types

The native type of a Java type says whether the type is primitive and which primitive type it is.
All other handles are cast unless they are bare objects.
-/

namespace JniBindings

/-- Every handle is cast, except for bare objects. -/
theorem needsCast_name_iff (n : NativeType) :
    needsCast n.name ↔ (∀ p, n ≠ .scalar p) ∧ n ≠ .object := by
  cases n with
  | scalar p => exact iff_of_false (by cases p <;> decide) fun h => h.1 p rfl
  | scalarArray p => exact iff_of_true (by cases p <;> decide) ⟨nofun, nofun⟩
  | objectArray | string | classObject | throwable =>
    exact iff_of_true (by decide) ⟨nofun, nofun⟩
  | object => exact iff_of_false (by decide) fun h => h.2 rfl

namespace JavaType

/-- The native type of a primitive type, and of no other, is that of a scalar. -/
theorem native_eq_scalar_iff {t : JavaType} {n : NativeType} (h : t.native = .ok n)
    (p : Primitive) : n = .scalar p ↔ t = primitive p := by
  cases t with
  | primitive q =>
    obtain rfl := Except.ok.inj h
    simp
  | array component =>
    refine iff_of_false ?_ nofun
    rintro rfl
    cases component with
    | primitive q => cases q <;> cases h
    | array | declared | null => cases h
  | declared name =>
    refine iff_of_false ?_ nofun
    rintro rfl
    have hname := Except.ok.inj h
    unfold classNative at hname
    split_ifs at hname
  | null => cases h

theorem isPrimitive_iff {t : JavaType} : t.isPrimitive ↔ ∃ p, t = primitive p := by
  cases t <;> simp [isPrimitive]

/-- What is cast can be told from the type. -/
theorem needsCast_iff {t : JavaType} {n : NativeType} (h : t.native = .ok n) :
    needsCast n.name ↔ ¬ t.isPrimitive ∧ n ≠ .object := by
  rw [needsCast_name_iff, isPrimitive_iff, not_exists]
  exact and_congr_left fun _ => forall_congr' fun p => not_congr (native_eq_scalar_iff h p)

/-! ### Names of classes -/

/-- If the type is made from a class, the name of the class has a given property. -/
def NamesHave (p : String → Prop) : JavaType → Prop
  | primitive _ => True
  | array component => component.NamesHave p
  | declared name => p name
  | null => True

theorem hasNames_iff {p : String → Prop} {t : JavaType} :
    t.HasNames p ↔ t.isDescribable ∧ t.NamesHave p := by
  constructor
  · intro h
    refine ⟨isDescribable_of_hasNames h, ?_⟩
    induction t with
    | primitive | null => trivial
    | array component ih => exact ih h
    | declared name => exact h
  · rintro ⟨hd, hp⟩
    induction t with
    | primitive => trivial
    | array component ih => exact ih hd hp
    | declared name => exact hp
    | null => exact absurd hd (by decide)

end JavaType

end JniBindings
