import JniBindings.Constant
import JniBindings.Proofs.Cpp.IntegerConstant
/-!
# Values of constants

A constant of an integer type has the value of its field, as a compiler reads its literal, if this
value lies in the range of the type; otherwise a zero stands in for it
(`Field.integer_constant_hasValue`). The value of a constant of type `char` can also come from a
text. It is kept if it is the code point of a character, so that surrogates are lost, and characters
that a `char` cannot hold are kept (`Field.char_constant_hasValue`,
`Field.exists_char_constant_not_codeUnit`).
-/

namespace JniBindings

namespace ConstantValue

/-- The integer that a value stands for. Truth values stand for zero and one. -/
inductive IsInteger : ConstantValue → Int → Prop
  | false : IsInteger (.boolean false) 0
  | true : IsInteger (.boolean true) 1
  | int (n : Int32) : IsInteger (.int n) n.toInt
  | long (n : Int64) : IsInteger (.long n) n.toInt

/-- The number of the character that a value stands for, as the only one of a text or as an integer,
which need not be that of a character. -/
inductive IsCharacter : ConstantValue → Int → Prop
  | text (c : Char) : IsCharacter (.string (String.singleton c)) c.toNat
  | integer {v : ConstantValue} {n : Int} (h : v.IsInteger n) : IsCharacter v n

end ConstantValue

/-- The least and the largest value of an integer type. -/
def Primitive.integerRange? : Primitive → Option (Int × Int)
  | .byte => some (-128, 127)
  | .short => some (-32768, 32767)
  | .int => some (-2147483648, 2147483647)
  | .long => some (-9223372036854775808, 9223372036854775807)
  | _ => none

/-- The number is a surrogate, which is a code unit, but no code point of a character. -/
def IsSurrogate (n : Int) : Prop := 0xd800 ≤ n ∧ n ≤ 0xdfff

instance (n : Int) : Decidable (IsSurrogate n) := inferInstanceAs (Decidable (_ ∧ _))

/-- The literal of a constant has a value, and nothing is remarked about it. -/
structure Constant.HasValue (k : Constant) (n : Int) : Prop where
  literal : Cpp.IsIntegerConstant k.literal n
  remark : k.remark = none

/-- A zero stands in for the value of a constant, and there is a remark that says so. -/
structure Constant.IsStandIn (k : Constant) (field : String) : Prop where
  literal : k.literal = "0"
  remark : k.remark = some ("Unknown constant value for '" ++ field ++ "'")

/-! ### Integers -/

namespace ConstantValue

variable {v : ConstantValue} {n : Int}

theorem integer?_eq_some_iff : v.integer? = some n ↔ v.IsInteger n := by
  constructor
  · intro h
    cases v with
    | boolean b =>
      cases b with
      | false => exact Option.some.inj h ▸ .false
      | true => exact Option.some.inj h ▸ .true
    | int m => exact Option.some.inj h ▸ .int m
    | long m => exact Option.some.inj h ▸ .long m
    | double x => cases h
    | string s => cases h
  · rintro (_ | _ | _ | _) <;> rfl

/-- All integers that a value can stand for have a place in the largest type. -/
theorem IsInteger.inRange (h : v.IsInteger n) :
    -9223372036854775808 ≤ n ∧ n ≤ 9223372036854775807 := by
  cases h with
  | false => decide
  | true => decide
  | int m =>
    have hlow := m.le_toInt
    have hhigh := m.toInt_lt
    omega
  | long m =>
    have hlow := m.le_toInt
    have hhigh := m.toInt_lt
    omega

theorem between?_eq_some (h : v.IsInteger n) {low high : Int} (hlow : low ≤ n) (hhigh : n ≤ high) :
    v.between? low high = some n := by
  rw [between?, integer?_eq_some_iff.2 h]
  simp [hlow, hhigh]

theorem between?_eq_none {low high : Int} (h : ∀ n, v.IsInteger n → ¬ (low ≤ n ∧ n ≤ high)) :
    v.between? low high = none := by
  rw [between?, Option.filter_eq_none_iff]
  intro n hn hbetween
  rw [Bool.and_eq_true, decide_eq_true_eq, decide_eq_true_eq] at hbetween
  exact h n (integer?_eq_some_iff.1 hn) hbetween

theorem between?_eq_integer? :
    v.between? (-9223372036854775808) 9223372036854775807 = v.integer? := by
  cases hv : v.integer? with
  | none => rw [between?, hv, Option.filter_none]
  | some n =>
    have hn := integer?_eq_some_iff.1 hv
    exact between?_eq_some hn hn.inRange.1 hn.inRange.2

/-- The literals of an integer type are written for the integers in its range. -/
theorem exists_literal?_eq {p : Primitive} {low high : Int}
    (hp : p.integerRange? = some (low, high)) :
    ∃ write : Int → String, (∀ n, low ≤ n → n ≤ high → Cpp.IsIntegerConstant (write n) n)
      ∧ ∀ v : ConstantValue, v.literal? p = (v.between? low high).map write := by
  cases p with
  | byte =>
    cases hp
    exact ⟨toString, fun n hlow hhigh => Cpp.isIntegerConstant_int (by omega) (by omega),
      fun v => rfl⟩
  | short =>
    cases hp
    exact ⟨toString, fun n hlow hhigh => Cpp.isIntegerConstant_int (by omega) (by omega),
      fun v => rfl⟩
  | int =>
    cases hp
    exact ⟨_, fun n => Cpp.isIntegerConstant_intLiteral, fun v => rfl⟩
  | long =>
    cases hp
    refine ⟨_, fun n => Cpp.isIntegerConstant_longLiteral, fun v => ?_⟩
    rw [between?_eq_integer?]
    rfl
  | _ => cases hp

/-! ### Characters -/

theorem char?_of_isCharacter (h : v.IsCharacter n) :
    v.char? = if 0 ≤ n ∧ n.toNat.isValidChar then some (Char.ofNat n.toNat) else none := by
  cases h with
  | text c =>
    have hvalid : c.toNat.isValidChar := c.valid
    have hchar : char? (.string (String.singleton c)) = some c := by
      simp [char?]
    rw [hchar, Int.toNat_natCast, if_pos ⟨Int.natCast_nonneg _, hvalid⟩, Char.ofNat_toNat]
  | integer h => cases h <;> rfl

theorem char?_eq_none (h : ∀ n, ¬ v.IsCharacter n) : v.char? = none := by
  cases v with
  | boolean b => cases b with
    | false => exact absurd (.integer .false) (h 0)
    | true => exact absurd (.integer .true) (h 1)
  | int m => exact absurd (.integer (.int m)) (h _)
  | long m => exact absurd (.integer (.long m)) (h _)
  | double x => rfl
  | string s =>
    rw [char?]
    split
    · next c hc =>
      have hs : s = String.singleton c := by
        rw [← String.toList_inj, hc, String.toList_singleton]
      subst hs
      exact absurd (.text c) (h _)
    · rfl

end ConstantValue

namespace Field

variable {f : Field} {p : Primitive}

section Typed

variable (htype : f.type = .primitive p)
include htype

theorem literal?_eq : f.literal? = f.constant.bind (·.literal? p) := by
  rw [literal?, htype]
  rfl

theorem hasValue_toConstant {v : ConstantValue} {literal : String} {n : Int}
    (hv : f.constant = some v) (hliteral : v.literal? p = some literal)
    (hn : Cpp.IsIntegerConstant literal n) (name : String) : (f.toConstant name).HasValue n := by
  have hf : f.literal? = some literal := by rw [literal?_eq htype, hv, Option.bind_some, hliteral]
  rw [toConstant, hf]
  exact ⟨hn, rfl⟩

theorem isStandIn_toConstant (hp : p ≠ .boolean) (h : ∀ v ∈ f.constant, v.literal? p = none)
    (name : String) : (f.toConstant name).IsStandIn f.name := by
  have hf : f.literal? = none := by
    rw [literal?_eq htype, Option.bind_eq_none_iff]
    exact h
  have hzero : f.standIn = "0" := by
    rw [standIn, htype]
    cases p with
    | boolean => exact absurd rfl hp
    | _ => rfl
  rw [toConstant, hf]
  exact ⟨hzero, rfl⟩

end Typed

/-- A constant of an integer type has the value of its field if this is an integer in the range of
the type. In all other cases a zero stands in for it. -/
theorem integer_constant_hasValue {low high : Int} (htype : f.type = .primitive p)
    (hp : p.integerRange? = some (low, high)) (name : String) :
    (∀ v n, f.constant = some v → v.IsInteger n → low ≤ n → n ≤ high →
        (f.toConstant name).HasValue n)
      ∧ ((∀ v n, f.constant = some v → v.IsInteger n → ¬ (low ≤ n ∧ n ≤ high)) →
        (f.toConstant name).IsStandIn f.name) := by
  obtain ⟨write, hwrite, hliteral⟩ := ConstantValue.exists_literal?_eq hp
  constructor
  · intro v n hv hn hlow hhigh
    refine hasValue_toConstant htype hv ?_ (hwrite n hlow hhigh) name
    rw [hliteral, ConstantValue.between?_eq_some hn hlow hhigh]
    rfl
  · intro h
    have hboolean : p ≠ .boolean := by
      rintro rfl
      cases hp
    refine isStandIn_toConstant htype hboolean (fun v hv => ?_) name
    rw [hliteral, ConstantValue.between?_eq_none (h v · hv)]
    rfl

/-- A constant with a value. -/
def constantOf (p : Primitive) (v : ConstantValue) : Field :=
  { declaringClass := "a.B", name := "K", type := .primitive p,
    modifiers := .ofList [.isStatic, .isFinal], constant := some v }

/-- The least value of `long` is kept, and a `byte` cannot have the value 300. -/
theorem integer_constant_hasValue_least :
    ((constantOf .long (.long Int64.minValue)).toConstant "K").HasValue (-9223372036854775808)
      ∧ ((constantOf .byte (.int 300)).toConstant "K").IsStandIn "K" := by
  refine ⟨(integer_constant_hasValue rfl rfl "K").1 _ _ rfl (.long Int64.minValue) (by decide)
    (by decide), (integer_constant_hasValue (p := .byte) rfl rfl "K").2 ?_⟩
  rintro v n hv hn ⟨-, hhigh⟩
  obtain rfl := Option.some.inj hv
  cases hn
  exact absurd hhigh (by decide)

/-- A constant of type `char` has the value of its field if this is the code unit of a character.
The value is lost if it is a surrogate, and kept if it is the code point of a character that has no
code unit. In all other cases a zero stands in for it. -/
theorem char_constant_hasValue (htype : f.type = .primitive .char) (name : String) :
    (∀ v n, f.constant = some v → v.IsCharacter n →
        (0 ≤ n → n ≤ 0xffff → ¬ IsSurrogate n → (f.toConstant name).HasValue n)
        ∧ (IsSurrogate n → (f.toConstant name).IsStandIn f.name)
        ∧ (0xffff < n → n ≤ 0x10ffff → (f.toConstant name).HasValue n)
        ∧ (n < 0 ∨ 0x10ffff < n → (f.toConstant name).IsStandIn f.name))
      ∧ ((∀ v n, f.constant = some v → ¬ v.IsCharacter n) →
        (f.toConstant name).IsStandIn f.name) := by
  have hnone (h : ∀ v ∈ f.constant, v.char? = none) : (f.toConstant name).IsStandIn f.name :=
    isStandIn_toConstant htype (by decide) (fun v hv => by rw [ConstantValue.literal?, h v hv]; rfl)
      name
  refine ⟨fun v n hv hn => ?_, fun h => hnone fun v hv => ConstantValue.char?_eq_none (h v · hv)⟩
  have hchar := ConstantValue.char?_of_isCharacter hn
  have hkept (h : 0 ≤ n ∧ n.toNat.isValidChar) : (f.toConstant name).HasValue n := by
    rw [if_pos h] at hchar
    have hnumber : (Char.ofNat n.toNat).toNat = n.toNat :=
      congrArg Char.toNat (dif_pos h.2 : _ = Char.ofNatAux n.toNat h.2)
    have hvalue := Cpp.isIntegerConstant_charLiteral (Char.ofNat n.toNat)
    rw [hnumber, Int.toNat_of_nonneg h.1] at hvalue
    exact hasValue_toConstant htype hv (by rw [ConstantValue.literal?, hchar]; rfl) hvalue name
  have hlost (h : ¬ (0 ≤ n ∧ n.toNat.isValidChar)) : (f.toConstant name).IsStandIn f.name := by
    rw [if_neg h] at hchar
    refine hnone fun w hw => ?_
    obtain rfl : v = w := Option.some.inj (hv.symm.trans hw)
    exact hchar
  simp only [IsSurrogate, Nat.isValidChar] at hkept hlost ⊢
  refine ⟨fun hlow hhigh hn => hkept ?_, fun hn => hlost ?_, fun hlow hhigh => hkept ?_,
    fun hn => hlost ?_⟩
  all_goals omega

/-- A backslash is kept, and a surrogate is lost. -/
theorem char_constant_hasValue_backslash :
    ((constantOf .char (.string "\\")).toConstant "K").HasValue 92
      ∧ ((constantOf .char (.int 0xdc00)).toConstant "K").IsStandIn "K" := by
  have hsurrogate : IsSurrogate 0xdc00 := by decide
  have hbackslash : ¬ IsSurrogate 92 := by decide
  exact ⟨((char_constant_hasValue rfl "K").1 _ _ rfl (.text '\\')).1 (by decide) (by decide)
      hbackslash,
    ((char_constant_hasValue rfl "K").1 _ _ rfl (.integer (.int 0xdc00))).2.1 hsurrogate⟩

/-- A surrogate is a code unit, but is no value of a constant. The code point of a character above
U+FFFF is none, but is the value of a constant, for which it is too large. -/
theorem exists_char_constant_not_codeUnit :
    ((ConstantValue.int 0xd800).IsInteger 0xd800
        ∧ ((constantOf .char (.int 0xd800)).toConstant "K").IsStandIn "K"
        ∧ ¬ ((constantOf .char (.int 0xd800)).toConstant "K").HasValue 0xd800)
      ∧ ((ConstantValue.int 0x1f600).IsInteger 0x1f600
        ∧ ((constantOf .char (.int 0x1f600)).toConstant "K").HasValue 0x1f600)
      ∧ ((constantOf .char (.string (String.singleton (Char.ofNat 0x1f600)))).toConstant
        "K").HasValue 0x1f600 := by
  have hlost : ((constantOf .char (.int 0xd800)).toConstant "K").IsStandIn "K" :=
    isStandIn_toConstant rfl (by decide)
      (fun v hv => by obtain rfl := Option.some.inj hv; rfl) "K"
  have hvalue := Cpp.isIntegerConstant_charLiteral (Char.ofNat 0x1f600)
  refine ⟨⟨.int _, hlost, fun h => ?_⟩, ⟨.int _, hasValue_toConstant rfl rfl rfl hvalue "K"⟩,
    hasValue_toConstant rfl rfl rfl hvalue "K"⟩
  have hremark := hlost.remark
  rw [h.remark] at hremark
  cases hremark

end Field

end JniBindings
