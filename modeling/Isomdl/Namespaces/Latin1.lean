import Isomdl.Namespaces.Elements

/-!
# Strings of the Latin alphabet (`definitions/namespaces/latin1.rs`)

A `Latin1` has up to 150 characters of ISO/IEC 8859-1.  The code counts the bytes of the string,
and a character of the upper range has two of them.

* `utf8ByteSize_of_latin`     the bytes of a string of Latin characters;
* `fromStr_eq_ok_iff`         which strings are accepted, and that they stay as they are;
* `fromStr_documented_iff`    they are the documented ones, but for strings of many upper characters.
-/

namespace Isomdl

/-- a character of the printable ranges of ISO 8859-1 -/
def Printable (c : Char) : Prop :=
  0x20 ≤ c.toNat ∧ c.toNat ≤ 0x7E ∨ 0xA0 ≤ c.toNat ∧ c.toNat ≤ 0xFF

theorem isLatin_iff (c : Char) : isLatin c = true ↔ Printable c := by
  simp only [isLatin, isLowerLatin, isUpperLatin, Printable, Bool.or_eq_true, Bool.and_eq_true,
    decide_eq_true_eq]
  omega

theorem nonLatin_eq_nil_iff (s : String) : nonLatin s = [] ↔ ∀ c ∈ s.toList, Printable c := by
  rw [nonLatin, List.filter_eq_nil_iff]
  simp only [← isLatin_iff, Bool.not_eq_true', Bool.not_eq_false]

/-! ## bytes and characters -/

theorem utf8ByteSize_ofList (l : List Char) :
    (String.ofList l).utf8ByteSize = (l.map Char.utf8Size).sum := by
  induction l with
  | nil => rfl
  | cons c l ih =>
    have hcons : String.ofList (c :: l) = String.singleton c ++ String.ofList l := by
      rw [← String.toList_inj, String.toList_append, String.toList_ofList, String.toList_ofList,
        String.toList_singleton]
      rfl
    rw [hcons, String.utf8ByteSize_append, String.utf8ByteSize_singleton, ih, List.map_cons,
      List.sum_cons]

/-- the characters of the upper range -/
def upperCount (s : String) : Nat := s.toList.countP isUpperLatin

theorem utf8Size_of_printable {c : Char} (h : Printable c) :
    c.utf8Size = 1 + if isUpperLatin c then 1 else 0 := by
  have hone : c.val ≤ 0x7F ↔ c.toNat ≤ 0x7F := UInt32.le_iff_toNat_le
  have htwo : c.val ≤ 0x7FF ↔ c.toNat ≤ 0x7FF := UInt32.le_iff_toNat_le
  have hupper : isUpperLatin c = true ↔ 0xA0 ≤ c.toNat ∧ c.toNat < 0x100 := by simp [isUpperLatin]
  show (if c.val ≤ 0x7F then 1 else if c.val ≤ 0x7FF then 2 else _) = _
  rcases h with h | h
  · rw [if_pos (hone.mpr (by omega)), if_neg (by rw [hupper]; omega)]
  · rw [if_neg (by rw [hone]; omega), if_pos (htwo.mpr (by omega)), if_pos (hupper.mpr (by omega))]

/-- **A character of the upper range has two bytes, the other ones have one.** -/
theorem utf8ByteSize_of_latin {s : String} (h : ∀ c ∈ s.toList, Printable c) :
    s.utf8ByteSize = s.length + upperCount s := by
  have hsum : ∀ l : List Char, (∀ c ∈ l, Printable c) →
      (l.map Char.utf8Size).sum = l.length + l.countP isUpperLatin := by
    intro l
    induction l with
    | nil => exact fun _ => rfl
    | cons c l ih =>
      intro hl
      rw [List.forall_mem_cons] at hl
      rw [List.map_cons, List.sum_cons, ih hl.2, utf8Size_of_printable hl.1, List.length_cons,
        List.countP_cons]
      omega
  rw [← String.ofList_toList (s := s), utf8ByteSize_ofList, String.ofList_toList, hsum _ h,
    upperCount, String.length_toList]

/-! ## construction -/

namespace Latin1

theorem fromStr_eq_ok_iff {s : String} {l : Latin1} :
    fromStr s = .ok l ↔ l.text = s ∧ s.utf8ByteSize ≤ 150 ∧ ∀ c ∈ s.toList, Printable c := by
  rw [← nonLatin_eq_nil_iff]
  constructor
  · intro h
    rw [fromStr] at h
    split at h
    · next hshort =>
      split at h
      · next hlatin =>
        cases h
        exact ⟨rfl, hshort, hlatin⟩
      · cases h
    · cases h
  · rintro ⟨rfl, hshort, hlatin⟩
    rw [fromStr, dif_pos hshort, dif_pos hlatin]

/-- **The strings that are accepted are the documented ones, but for those that have at most 150
characters and more than 150 bytes.** -/
theorem fromStr_documented_iff (s : String) :
    (((∃ l, fromStr s = .ok l) ↔ s.length ≤ 150 ∧ ∀ c ∈ s.toList, Printable c) ∧
      ∀ l, fromStr s = .ok l → l.text = s) ↔
    ¬ ((∀ c ∈ s.toList, Printable c) ∧ s.length ≤ 150 ∧ 150 < s.length + upperCount s) := by
  have haccepted : (∃ l, fromStr s = .ok l) ↔
      (∀ c ∈ s.toList, Printable c) ∧ s.length + upperCount s ≤ 150 := by
    constructor
    · rintro ⟨l, hl⟩
      obtain ⟨-, hshort, hlatin⟩ := fromStr_eq_ok_iff.mp hl
      rw [utf8ByteSize_of_latin hlatin] at hshort
      exact ⟨hlatin, hshort⟩
    · rintro ⟨hlatin, hshort⟩
      rw [← utf8ByteSize_of_latin hlatin] at hshort
      exact ⟨⟨s, hshort, (nonLatin_eq_nil_iff s).mpr hlatin⟩,
        fromStr_eq_ok_iff.mpr ⟨rfl, hshort, hlatin⟩⟩
  rw [haccepted]
  constructor
  · rintro ⟨hexact, -⟩ ⟨hlatin, hchars, hbytes⟩
    have hshort := (hexact.mpr ⟨hchars, hlatin⟩).2
    omega
  · intro hnot
    refine ⟨⟨fun h => ⟨by omega, h.1⟩, fun h => ⟨h.2, ?_⟩⟩, fun l hl => (fromStr_eq_ok_iff.mp hl).1⟩
    by_contra hbytes
    exact hnot ⟨h.2, h.1, by omega⟩

/-- 76 umlauts are too many. -/
theorem umlauts_refused :
    (String.ofList (List.replicate 76 'ä')).length ≤ 150 ∧
    (∀ c ∈ (String.ofList (List.replicate 76 'ä')).toList, Printable c) ∧
    fromStr (String.ofList (List.replicate 76 'ä')) = .error (.TooLong 152) := by
  have hlatin : ∀ c ∈ (String.ofList (List.replicate 76 'ä')).toList, Printable c := by
    intro c hc
    rw [String.toList_ofList] at hc
    rw [List.eq_of_mem_replicate hc, Printable]
    decide
  have hsize : (String.ofList (List.replicate 76 'ä')).utf8ByteSize = 152 := by
    have hupper : isUpperLatin 'ä' = true := by decide
    rw [utf8ByteSize_of_latin hlatin, upperCount, String.toList_ofList, List.countP_replicate,
      if_pos hupper, String.length_ofList, List.length_replicate]
  have hchars : (String.ofList (List.replicate 76 'ä')).length = 76 := by
    rw [String.length_ofList, List.length_replicate]
  refine ⟨by omega, hlatin, ?_⟩
  rw [fromStr, dif_neg (by rw [hsize]; decide), hsize]

end Latin1

end Isomdl
