import Isomdl.Decoding
import Isomdl.Definitions.DeviceEngagement
import Isomdl.Reference

/-!
# The lengths of NFC options (`definitions/device_engagement/nfc_options.rs`)

The two lengths have constructors that check both ends of their ranges, and a decoder of their
own.  The decoder does not look at the upper end of the response length.

* `getElem?_integerMap`       a map with integer keys, where the last entry counts;
* `tryFrom_isOk_iff`          which values the decoder accepts;
* `tryFrom_inRange_iff`       it accepts the options in range alone, except from 65537 on;
* `fromSlice_toVec`           options in range read back.
-/

set_option linter.unusedSectionVars false

namespace Isomdl

open Cbor
open DeviceEngagement (Error)

/-! ## the checked constructors -/

def CommandDataLength.MIN : Nat := 255
def CommandDataLength.MAX : Nat := 65535

theorem CommandDataLength.bounds {v : UInt16}
    (h : CommandDataLength.MIN ≤ v.toNat ∧ v.toNat ≤ CommandDataLength.MAX) :
    255 ≤ v.toNat ∧ v.toNat < 2 ^ 16 :=
  ⟨h.1, v.toNat_lt⟩

/-- `CommandDataLength::new` -/
def CommandDataLength.new (v : UInt16) : Option CommandDataLength :=
  if h : MIN ≤ v.toNat ∧ v.toNat ≤ MAX then some ⟨v.toNat, bounds h⟩ else none

def ResponseDataLength.MIN : Nat := 256
def ResponseDataLength.MAX : Nat := 65536

theorem ResponseDataLength.bounds {v : UInt32}
    (h : ResponseDataLength.MIN ≤ v.toNat ∧ v.toNat ≤ ResponseDataLength.MAX) :
    256 ≤ v.toNat ∧ v.toNat < 2 ^ 32 :=
  ⟨h.1, v.toNat_lt⟩

/-- `ResponseDataLength::new` -/
def ResponseDataLength.new (v : UInt32) : Option ResponseDataLength :=
  if h : MIN ≤ v.toNat ∧ v.toNat ≤ MAX then some ⟨v.toNat, bounds h⟩ else none

/-- a constructor that checks both ends makes the lengths up to the upper end -/
theorem exists_checked_iff {V : Type} {toNat : V → Nat} {lo hi bound : Nat}
    (bounds : ∀ {v}, lo ≤ toNat v ∧ toNat v ≤ hi → lo ≤ toNat v ∧ toNat v < bound)
    (n : {n : Nat // lo ≤ n ∧ n < bound}) (hfits : ∃ v, toNat v = n.1) :
    (∃ v, (if h : lo ≤ toNat v ∧ toNat v ≤ hi then some ⟨toNat v, bounds h⟩ else none) = some n) ↔
      n.1 ≤ hi := by
  constructor
  · rintro ⟨v, hv⟩
    split at hv
    · next h =>
      cases hv
      exact h.2
    · cases hv
  · intro h
    obtain ⟨v, hn⟩ := hfits
    refine ⟨v, ?_⟩
    rw [dif_pos ⟨by rw [hn]; exact n.2.1, by rw [hn]; exact h⟩]
    exact congrArg some (Subtype.ext hn)

theorem CommandDataLength.exists_new_iff (n : CommandDataLength) :
    (∃ v, new v = some n) ↔ n.1 ≤ MAX :=
  exists_checked_iff bounds n ⟨UInt16.ofNat n.1, UInt16.toNat_ofNat_of_lt n.2.2⟩

theorem ResponseDataLength.exists_new_iff (n : ResponseDataLength) :
    (∃ v, new v = some n) ↔ n.1 ≤ MAX :=
  exists_checked_iff bounds n ⟨UInt32.ofNat n.1, UInt32.toNat_ofNat_of_lt n.2.2⟩

/-! ## maps with integer keys -/

/-- the last entry with an integer key -/
abbrev lastAt? : List (Value × Value) → Int → Option Value := BTreeMap.lastBy Value.int?

theorem integerKeys_forall₂ {E : Type} {e : E} {entries : List (Value × Value)}
    {out : List (Int × Value)} (h : integerKeys e entries = .ok out) :
    List.Forall₂ (fun e o => e.1.int? = some o.1 ∧ e.2 = o.2) entries out := by
  induction entries generalizing out with
  | nil =>
    cases h
    exact .nil
  | cons entry entries ih =>
    obtain ⟨a, v⟩ := entry
    rw [integerKeys] at h
    cases ha : a.int? with
    | none =>
      rw [ha] at h
      cases h
    | some i =>
      rw [ha] at h
      obtain ⟨rest, hrest, h⟩ := bind_eq_ok h
      cases h
      exact .cons ⟨ha, rfl⟩ (ih hrest)

theorem integerKeys_isOk_iff {E : Type} {e : E} {entries : List (Value × Value)} :
    (∃ out, integerKeys e entries = .ok out) ↔ ∀ entry ∈ entries, ∃ i, entry.1.int? = some i := by
  induction entries with
  | nil => simp [integerKeys]
  | cons entry entries ih =>
    obtain ⟨a, v⟩ := entry
    rw [List.forall_mem_cons, ← ih]
    cases ha : a.int? with
    | none => simp [integerKeys, ha]
    | some i =>
      constructor
      · rintro ⟨out, h⟩
        rw [integerKeys, ha] at h
        obtain ⟨rest, hrest, -⟩ := bind_eq_ok h
        exact ⟨⟨i, rfl⟩, rest, hrest⟩
      · rintro ⟨-, rest, hrest⟩
        refine ⟨(i, v) :: rest, ?_⟩
        rw [integerKeys, ha]
        show (integerKeys e entries >>= fun rest => .ok ((i, v) :: rest)) = _
        rw [hrest]
        rfl

theorem integerMap_isOk_iff {entries : List (Value × Value)} :
    (∃ map, integerMap entries = .ok map) ↔
      ∀ entry ∈ entries, ∃ i, entry.1.int? = some i := by
  rw [← integerKeys_isOk_iff (e := Error.cborError), integerMap]
  cases integerKeys Error.cborError entries with
  | error e => simp [Functor.map, Except.map]
  | ok out => simp [Functor.map, Except.map]

theorem getElem?_integerMap {entries : List (Value × Value)} {map : BTreeMap Int Value}
    (h : integerMap entries = .ok map) (k : Int) : map[k]? = lastAt? entries k := by
  obtain ⟨out, hout, rfl⟩ := map_eq_ok h
  exact BTreeMap.getElem?_ofList_eq_lastBy (integerKeys_forall₂ hout) k

/-! ## what the decoder accepts -/

/-- an integer in a range -/
def IntegerIn (lo hi : Int) (o : Option Value) : Prop :=
  ∃ i : Int, o.bind Value.int? = some i ∧ lo ≤ i ∧ i ≤ hi

/-- options whose response length is an integer from `lo` to `hi`: a map with integer keys, where
the last entry counts when a key repeats -/
def OptionsBetween (lo hi : Int) (v : Value) : Prop :=
  ∃ entries, v = .map entries ∧ (∀ entry ∈ entries, ∃ i, entry.1.int? = some i) ∧
    IntegerIn 255 65535 (lastAt? entries 0) ∧ IntegerIn lo hi (lastAt? entries 1)

theorem lengthOfValue_eq_ok_iff {lo bound : Nat} {e : Error} {v : Value}
    {n : {n : Nat // lo ≤ n ∧ n < bound}} :
    lengthOfValue lo bound e v = .ok n ↔ v.int? = some (n.1 : Int) := by
  obtain ⟨n, hn⟩ := n
  rw [lengthOfValue]
  cases v.int? with
  | none => simp
  | some i =>
    rw [Option.some.injEq]
    show (if hi : 0 ≤ i ∧ i < bound then _ else _) = _ ↔ i = (n : Int)
    split
    · next hi =>
      split
      · rw [Except.ok.injEq, Subtype.mk.injEq]
        omega
      · next hlo =>
        constructor
        · intro h
          cases h
        · omega
    · next hi =>
      constructor
      · intro h
        cases h
      · omega

theorem requiredEntry_eq_ok_iff {lo bound : Nat} {e f : Error} {o : Option Value}
    {n : {n : Nat // lo ≤ n ∧ n < bound}} :
    requiredEntry e (lengthOfValue lo bound f) o = .ok n ↔
      o.bind Value.int? = some (n.1 : Int) := by
  cases o with
  | none => simp [requiredEntry]
  | some v =>
    rw [requiredEntry, lengthOfValue_eq_ok_iff]
    rfl

theorem OptionsBetween.mono {lo lo' hi hi' : Int} {v : Value} (h : OptionsBetween lo hi v)
    (hlo : lo' ≤ lo) (hhi : hi ≤ hi') : OptionsBetween lo' hi' v := by
  obtain ⟨entries, hv, hkeys, hc, i, hi, h1, h2⟩ := h
  exact ⟨entries, hv, hkeys, hc, i, hi, by omega, by omega⟩

namespace NfcOptions

/-- **What the decoder returns.** -/
theorem tryFrom_eq_ok_iff {v : Value} {o : NfcOptions} :
    tryFrom v = .ok o ↔ ∃ entries, v = .map entries ∧
      (∀ entry ∈ entries, ∃ i, entry.1.int? = some i) ∧
      (lastAt? entries 0).bind Value.int? = some (o.maxLenCommandDataField.1 : Int) ∧
      (lastAt? entries 1).bind Value.int? = some (o.maxLenResponseDataField.1 : Int) := by
  constructor
  · intro h
    cases v with
    | map entries =>
      obtain ⟨map, hmap, h⟩ := bind_eq_ok h
      obtain ⟨c, hc, h⟩ := bind_eq_ok h
      obtain ⟨r, hr, h⟩ := bind_eq_ok h
      cases h
      rw [getElem?_integerMap hmap] at hc hr
      exact ⟨entries, rfl, integerMap_isOk_iff.mp ⟨map, hmap⟩, requiredEntry_eq_ok_iff.mp hc,
        requiredEntry_eq_ok_iff.mp hr⟩
    | _ => cases h
  · rintro ⟨entries, rfl, hkeys, hc, hr⟩
    obtain ⟨map, hmap⟩ := integerMap_isOk_iff.mpr hkeys
    rw [← getElem?_integerMap hmap] at hc hr
    have hc' := requiredEntry_eq_ok_iff (e := .invalidNfcOptions)
      (f := .invalidNfcCommandDataLengthError).mpr hc
    have hr' := requiredEntry_eq_ok_iff (e := .invalidNfcOptions)
      (f := .invalidNfcResponseDataLengthError).mpr hr
    rw [tryFrom, hmap, ok_bind, CommandDataLength.ofValue, hc', ok_bind, ResponseDataLength.ofValue,
      hr', ok_bind]

/-- both lengths are ones that the constructors make -/
def Checked (o : NfcOptions) : Prop :=
  (∃ v, CommandDataLength.new v = some o.maxLenCommandDataField) ∧
    ∃ v, ResponseDataLength.new v = some o.maxLenResponseDataField

theorem checked_iff {o : NfcOptions} : o.Checked ↔ o.maxLenResponseDataField.1 ≤ 65536 := by
  rw [Checked, CommandDataLength.exists_new_iff, ResponseDataLength.exists_new_iff]
  have h := o.maxLenCommandDataField.2
  constructor
  · exact fun h => h.2
  · exact fun hr => ⟨Nat.le_of_lt_succ h.2, hr⟩

theorem optionsBetween_of_tryFrom {v : Value} {o : NfcOptions} (h : tryFrom v = .ok o) {lo hi : Int} :
    OptionsBetween lo hi v ↔
      lo ≤ o.maxLenResponseDataField.1 ∧ (o.maxLenResponseDataField.1 : Int) ≤ hi := by
  obtain ⟨entries, rfl, hkeys, hc, hr⟩ := tryFrom_eq_ok_iff.mp h
  have hlen := o.maxLenCommandDataField.2
  constructor
  · rintro ⟨_, heq, -, -, i, hi, hlo, hhi⟩
    cases heq
    rw [hr] at hi
    cases hi
    exact ⟨hlo, hhi⟩
  · intro hbounds
    exact ⟨entries, rfl, hkeys, ⟨_, hc, by omega, by omega⟩, ⟨_, hr, hbounds⟩⟩

/-- **What the decoder accepts: any response length of 32 bits from 256 on.** -/
theorem tryFrom_isOk_iff {v : Value} :
    (∃ o, tryFrom v = .ok o) ↔ OptionsBetween 256 (2 ^ 32 - 1) v := by
  constructor
  · rintro ⟨o, ho⟩
    rw [optionsBetween_of_tryFrom ho]
    have hlen := o.maxLenResponseDataField.2
    omega
  · rintro ⟨entries, rfl, hkeys, ⟨c, hc, hclo, hchi⟩, r, hr, hrlo, hrhi⟩
    refine ⟨⟨⟨c.toNat, by omega, by omega⟩, ⟨r.toNat, by omega, by omega⟩⟩,
      tryFrom_eq_ok_iff.mpr ⟨entries, rfl, hkeys, ?_, ?_⟩⟩
    · rw [hc, Int.toNat_of_nonneg (by omega)]
    · rw [hr, Int.toNat_of_nonneg (by omega)]

/-- **The decoder accepts exactly the options in range, and what it returns is in range, for all
values but the options with a response length from 65537 on.** -/
theorem tryFrom_inRange_iff (v : Value) :
    (((∃ o, tryFrom v = .ok o) ↔ OptionsBetween 256 65536 v) ∧
      ∀ o, tryFrom v = .ok o → o.Checked) ↔ ¬ OptionsBetween 65537 (2 ^ 32 - 1) v := by
  constructor
  · rintro ⟨hexact, -⟩ hlong
    obtain ⟨o, ho⟩ := tryFrom_isOk_iff.mpr (hlong.mono (by omega) (by omega))
    have hshort := hexact.mp ⟨o, ho⟩
    rw [optionsBetween_of_tryFrom ho] at hlong hshort
    omega
  · intro hnot
    have hchecked : ∀ o, tryFrom v = .ok o → o.Checked := by
      intro o ho
      rw [optionsBetween_of_tryFrom ho] at hnot
      rw [checked_iff]
      have hlen := o.maxLenResponseDataField.2
      omega
    refine ⟨⟨?_, fun h => tryFrom_isOk_iff.mpr (h.mono (by omega) (by omega))⟩, hchecked⟩
    rintro ⟨o, ho⟩
    have hle := checked_iff.mp (hchecked o ho)
    rw [optionsBetween_of_tryFrom ho]
    have hlen := o.maxLenResponseDataField.2
    omega

instance : Serialize NfcOptions := ⟨fun o => .ok o.toCbor⟩

instance : Deserialize NfcOptions := ⟨fun v => (tryFrom v).mapError Error.display⟩

/-- **Encoded options read back.** -/
theorem fromSlice_toVec [LawfulCiborium] (o : NfcOptions) :
    ∃ bytes, toVec o = .ok bytes ∧ fromSlice NfcOptions bytes = .ok o := by
  refine ⟨_, toVec_ok rfl, LawfulCiborium.fromSlice_intoWriter (o.plain 15) ?_⟩
  show (tryFrom o.toCbor).mapError Error.display = _
  rw [tryFrom_toCbor]
  rfl

/-- **The decoder of NFC options is exact but for long responses, and options in range read
back.** -/
theorem decode_exact_iff [LawfulCiborium] (v : Value) (o : NfcOptions) :
    ((((∃ o, (ofValue v : Except String NfcOptions) = .ok o) ↔ OptionsBetween 256 65536 v) ∧
      ∀ o, (ofValue v : Except String NfcOptions) = .ok o → o.Checked) ↔
        ¬ OptionsBetween 65537 (2 ^ 32 - 1) v) ∧
    (o.Checked → ∃ bytes, toVec o = .ok bytes ∧ fromSlice NfcOptions bytes = .ok o) := by
  have hdecode : ∀ o, (ofValue v : Except String NfcOptions) = .ok o ↔ tryFrom v = .ok o := by
    intro o
    show (tryFrom v).mapError Error.display = .ok o ↔ _
    cases tryFrom v with
    | error e => simp [Except.mapError]
    | ok o' => simp [Except.mapError]
  simp only [hdecode]
  exact ⟨tryFrom_inRange_iff v, fun _ => fromSlice_toVec o⟩

end NfcOptions

/-- options with a response length of 70000, which no constructor makes -/
def Sample.longResponse : Value :=
  .map [(.ofUInt64 0, .ofUInt64 255), (.ofUInt64 1, .ofUInt64 70000)]

namespace NfcOptions

/-- A response length that is too long is accepted. -/
theorem longResponse_accepted :
    ¬ OptionsBetween 256 65536 Sample.longResponse ∧
    ∃ o, (ofValue Sample.longResponse : Except String NfcOptions) = .ok o ∧
      o.maxLenResponseDataField.1 = 70000 ∧ ¬ o.Checked := by
  have ho : tryFrom Sample.longResponse =
      .ok ⟨⟨255, by decide⟩, ⟨70000, by decide⟩⟩ := by rfl
  refine ⟨?_, _, congrArg (Except.mapError Error.display) ho, rfl, ?_⟩
  · rw [optionsBetween_of_tryFrom ho]
    exact fun h => absurd h.2 (by decide)
  · rw [checked_iff]
    decide

/-- options with the greatest lengths -/
def greatest : NfcOptions := ⟨⟨65535, by decide⟩, ⟨65536, by decide⟩⟩

open scoped Reference in
theorem decode_exact_iff_greatest :
    ((∃ o, (ofValue greatest.toCbor : Except String NfcOptions) = .ok o) ↔
      OptionsBetween 256 65536 greatest.toCbor) ∧
    ∃ bytes, toVec greatest = .ok bytes ∧ fromSlice NfcOptions bytes = .ok greatest := by
  have hshort : ¬ OptionsBetween 65537 (2 ^ 32 - 1) greatest.toCbor := by
    rw [optionsBetween_of_tryFrom greatest.tryFrom_toCbor]
    exact fun h => absurd h.1 (by decide)
  obtain ⟨hexact, hread⟩ := decode_exact_iff greatest.toCbor greatest
  exact ⟨(hexact.mpr hshort).1, hread (checked_iff.mpr (by decide))⟩

end NfcOptions

end Isomdl
