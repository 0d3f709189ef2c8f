import Isomdl.Cose.Wire
import Isomdl.DigestExecutor
import Isomdl.Issuance.Plan
import Isomdl.Lib.Cbor.Codec
import Isomdl.Lib.Sha2

/-!
# Concrete crates

Instances of the crate parameters, for evaluating the model: `ciborium` writes definite lengths,
`coset` builds the `Sig_structure` of RFC 8152, `sha2` is SHA-2 and `time` prints whole
seconds in UTC.  `Counter` is a generator whose draws are its own successive values.
-/

namespace Isomdl

namespace Reference

open Cbor

/-! ## `ciborium` -/

scoped instance ciborium : Ciborium where
  intoWriter := Cbor.encode
  fromReader bs :=
    match Cbor.decode bs with
    | some v => .ok v
    | none => .error "invalid data item"

theorem fromReader_intoWriter (v : Value) :
    Ciborium.fromReader (Ciborium.intoWriter v) = .ok v := by
  unfold Ciborium.fromReader Ciborium.intoWriter ciborium
  simp only [Cbor.decode_encode]

scoped instance lawfulCiborium : LawfulCiborium where
  fromReader_intoWriter v _ := fromReader_intoWriter v

scoped instance faithfulCiborium : FaithfulCiborium where
  similar {v v'} h := by
    rw [fromReader_intoWriter] at h
    cases h
    exact Value.Similar.refl v
  intoWriter_ne_nil := encode_ne_nil

/-! ## `coset` -/

def algorithmId : Algorithm → Int
  | .ES256 => -7
  | .ES384 => -35
  | .ES512 => -36
  | .EdDSA => -8
  | .HMAC_256_256 => 5
  | .other id => id

/-- an integer that fits a data item -/
def ofInt (i : Int) : Value :=
  if h : -(2 ^ 64) ≤ i ∧ i < 2 ^ 64 then .integer ⟨i, h⟩ else .null

def algorithmValue : AlgorithmLabel → Value
  | .privateUse id => ofInt id
  | .assigned algorithm => ofInt (algorithmId algorithm)
  | .text name => .text name

def labelValue : Label → Value
  | .int i => ofInt i
  | .text s => .text s

def headerEntries (h : Header) : List (Value × Value) :=
  (h.alg.toList.map fun alg => (Value.int 1, algorithmValue alg)) ++
    h.rest.map fun e => (labelValue e.1, e.2)

/-- `cbor_bstr`: the bytes that were decoded, nothing for an empty header, or its map -/
def protectedBytes (p : ProtectedHeader) : Bytes :=
  match p.originalData with
  | some bytes => bytes
  | none =>
    match headerEntries p.header with
    | [] => []
    | entries => Cbor.encode (.map entries)

def algorithmOfId : Int → AlgorithmLabel
  | -7 => .assigned .ES256
  | -35 => .assigned .ES384
  | -36 => .assigned .ES512
  | -8 => .assigned .EdDSA
  | 5 => .assigned .HMAC_256_256
  | id => if id < -65536 then .privateUse id else .assigned (.other id)

def headerOfEntries : List (Value × Value) → Except String Header
  | [] => .ok Header.empty
  | (k, v) :: entries => do
    let header ← headerOfEntries entries
    match k, v with
    | .integer ⟨1, _⟩, .integer i => .ok { header with alg := some (algorithmOfId i.1) }
    | .integer ⟨1, _⟩, .text s => .ok { header with alg := some (.text s) }
    | .integer ⟨1, _⟩, _ => .error "expected int/tstr"
    | .integer i, _ => .ok { header with rest := (.int i.1, v) :: header.rest }
    | .text s, _ => .ok { header with rest := (.text s, v) :: header.rest }
    | _, _ => .error "expected int/tstr"

def headerOfValue : Value → Except String Header
  | .map entries => headerOfEntries entries
  | _ => .error "expected map"

def protectedOfBytes (bytes : Bytes) : Except String ProtectedHeader :=
  if bytes.isEmpty then .ok ⟨some bytes, Header.empty⟩
  else
    match Cbor.decode bytes with
    | none => .error "invalid data item"
    | some v => (⟨some bytes, ·⟩) <$> headerOfValue v

/-- the four fields of a COSE structure with one signature or tag -/
def structureValue (p : ProtectedHeader) (unprotected : Header) (payload : Option Bytes)
    (authenticator : Bytes) : Value :=
  .array [.bytes (protectedBytes p), .map (headerEntries unprotected),
    match payload with
    | some bytes => .bytes bytes
    | none => .null, .bytes authenticator]

def structureOfValue {α : Type} (mk : ProtectedHeader → Header → Option Bytes → Bytes → α) :
    Value → Except String α
  | .array [.bytes p, unprotected, payload, .bytes authenticator] => do
    let p ← protectedOfBytes p
    let unprotected ← headerOfValue unprotected
    match payload with
    | .bytes bytes => .ok (mk p unprotected (some bytes) authenticator)
    | .null => .ok (mk p unprotected none authenticator)
    | _ => .error "expected bstr or null"
  | _ => .error "expected array with 4 items"

scoped instance coset : Coset where
  sigStructureData _ body sign aad payload :=
    Cbor.encode (.array ([.text "Signature1", .bytes (protectedBytes body)] ++
      (sign.toList.map fun p => .bytes (protectedBytes p)) ++ [.bytes aad, .bytes payload]))
  macStructureData _ p aad payload :=
    Cbor.encode (.array [.text "MAC0", .bytes (protectedBytes p), .bytes aad, .bytes payload])
  sign1ToCborValue c :=
    .ok (structureValue c.protectedHeader c.unprotected c.payload c.signature)
  sign1FromCborValue := structureOfValue CoseSign1.mk
  mac0ToCborValue c := .ok (structureValue c.protectedHeader c.unprotected c.payload c.tag)
  mac0FromCborValue := structureOfValue CoseMac0.mk

scoped instance cosetHeader : CosetHeader where
  toCborValue h := .ok (.map (headerEntries h))
  fromCborValue := headerOfValue

theorem headerEntries_eq_nil {h : Header} : headerEntries h = [] ↔ h = Header.empty := by
  obtain ⟨alg, rest⟩ := h
  cases alg <;> simp [headerEntries, Header.empty]

theorem cborBstr_eq (p : ProtectedHeader) : p.cborBstr = .ok (protectedBytes p) := by
  obtain ⟨originalData, header⟩ := p
  cases originalData with
  | some bytes => rfl
  | none =>
    unfold ProtectedHeader.cborBstr protectedBytes
    dsimp only
    by_cases hempty : header = Header.empty
    · rw [if_pos hempty, headerEntries_eq_nil.mpr hempty]
    · rw [if_neg hempty]
      show Except.ok (Cbor.encode (.map (headerEntries header))) = _
      cases hentries : headerEntries header with
      | nil => exact absurd (headerEntries_eq_nil.mp hentries) hempty
      | cons e entries => rfl

theorem fromCborBstr_eq (bytes : Bytes) :
    ProtectedHeader.fromCborBstr bytes = protectedOfBytes bytes := by
  unfold ProtectedHeader.fromCborBstr protectedOfBytes
  cases bytes with
  | nil => rfl
  | cons b bytes =>
    rw [if_neg (List.cons_ne_nil b bytes), if_neg (by simp)]
    show ((match Cbor.decode (b :: bytes) with
      | some v => Except.ok v
      | none => Except.error "invalid data item") >>= _) = _
    cases Cbor.decode (b :: bytes) with
    | none => rfl
    | some v =>
      show (headerOfValue v >>= fun header =>
        Except.ok (⟨some (b :: bytes), header⟩ : ProtectedHeader)) = _ <$> headerOfValue v
      cases headerOfValue v <;> rfl

theorem structureValue_eq (p : ProtectedHeader) (unprotected : Header) (payload : Option Bytes)
    (authenticator : Bytes) :
    Isomdl.structureValue p unprotected payload authenticator =
      .ok (structureValue p unprotected payload authenticator) := by
  unfold Isomdl.structureValue
  rw [cborBstr_eq]
  cases payload <;> rfl

theorem structureOfValue_ok {α : Type} {mk : ProtectedHeader → Header → Option Bytes → Bytes → α}
    {bstr : Bytes} {u : Value} {payload : Option Bytes} {authenticator : Bytes} {c : α} :
    structureOfValue mk (.array [.bytes bstr, u, payloadValue payload, .bytes authenticator]) =
        .ok c ↔
      ∃ p unprotected, ProtectedHeader.fromCborBstr bstr = .ok p ∧
        CosetHeader.fromCborValue u = .ok unprotected ∧
        c = mk p unprotected payload authenticator := by
  rw [fromCborBstr_eq]
  show (do
    let p ← protectedOfBytes bstr
    let unprotected ← headerOfValue u
    match payloadValue payload with
    | .bytes bytes => .ok (mk p unprotected (some bytes) authenticator)
    | .null => .ok (mk p unprotected none authenticator)
    | _ => .error "expected bstr or null") = Except.ok c ↔ _
  cases protectedOfBytes bstr with
  | error e => simp [bind, Except.bind]
  | ok p =>
    show (headerOfValue u >>= _) = _ ↔ ∃ p' unprotected, _ ∧ headerOfValue u = _ ∧ _
    cases headerOfValue u with
    | error e => simp [bind, Except.bind]
    | ok unprotected => cases payload <;> simp [payloadValue, bind, Except.bind, eq_comm]

theorem headerStep_of_ne {i : Int} {hrange : -(2 ^ 64) ≤ i ∧ i < 2 ^ 64} (hi : i ≠ 1) {v : Value}
    {header h' : Header}
    (h : (match Value.integer ⟨i, hrange⟩, v with
      | .integer ⟨1, _⟩, .integer i => .ok { header with alg := some (algorithmOfId i.1) }
      | .integer ⟨1, _⟩, .text s => .ok { header with alg := some (.text s) }
      | .integer ⟨1, _⟩, _ => .error "expected int/tstr"
      | .integer i, _ => .ok { header with rest := (.int i.1, v) :: header.rest }
      | .text s, _ => .ok { header with rest := (.text s, v) :: header.rest }
      | _, _ => .error "expected int/tstr") = Except.ok (ε := String) h') :
    h' = { header with rest := (.int i, v) :: header.rest } := by
  split at h
  case h_4 heq _ _ =>
    cases heq
    exact (Except.ok.inj h).symm
  all_goals simp_all

/-- entries with other labels leave no algorithm -/
theorem alg_headerOfEntries_rest {rest : List (Label × Value)} (hrest : ∀ e ∈ rest, e.1 ≠ .int 1)
    {ws : List (Value × Value)} {h' : Header}
    (hsim : Value.SimilarEntries (rest.map fun e => (labelValue e.1, e.2)) ws)
    (h : headerOfEntries ws = .ok h') : h'.alg = none := by
  induction rest generalizing ws h' with
  | nil =>
    cases hsim
    cases h
    rfl
  | cons e rest ih =>
    obtain ⟨label, value⟩ := e
    obtain ⟨k, v, ws, rfl, hk, -, hsim⟩ := hsim
    rw [headerOfEntries] at h
    cases hheader : headerOfEntries ws with
    | error e =>
      rw [hheader] at h
      cases h
    | ok header =>
      rw [hheader, ok_bind] at h
      have halg := ih (fun e he => hrest e (List.mem_cons_of_mem _ he)) hsim hheader
      cases label with
      | text s =>
        have htext : k = .text s := hk
        rw [htext] at h
        cases h
        exact halg
      | int i =>
        have hi : i ≠ 1 := fun heq => hrest _ List.mem_cons_self (by rw [heq])
        have hint : (ofInt i).Similar k := hk
        unfold ofInt at hint
        split at hint
        · have hinteger : k = .integer ⟨i, by assumption⟩ := hint
          rw [hinteger] at h
          have hcons := headerStep_of_ne hi h
          rw [hcons]
          exact halg
        · have hnull : k = .null := hint
          rw [hnull] at h
          cases h

theorem algorithmOfId_algorithmId {a : Algorithm} (h : a.Registered) :
    algorithmOfId (algorithmId a) = .assigned a := by
  cases a with
  | other id =>
    obtain ⟨hid, hprivate⟩ := h
    show algorithmOfId id = _
    unfold algorithmOfId
    split
    · simp at hid
    · simp at hid
    · simp at hid
    · simp at hid
    · simp at hid
    · rw [if_neg (by omega)]
  | _ => rfl

scoped instance lawfulCoset : LawfulCoset where
  sigStructureData_eq {p bstr aad payload} h := by
    rw [cborBstr_eq] at h
    cases h
    rfl
  macStructureData_eq {p bstr aad payload} h := by
    rw [cborBstr_eq] at h
    cases h
    rfl
  sign1ToCborValue_ok {c v} := by
    rw [structureValue_eq]
    rfl
  sign1FromCborValue_ok := structureOfValue_ok
  mac0ToCborValue_ok {c v} := by
    rw [structureValue_eq]
    rfl
  mac0FromCborValue_ok := structureOfValue_ok
  header_alg {h v v' h'} hv hsim hfrom := by
    cases hv
    obtain ⟨ws, rfl, hsim⟩ := hsim
    have hentries : headerOfEntries ws = .ok h' := hfrom
    cases h.alg with
    | inl hnone =>
      rw [hnone]
      refine alg_headerOfEntries_rest h.rest ?_ hentries
      unfold headerEntries at hsim
      rw [hnone] at hsim
      exact hsim
    | inr hsome =>
      obtain ⟨a, ha, hsome⟩ := hsome
      rw [hsome]
      unfold headerEntries at hsim
      rw [hsome] at hsim
      obtain ⟨k, w, ws, rfl, hk, hw, hsim⟩ := hsim
      have hkey : k = .int 1 := hk
      rw [hkey, headerOfEntries] at hentries
      cases hheader : headerOfEntries ws with
      | error e =>
        rw [hheader] at hentries
        cases hentries
      | ok header =>
        rw [hheader, ok_bind] at hentries
        have halgorithm : (ofInt (algorithmId a)).Similar w := hw
        unfold ofInt at halgorithm
        split at halgorithm
        · have hint : w = .integer ⟨algorithmId a, by assumption⟩ := halgorithm
          rw [hint] at hentries
          cases hentries
          exact congrArg some (algorithmOfId_algorithmId ha)
        · have hnull : w = .null := halgorithm
          rw [hnull] at hentries
          cases hentries

theorem plain_ofInt (n : ℕ) (i : Int) : (ofInt i).Plain n := by
  unfold ofInt
  split
  · exact Value.plain_integer n _
  · exact Value.plain_null n

theorem headerOfEntries_reads {rest : List (Label × Value)} (hrest : ∀ e ∈ rest, e.1 ≠ .int 1)
    (htakes : ∀ e ∈ rest, e.1.Takes e.2) :
    ∃ h', headerOfEntries (rest.map fun e => (labelValue e.1, e.2)) = .ok h' := by
  induction rest with
  | nil => exact ⟨_, rfl⟩
  | cons e rest ih =>
    obtain ⟨label, value⟩ := e
    obtain ⟨header, hheader⟩ := ih (fun e he => hrest e (List.mem_cons_of_mem _ he))
      fun e he => htakes e (List.mem_cons_of_mem _ he)
    rw [List.map_cons, headerOfEntries, hheader, ok_bind]
    cases label with
    | text s => exact ⟨_, rfl⟩
    | int i =>
      have hi : i ≠ 1 := fun heq => hrest _ List.mem_cons_self (by rw [heq])
      have hrange : -(2 ^ 64) ≤ i ∧ i < 2 ^ 64 := by
        rcases htakes _ List.mem_cons_self with ⟨⟨hlow, hhigh⟩, -⟩ | ⟨-, hlow, hhigh⟩
        · omega
        · omega
      have hlabel : labelValue (.int i) = .integer ⟨i, hrange⟩ := dif_pos hrange
      rw [hlabel]
      split
      case h_3 heq _ _ =>
        cases heq
        exact absurd rfl hi
      case h_6 hinteger _ _ _ => exact absurd rfl (hinteger _)
      all_goals exact ⟨_, rfl⟩

scoped instance readsHeaders : ReadsHeaders where
  reads {h n} hw := by
    obtain ⟨h', hread⟩ := headerOfEntries_reads h.rest hw.takes
    have hplain : ∀ e ∈ headerEntries h.header, e.1.Plain n ∧ e.2.Plain n := by
      intro e he
      rcases List.mem_append.mp he with halg | hrest
      · obtain ⟨alg, halg, rfl⟩ := List.mem_map.mp halg
        refine ⟨Value.plain_integer n _, ?_⟩
        cases alg with
        | privateUse id => exact plain_ofInt n id
        | assigned a => exact plain_ofInt n _
        | text name => exact Value.plain_text n name
      · obtain ⟨parameter, hparameter, rfl⟩ := List.mem_map.mp hrest
        refine ⟨?_, hw.plain parameter hparameter⟩
        show (labelValue parameter.1).Plain n
        cases parameter.1 with
        | int i => exact plain_ofInt n i
        | text s => exact Value.plain_text n s
    refine ⟨_, rfl, hplain, ?_⟩
    show ∃ h', headerOfEntries (headerEntries h.header) = .ok h'
    unfold headerEntries
    rcases h.alg with hnone | ⟨a, ha, hsome⟩
    · rw [hnone]
      exact ⟨h', hread⟩
    · have hrange : -(2 ^ 64) ≤ algorithmId a ∧ algorithmId a < 2 ^ 64 := by
        cases a with
        | other id =>
          have hid := hw.algorithm id hsome
          have hlow := ha.2
          show -(2 ^ 64) ≤ id ∧ id < 2 ^ 64
          omega
        | _ => decide
      have hvalue : algorithmValue (.assigned a) = .integer ⟨algorithmId a, hrange⟩ := dif_pos hrange
      rw [hsome]
      show ∃ h', headerOfEntries ((Value.int 1, algorithmValue (.assigned a)) ::
        h.header.rest.map fun e => (labelValue e.1, e.2)) = .ok h'
      rw [hvalue, headerOfEntries, hread]
      exact ⟨_, rfl⟩

/-! ## `sha2` -/

scoped instance sha2 : Sha2 where
  sha256 input := ⟨SecureHash.sha256 input, SecureHash.length_sha256 input⟩
  sha384 input := ⟨SecureHash.sha384 input, SecureHash.length_sha384 input⟩
  sha512 input := ⟨SecureHash.sha512 input, SecureHash.length_sha512 input⟩

/-! ## `time` -/

/-- year, month and day of a day number in the proleptic Gregorian calendar; day 0 is the first
of January 1970 -/
def civilFromDays (days : Int) : Int × Int × Int :=
  let z := days + 719468
  let era := z / 146097
  let doe := z % 146097
  let yoe := (doe - doe / 1460 + doe / 36524 - doe / 146096) / 365
  let doy := doe - (365 * yoe + yoe / 4 - yoe / 100)
  let mp := (5 * doy + 2) / 153
  let month := if mp < 10 then mp + 3 else mp - 9
  (yoe + era * 400 + (if month ≤ 2 then 1 else 0), month, doy - (153 * mp + 2) / 5 + 1)

/-- a number with leading zeros -/
def padded (width : Nat) (n : Int) : String :=
  let digits := toString n.toNat
  String.ofList (List.replicate (width - digits.length) '0') ++ digits

/-- day 0 is the first of January 1970 -/
def daysFromCivil (year month day : Int) : Int :=
  let y := if month ≤ 2 then year - 1 else year
  let doy := (153 * (if 2 < month then month - 3 else month + 9) + 2) / 5 + day - 1
  (y / 400) * 146097 + (y % 400) * 365 + (y % 400) / 4 - (y % 400) / 100 + doy - 719468

/-- decimal digits -/
def digits? (s : List Char) : Option Int :=
  if s.all Char.isDigit then some (s.foldl (fun acc c => acc * 10 + (c.toNat - 48 : Nat)) 0)
  else none

/-- `YYYY-MM-DDTHH:MM:SSZ` -/
def parseDate (s : String) : Option OffsetDateTime :=
  match s.toList with
  | [y₁, y₂, y₃, y₄, '-', m₁, m₂, '-', d₁, d₂, 'T', h₁, h₂, ':', n₁, n₂, ':', s₁, s₂, 'Z'] => do
    let year ← digits? [y₁, y₂, y₃, y₄]
    let month ← digits? [m₁, m₂]
    let day ← digits? [d₁, d₂]
    let hour ← digits? [h₁, h₂]
    let minute ← digits? [n₁, n₂]
    let second ← digits? [s₁, s₂]
    let t : OffsetDateTime :=
      ⟨daysFromCivil year month day * 86400 + hour * 3600 + minute * 60 + second, 0, 0⟩
    if civilFromDays (daysFromCivil year month day) = (year, month, day) ∧ hour < 24 ∧ minute < 60 ∧
      second < 60 then some t else none
  | _ => none

scoped instance rfc3339 : Rfc3339 where
  parse s :=
    match parseDate s with
    | some t => .ok t
    | none => .error "only whole seconds in UTC"
  format t :=
    let (year, month, day) := civilFromDays (t.unixSeconds / 86400)
    let seconds := t.unixSeconds % 86400
    if t.offsetSeconds ≠ 0 ∨ t.nanosecond ≠ 0 then .error "only whole seconds in UTC"
    else if year < 0 ∨ 9999 < year then .error "The year component cannot be formatted."
    else .ok (padded 4 year ++ "-" ++ padded 2 month ++ "-" ++ padded 2 day ++ "T" ++
      padded 2 (seconds / 3600) ++ ":" ++ padded 2 (seconds / 60 % 60) ++ ":" ++
      padded 2 (seconds % 60) ++ "Z")
  replaceMillisecond t millisecond :=
    if millisecond < 1000 then .ok { t with nanosecond := millisecond * 1000000 }
    else .error "millisecond must be in the range 0..=999"
  toOffsetUtc t :=
    let (year, _, _) := civilFromDays (t.unixSeconds / 86400)
    if year < -9999 ∨ 9999 < year then none else some { t with offsetSeconds := 0 }

/-! ## `rand` -/

/-- a generator whose draws are its own successive values -/
structure Counter where
  next : Nat
  deriving DecidableEq, Repr

scoped instance counter : RngCore Counter where
  genI32 r := (Int32.ofNat r.next, ⟨r.next + 1⟩)
  genBytes n r := (⟨List.replicate n (UInt8.ofNat r.next), List.length_replicate⟩, ⟨r.next + 1⟩)
  genRange lo hi h r :=
    (⟨lo + r.next % (hi - lo), by have := Nat.mod_lt r.next (by omega : 0 < hi - lo); omega⟩,
      ⟨r.next + 1⟩)
  fill n r := (⟨List.replicate n (UInt8.ofNat r.next), List.length_replicate⟩, ⟨r.next + 1⟩)

end Reference

end Isomdl
