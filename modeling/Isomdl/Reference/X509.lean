import Isomdl.Reference.Crypto

/-!
# A concrete `x509_cert` crate

Certificates and extensions are decoded from DER, and key identifiers are SHA-1.  `oidName` knows
no names: only the texts of errors show them.
-/

namespace Isomdl

namespace Reference

/-! ## SHA-1 -/

def rotl (n : Nat) (x : BitVec 32) : BitVec 32 := x.rotateLeft n

/-- the function and the constant of a round -/
def sha1Mix (i : Nat) (b c d : BitVec 32) : BitVec 32 :=
  if i < 20 then ((b &&& c) ||| (~~~b &&& d)) + 0x5a827999
  else if i < 40 then (b ^^^ c ^^^ d) + 0x6ed9eba1
  else if i < 60 then ((b &&& c) ||| (b &&& d) ||| (c &&& d)) + 0x8f1bbcdc
  else (b ^^^ c ^^^ d) + 0xca62c1d6

/-- the schedule from its last sixteen words, newest first -/
def sha1Schedule : Nat → List (BitVec 32) → List (BitVec 32)
  | 0, recent => recent
  | n + 1, recent =>
    sha1Schedule n (rotl 1 (recent.getD 2 0 ^^^ recent.getD 7 0 ^^^ recent.getD 13 0 ^^^
      recent.getD 15 0) :: recent)

/-- rounds from number `i` on -/
def sha1Rounds : Nat → List (BitVec 32) → List (BitVec 32) → List (BitVec 32)
  | i, w :: ws, [a, b, c, d, e] =>
    sha1Rounds (i + 1) ws [rotl 5 a + sha1Mix i b c d + e + w, a, rotl 30 b, c, d]
  | _, _, s => s

def sha1 (message : Bytes) : Bytes :=
  let blocks := (SecureHash.chunks 64 (SecureHash.pad 32 message)).map fun block =>
    (SecureHash.chunks 4 block).map fun bs => BitVec.ofNat 32 (ofBe bs)
  let state := blocks.foldl
    (fun s block => List.zipWith (· + ·) s (sha1Rounds 0 (sha1Schedule 64 block.reverse).reverse s))
    [0x67452301, 0xefcdab89, 0x98badcfe, 0x10325476, 0xc3d2e1f0]
  state.flatMap fun x => beBytes 4 x.toNat

/-! ## certificates -/

def ascii (bytes : Bytes) : String := String.ofList (bytes.map fun b => Char.ofNat b.toNat)

/-- the arcs of an identifier, `n` being what was read of the next one -/
def arcs : Nat → Bytes → List Nat
  | _, [] => []
  | n, b :: bytes =>
    if b < 0x80 then (n * 128 + b.toNat) :: arcs 0 bytes
    else arcs (n * 128 + (b.toNat - 0x80)) bytes

/-- the first two arcs share a number -/
def objectIdentifier (content : Bytes) : Option ObjectIdentifier :=
  match arcs 0 content with
  | [] => none
  | n :: rest => if n < 80 then some (n / 40 :: n % 40 :: rest) else some (2 :: (n - 80) :: rest)

def attributeTypeAndValue : UInt8 × Bytes → Option AttributeTypeAndValue
  | (0x30, content) => do
    match ← elements content with
    | [(0x06, oid), (tag, value)] => some ⟨← objectIdentifier oid, ⟨tag.toNat, value⟩⟩
    | _ => none
  | _ => none

def name (content : Bytes) : Option Name := do
  (← elements content).mapM fun
    | (0x31, content) => do (← elements content).mapM attributeTypeAndValue
    | _ => none

/-- seconds since 1970 of a year and `MMDDHHMMSSZ` -/
def seconds (year : Int) : List Char → Option Nat
  | [m₁, m₂, d₁, d₂, h₁, h₂, n₁, n₂, s₁, s₂, 'Z'] => do
    let month ← digits? [m₁, m₂]
    let day ← digits? [d₁, d₂]
    let hour ← digits? [h₁, h₂]
    let minute ← digits? [n₁, n₂]
    let second ← digits? [s₁, s₂]
    some (daysFromCivil year month day * 86400 + hour * 3600 + minute * 60 + second).toNat
  | _ => none

/-- `UTCTime` and `GeneralizedTime` -/
def time : UInt8 × Bytes → Option Nat
  | (0x17, content) => do
    let chars := content.map fun b => Char.ofNat b.toNat
    let year ← digits? (chars.take 2)
    seconds (if year < 50 then 2000 + year else 1900 + year) (chars.drop 2)
  | (0x18, content) => do
    let chars := content.map fun b => Char.ofNat b.toNat
    seconds (← digits? (chars.take 4)) (chars.drop 4)
  | _ => none

def subjectPublicKeyInfo (content : Bytes) : Option SubjectPublicKeyInfo := do
  match ← elements content with
  | [(0x30, algorithm), (0x03, unusedBits :: rawBytes)] =>
    match ← elements algorithm with
    | (0x06, oid) :: parameters =>
      some ⟨← objectIdentifier oid, parameters.head?.map fun e => ⟨e.1.toNat, e.2⟩,
        unusedBits.toNat, rawBytes⟩
    | _ => none
  | _ => none

def extension : UInt8 × Bytes → Option Extension
  | (0x30, content) => do
    match ← elements content with
    | [(0x06, oid), (0x04, value)] => some ⟨← objectIdentifier oid, false, value⟩
    | [(0x06, oid), (0x01, [critical]), (0x04, value)] =>
      some ⟨← objectIdentifier oid, critical ≠ 0, value⟩
    | _ => none
  | _ => none

def extensions : List (UInt8 × Bytes) → Option (List Extension)
  | [] => some []
  | [(0xa3, content)] => do (← elements (← element 0x30 content)).mapM extension
  | _ => none

/-- the fields after the version and the serial number -/
def certificateOfFields (tbsDer signature : Bytes) :
    List (UInt8 × Bytes) → Option Certificate
  | (0x30, _) :: (0x30, issuer) :: (0x30, validity) :: (0x30, subject) :: (0x30, spki) ::
      optional => do
    match ← elements validity with
    | [notBefore, notAfter] =>
      some
        { issuer := ← name issuer
          subject := ← name subject
          notBefore := ← time notBefore
          notAfter := ← time notAfter
          subjectPublicKeyInfo := ← subjectPublicKeyInfo spki
          extensions := ← extensions (optional.filter fun e => e.1 = 0xa3)
          tbsDer := .ok tbsDer
          signature := signature }
    | _ => none
  | _ => none

/-- a certificate: what is signed, the algorithm, and the signature -/
def certificateOfDer (bytes : Bytes) : Option Certificate := do
  let content ← element 0x30 bytes
  let ((_, tbs), rest) ← readElement content
  let tbsDer := content.take (content.length - rest.length)
  match ← elements rest, ← elements tbs with
  | [(0x30, _), (0x03, 0 :: signature)], (0xa0, _) :: (0x02, _) :: fields =>
    certificateOfFields tbsDer signature fields
  | _, _ => none

/-! ## extensions -/

/-- the flags of a bit string, from bit `i` on -/
def flags : Nat → List Bool → List KeyUsages
  | _, [] => []
  | i, set :: bits =>
    let usage : KeyUsages :=
      match i with
      | 0 => .DigitalSignature
      | 5 => .KeyCertSign
      | 6 => .CRLSign
      | i => .other i
    if set then usage :: flags (i + 1) bits else flags (i + 1) bits

def keyUsages (bytes : Bytes) : Option (List KeyUsages) := do
  match ← element 0x03 bytes with
  | _ :: bits =>
    some (flags 0 (bits.flatMap fun b => (List.range 8).map fun i => b.toNat.testBit (7 - i)))
  | [] => none

def constraints (bytes : Bytes) : Option BasicConstraints := do
  match ← elements (← element 0x30 bytes) with
  | [] => some ⟨false, none⟩
  | [(0x01, [ca])] => some ⟨ca ≠ 0, none⟩
  | [(0x02, n)] => some ⟨false, some (ofBe n)⟩
  | [(0x01, [ca]), (0x02, n)] => some ⟨ca ≠ 0, some (ofBe n)⟩
  | _ => none

def generalName : UInt8 × Bytes → GeneralName
  | (0x81, content) => .Rfc822Name (ascii content)
  | (0x86, content) => .UniformResourceIdentifier (ascii content)
  | (tag, content) => .other tag.toNat content

def pointName (content : Bytes) : Option DistributionPointName := do
  match ← elements content with
  | [(0xa0, names)] => some (.FullName ((← elements names).map generalName))
  | [(0xa1, name)] => some (.NameRelativeToCRLIssuer name)
  | _ => none

def distributionPoint : UInt8 × Bytes → Option DistributionPoint
  | (0x30, content) => do
    let fields ← elements content
    let name ← (fields.find? fun e => e.1 = 0xa0).mapM fun e => pointName e.2
    some ⟨name, fields.any fun e => e.1 = 0x81, fields.any fun e => e.1 = 0xa2⟩
  | _ => none

/-- what was decoded, or an error of the `der` crate -/
def decoded {α : Type} : Option α → Except String α
  | some a => .ok a
  | none => .error "malformed ASN.1 DER value"

scoped instance x509Cert : X509Cert where
  fromDer bytes := decoded (certificateOfDer bytes)
  decodeOid any := decoded (if any.tag = 0x06 then objectIdentifier any.value else none)
  attributeValueToStr any :=
    if any.tag ∈ [0x0c, 0x13, 0x16] ∧ any.value.all fun b => b < 0x80 then some (ascii any.value)
    else none
  oidName _ := none
  subjectKeyIdentifier bytes := decoded (element 0x04 bytes)
  authorityKeyIdentifier bytes := decoded do
    let fields ← elements (← element 0x30 bytes)
    some ((fields.find? fun e => e.1 = 0x80).map (·.2))
  keyUsage bytes := decoded (keyUsages bytes)
  basicConstraints bytes := decoded (constraints bytes)
  extendedKeyUsage bytes := decoded do
    (← elements (← element 0x30 bytes)).mapM fun e =>
      if e.1 = 0x06 then objectIdentifier e.2 else none
  crlDistributionPoints bytes := decoded do
    (← elements (← element 0x30 bytes)).mapM distributionPoint
  issuerAltName bytes := decoded do
    some ((← elements (← element 0x30 bytes)).map generalName)
  sha1 := sha1

/-! ## two chains

Each authority and the certificate under it are valid from November 2026 on, with the extensions of
their profile.
-/

/-- `n` bytes, in rows of 40 with the last one filled up -/
def bytesOf (n : Nat) (rows : List Nat) : Bytes := (rows.flatMap (beBytes 40)).take n

/-- the certificate of an issuing authority -/
def iacaDer : Bytes := bytesOf 420
  [0x308201a030820145a003020102020101300a06082a8648ce3d040302301c310b3009060355040613,
   0x025553310d300b06035504030c0449414341301e170d3236313131393032333031315a170d333631,
   0x3131363032333031315a301c310b3009060355040613025553310d300b06035504030c0449414341,
   0x3059301306072a8648ce3d020106082a8648ce3d03010703420004d32e6d176601aa441203eaf340,
   0xe130a648cb640fd0e725256a8d87618e9b0df325c9d233e43276dbedb359bf5651fbc6b5211770d8,
   0x230f523214e341c7ccd850a3783076301d0603551d0e041604145d7958baeae105548575b51a73a7,
   0x8d37f8faa445300e0603551d0f0101ff04040302010630120603551d130101ff040830060101ff02,
   0x0100301e0603551d1f041730153013a011a00f860d687474703a2f2f612e75732f6330110603551d,
   0x12040a300881066940612e7573300a06082a8648ce3d0403020349003046022100e7a6dc74713862,
   0x12444f9f059606a965234c04b7158249febc34dec9cdcf4006022100dea6e17b23ad08d5c9996f2a,
   0x3d17f35de34c6f52bbe01bcfc6ee09d1bb8299600000000000000000000000000000000000000000]

/-- another certificate of that authority, without CRL distribution points -/
def reissuedIacaDer : Bytes := bytesOf 386
  [0x3082017e30820125a003020102020105300a06082a8648ce3d040302301c310b3009060355040613,
   0x025553310d300b06035504030c0449414341301e170d3236313131393033353633375a170d333631,
   0x3131363033353633375a301c310b3009060355040613025553310d300b06035504030c0449414341,
   0x3059301306072a8648ce3d020106082a8648ce3d03010703420004d32e6d176601aa441203eaf340,
   0xe130a648cb640fd0e725256a8d87618e9b0df325c9d233e43276dbedb359bf5651fbc6b5211770d8,
   0x230f523214e341c7ccd850a3583056301d0603551d0e041604145d7958baeae105548575b51a73a7,
   0x8d37f8faa445300e0603551d0f0101ff04040302010630120603551d130101ff040830060101ff02,
   0x010030110603551d12040a300881066940612e7573300a06082a8648ce3d04030203470030440220,
   0x4ca9a80425a789183a26152af324829ef3a094e9a95ed93b1d8346ece03b168e02200a3387ae338e,
   0x29d364f326e0770e2829215f7df012072a6001ac8e9f19aff5800000000000000000000000000000]

/-- the certificate of a document signer under that authority -/
def signerDer : Bytes := bytesOf 456
  [0x308201c430820169a003020102020102300a06082a8648ce3d040302301c310b3009060355040613,
   0x025553310d300b06035504030c0449414341301e170d3236313131393032333031315a170d333631,
   0x3131363032333031315a301a310b3009060355040613025553310b300906035504030c0244533059,
   0x301306072a8648ce3d020106082a8648ce3d030107034200042765d128401918068d67d5f3bf3fb2,
   0xdd9354430bebc96276d1a0886164a58e0a8332a174d05cbb870b670359cfc0909f5148607dcc6ad6,
   0x4c95725178ac084861a3819d30819a301d0603551d0e04160414dc18c2c4d7bf3e74289feb3da35e,
   0x87e5f831239d301f0603551d230418301680145d7958baeae105548575b51a73a78d37f8faa44530,
   0x0e0603551d0f0101ff04040302078030150603551d250101ff040b3009060728818c5d050102301e,
   0x0603551d1f041730153013a011a00f860d687474703a2f2f612e75732f6330110603551d12040a30,
   0x0881066940612e7573300a06082a8648ce3d0403020349003046022100d7ca6ece237beba8f2c74d,
   0xe681ea42fdfef6558caaa698d7adc30e91ce65052b022100e149bbd5e582fc4d5b69baeae03b0581,
   0x2be3caed5d55c6d4a4758d2ee3936c76000000000000000000000000000000000000000000000000]

/-- the certificate of an authority for readers -/
def readerCaDer : Bytes := bytesOf 416
  [0x3082019c30820143a003020102020103300a06082a8648ce3d040302301b310b3009060355040613,
   0x025553310c300a06035504030c03524341301e170d3236313131393032333031315a170d33363131,
   0x31363032333031315a301b310b3009060355040613025553310c300a06035504030c035243413059,
   0x301306072a8648ce3d020106082a8648ce3d03010703420004bb05737f630586839a9390ac45915d,
   0xc824efa99b1490b16ab948ef643956970aacc8025199b62a7e6659c896f36fd4f8b6b7d806c68c21,
   0x6465f3e5bd46f11c75a3783076301d0603551d0e04160414f181cf806e79a285cd51abf4e789df76,
   0x7d07dbc7300e0603551d0f0101ff04040302010630120603551d130101ff040830060101ff020100,
   0x301e0603551d1f041730153013a011a00f860d687474703a2f2f612e75732f6330110603551d1204,
   0x0a300881066940612e7573300a06082a8648ce3d0403020347003044022062aaea545b720b3134c5,
   0x87ea44507bceb27195732495873c6704074b7aad224402205422869bbdd48ec18e4c2f20cee02241,
   0x6902d80806c5853cd5213a0d12f17c78000000000000000000000000000000000000000000000000]

/-- the certificate of a reader under that authority -/
def readerDer : Bytes := bytesOf 457
  [0x308201c53082016ca003020102020104300a06082a8648ce3d040302301b310b3009060355040613,
   0x025553310c300a06035504030c03524341301e170d3236313131393032333031315a170d33363131,
   0x31363032333031315a301e310b3009060355040613025553310f300d06035504030c065265616465,
   0x723059301306072a8648ce3d020106082a8648ce3d030107034200040d5d10c69de2ffeb0b0cdbcd,
   0x62026a5a8669667020c5957099a757cd8c735f2dc721b70f76e3ca975a4b35c8b327fe57af189389,
   0xfb556e28e0532c412c4cf20ba3819d30819a301d0603551d0e0416041453b0a7a76f8b8448cc5b17,
   0x3b250f055780d21169301f0603551d23041830168014f181cf806e79a285cd51abf4e789df767d07,
   0xdbc7300e0603551d0f0101ff04040302078030150603551d250101ff040b3009060728818c5d0501,
   0x06301e0603551d1f041730153013a011a00f860d687474703a2f2f612e75732f6330110603551d12,
   0x040a300881066940612e7573300a06082a8648ce3d0403020347003044022067f26c3f10e1b77dce,
   0x43b9c39511c738ff7f081c9a6eae3a1611b3d7e60f5fed02203b5d217ac694ab3d680789d708e6ac,
   0xba50290636c68c72c6ddfd6a998f12d4b80000000000000000000000000000000000000000000000]

end Reference

end Isomdl
