import Isomdl.Lib.Cbor.Value
import Mathlib.Data.List.Basic

/-!
# The definite-length wire format of RFC 8949

`encode` writes a data item with definite lengths and the shortest heads; `decodeItem` reads one
item from the front of its input and returns what is left.  A length of `2 ^ 64` or more, which
no machine holds, is written under the reserved additional information 28, so that every item
has an encoding.  Floats keep their 64 bits.

* `decodeHead_encodeHead`   a head reads back;
* `decodeItem_encode`       an item reads back, whatever follows it;
* `decode_encode`           the round trip.
-/

namespace Cbor

/-! ## heads -/

/-- major type and argument -/
def encodeHead (major n : Nat) : Bytes :=
  if n < 24 then [UInt8.ofNat (32 * major + n)]
  else if n < 256 ^ 1 then UInt8.ofNat (32 * major + 24) :: beBytes 1 n
  else if n < 256 ^ 2 then UInt8.ofNat (32 * major + 25) :: beBytes 2 n
  else if n < 256 ^ 4 then UInt8.ofNat (32 * major + 26) :: beBytes 4 n
  else if n < 256 ^ 8 then UInt8.ofNat (32 * major + 27) :: beBytes 8 n
  else UInt8.ofNat (32 * major + 28) :: (List.replicate n 1 ++ 0 :: beBytes n n)

/-- the next `w` bytes as a number -/
def takeBe (w : Nat) (bs : Bytes) : Option (Nat × Bytes) :=
  if w ≤ bs.length then some (ofBe (bs.take w), bs.drop w) else none

/-- the width written in unary before an oversized argument -/
def takeWidth : Bytes → Option (Nat × Bytes)
  | [] => none
  | b :: bs =>
    if b = 0 then some (0, bs)
    else if b = 1 then (takeWidth bs).map fun p => (p.1 + 1, p.2)
    else none

/-- the argument after an initial byte with additional information `info` -/
def takeArgument (info : Nat) (bs : Bytes) : Option (Nat × Bytes) :=
  if info < 24 then some (info, bs)
  else if info = 24 then takeBe 1 bs
  else if info = 25 then takeBe 2 bs
  else if info = 26 then takeBe 4 bs
  else if info = 27 then takeBe 8 bs
  else if info = 28 then (takeWidth bs).bind fun p => takeBe p.1 p.2
  else none

def decodeHead : Bytes → Option (Nat × Nat × Bytes)
  | [] => none
  | b :: bs => (takeArgument (b.toNat % 32) bs).map fun p => (b.toNat / 32, p.1, p.2)

theorem takeBe_beBytes {w n : Nat} (h : n < 256 ^ w) (rest : Bytes) :
    takeBe w (beBytes w n ++ rest) = some (n, rest) := by
  have hlen := length_beBytes w n
  have htake : (beBytes w n ++ rest).take w = beBytes w n := by
    rw [List.take_append_of_le_length (by omega), List.take_of_length_le (by omega)]
  have hdrop : (beBytes w n ++ rest).drop w = rest := by
    rw [List.drop_append_of_le_length (by omega), List.drop_of_length_le (by omega)]
    rfl
  rw [takeBe, if_pos (by rw [List.length_append]; omega), htake, hdrop, ofBe_beBytes h]

theorem takeWidth_replicate (w : Nat) (rest : Bytes) :
    takeWidth (List.replicate w 1 ++ 0 :: rest) = some (w, rest) := by
  induction w with
  | zero => rfl
  | succ w ih =>
    show (takeWidth (List.replicate w 1 ++ 0 :: rest)).map (fun p => (p.1 + 1, p.2)) = _
    rw [ih]
    rfl

theorem decodeHead_cons {major info n : Nat} {bs rest : Bytes} (hm : major < 8) (hi : info < 32)
    (h : takeArgument info bs = some (n, rest)) :
    decodeHead (UInt8.ofNat (32 * major + info) :: bs) = some (major, n, rest) := by
  have hb : (UInt8.ofNat (32 * major + info)).toNat = 32 * major + info := by
    rw [UInt8.toNat_ofNat', Nat.mod_eq_of_lt (by omega)]
  have hinfo : (32 * major + info) % 32 = info := by omega
  have hmajor : (32 * major + info) / 32 = major := by omega
  rw [decodeHead, hb, hinfo, hmajor, h]
  rfl

/-- **A head reads back, whatever follows it.** -/
theorem decodeHead_encodeHead {major n : Nat} (hm : major < 8) (rest : Bytes) :
    decodeHead (encodeHead major n ++ rest) = some (major, n, rest) := by
  unfold encodeHead
  by_cases h₀ : n < 24
  · rw [if_pos h₀]
    exact decodeHead_cons hm (by omega) (by rw [takeArgument, if_pos h₀]; rfl)
  rw [if_neg h₀]
  by_cases h₁ : n < 256 ^ 1
  · rw [if_pos h₁]
    exact decodeHead_cons hm (by omega) (takeBe_beBytes h₁ rest)
  rw [if_neg h₁]
  by_cases h₂ : n < 256 ^ 2
  · rw [if_pos h₂]
    exact decodeHead_cons hm (by omega) (takeBe_beBytes h₂ rest)
  rw [if_neg h₂]
  by_cases h₄ : n < 256 ^ 4
  · rw [if_pos h₄]
    exact decodeHead_cons hm (by omega) (takeBe_beBytes h₄ rest)
  rw [if_neg h₄]
  by_cases h₈ : n < 256 ^ 8
  · rw [if_pos h₈]
    exact decodeHead_cons hm (by omega) (takeBe_beBytes h₈ rest)
  rw [if_neg h₈]
  refine decodeHead_cons hm (by omega) ?_
  show (takeWidth (List.replicate n 1 ++ 0 :: beBytes n n ++ rest)).bind
    (fun p => takeBe p.1 p.2) = _
  rw [List.append_assoc, List.cons_append, takeWidth_replicate]
  exact takeBe_beBytes (Nat.lt_pow_self (by omega)) rest

theorem encodeHead_ne_nil (major n : Nat) : encodeHead major n ≠ [] := by
  unfold encodeHead
  split_ifs <;> simp

/-! ## items -/

def utf8 (s : String) : Bytes := s.toUTF8.data.toList

def ofUtf8 (bs : Bytes) : Option String := String.fromUTF8? ⟨⟨bs⟩⟩

theorem ofUtf8_utf8 (s : String) : ofUtf8 (utf8 s) = some s := by
  have hbytes : (⟨⟨utf8 s⟩⟩ : ByteArray) = s.toUTF8 := rfl
  rw [ofUtf8, hbytes, String.fromUTF8?, dif_pos (by simpa using s.isValidUTF8)]
  rfl

mutual

def encode : Value → Bytes
  | .integer i =>
    if 0 ≤ i.1 then encodeHead 0 i.1.toNat else encodeHead 1 (-1 - i.1).toNat
  | .bytes bs => encodeHead 2 bs.length ++ bs
  | .text s => encodeHead 3 (utf8 s).length ++ utf8 s
  | .array vs => encodeHead 4 vs.length ++ encodeList vs
  | .map kvs => encodeHead 5 kvs.length ++ encodeEntries kvs
  | .tag t v => encodeHead 6 t.toNat ++ encode v
  | .bool false => [0xf4]
  | .bool true => [0xf5]
  | .null => [0xf6]
  | .float bits => 0xfb :: beBytes 8 bits.toNat

def encodeList : List Value → Bytes
  | [] => []
  | v :: vs => encode v ++ encodeList vs

def encodeEntries : List (Value × Value) → Bytes
  | [] => []
  | (k, v) :: kvs => encode k ++ encode v ++ encodeEntries kvs

end

/-- `n` items in a row -/
def takeMany {α : Type} (f : Bytes → Option (α × Bytes)) : Nat → Bytes → Option (List α × Bytes)
  | 0, bs => some ([], bs)
  | n + 1, bs =>
    match f bs with
    | none => none
    | some (a, rest) => (takeMany f n rest).map fun p => (a :: p.1, p.2)

/-- two items in a row -/
def takePair {α : Type} (f : Bytes → Option (α × Bytes)) (bs : Bytes) :
    Option ((α × α) × Bytes) :=
  match f bs with
  | none => none
  | some (k, rest) => (f rest).map fun p => ((k, p.1), p.2)

/-- the next `n` bytes -/
def takeBytes (n : Nat) (bs : Bytes) : Option (Bytes × Bytes) :=
  if n ≤ bs.length then some (bs.take n, bs.drop n) else none

/-- the item of a major type below 7 with argument `n` -/
def decodeBody (item : Bytes → Option (Value × Bytes)) (major n : Nat) (bs : Bytes) :
    Option (Value × Bytes) :=
  match major with
  | 0 => if h : n < 2 ^ 64 then some (.integer ⟨n, by omega⟩, bs) else none
  | 1 => if h : n < 2 ^ 64 then some (.integer ⟨-1 - n, by omega⟩, bs) else none
  | 2 => (takeBytes n bs).map fun p => (.bytes p.1, p.2)
  | 3 => (takeBytes n bs).bind fun p => (ofUtf8 p.1).map fun s => (.text s, p.2)
  | 4 => (takeMany item n bs).map fun p => (.array p.1, p.2)
  | 5 => (takeMany (takePair item) n bs).map fun p => (.map p.1, p.2)
  | 6 => if n < 2 ^ 64 then (item bs).map fun p => (.tag (UInt64.ofNat n) p.1, p.2) else none
  | _ => none

/-- the simple values that are read -/
def ofSimple : Nat → Option Value
  | 20 => some (.bool false)
  | 21 => some (.bool true)
  | 22 => some .null
  | _ => none

/-- one item from the front, nested at most `fuel` deep -/
def decodeItem : Nat → Bytes → Option (Value × Bytes)
  | 0, _ => none
  | _ + 1, [] => none
  | fuel + 1, b :: bs =>
    if b = 0xf4 then some (.bool false, bs)
    else if b = 0xf5 then some (.bool true, bs)
    else if b = 0xf6 then some (.null, bs)
    else if b = 0xf8 then (takeBe 1 bs).bind fun p => (ofSimple p.1).map fun v => (v, p.2)
    else if b = 0xfb then (takeBe 8 bs).map fun p => (.float (UInt64.ofNat p.1), p.2)
    else (decodeHead (b :: bs)).bind fun p => decodeBody (decodeItem fuel) p.1 p.2.1 p.2.2

/-- the item at the front of a slice; an item nests at most as deep as it is long -/
def decode (bs : Bytes) : Option Value := (decodeItem (bs.length + 1) bs).map Prod.fst

/-! ## the round trip -/

theorem decodeItem_head {fuel major n : Nat} (hm : major < 7) (rest : Bytes) :
    decodeItem (fuel + 1) (encodeHead major n ++ rest) =
      decodeBody (decodeItem fuel) major n rest := by
  have hhead := decodeHead_encodeHead (n := n) (show major < 8 by omega) rest
  cases hb : encodeHead major n ++ rest with
  | nil =>
    rw [hb] at hhead
    cases hhead
  | cons b bs =>
    rw [hb] at hhead
    have hmajor : b.toNat / 32 = major := by
      rw [decodeHead] at hhead
      cases ha : takeArgument (b.toNat % 32) bs with
      | none =>
        rw [ha] at hhead
        cases hhead
      | some p =>
        rw [ha] at hhead
        exact congrArg Prod.fst (Option.some.inj hhead)
    have hne (c : UInt8) (hc : 224 ≤ c.toNat) : b ≠ c := by
      intro heq
      rw [heq] at hmajor
      omega
    rw [decodeItem, if_neg (hne _ (by decide)), if_neg (hne _ (by decide)),
      if_neg (hne _ (by decide)), if_neg (hne _ (by decide)), if_neg (hne _ (by decide)), hhead]
    rfl

theorem takeBytes_append (bs rest : Bytes) :
    takeBytes bs.length (bs ++ rest) = some (bs, rest) := by
  rw [takeBytes, if_pos (by rw [List.length_append]; omega), List.take_left, List.drop_left]

theorem takeMany_encodeList {f : Bytes → Option (Value × Bytes)} {vs : List Value}
    (h : ∀ v ∈ vs, ∀ rest, f (encode v ++ rest) = some (v, rest)) (rest : Bytes) :
    takeMany f vs.length (encodeList vs ++ rest) = some (vs, rest) := by
  induction vs with
  | nil => rfl
  | cons v vs ih =>
    rw [encodeList, List.append_assoc, List.length_cons, takeMany, h v List.mem_cons_self]
    show (takeMany f vs.length (encodeList vs ++ rest)).map (fun p => (v :: p.1, p.2)) = _
    rw [ih fun w hw => h w (List.mem_cons_of_mem v hw)]
    rfl

theorem takeMany_encodeEntries {f : Bytes → Option (Value × Bytes)} {kvs : List (Value × Value)}
    (h : ∀ e ∈ kvs, (∀ rest, f (encode e.1 ++ rest) = some (e.1, rest)) ∧
      ∀ rest, f (encode e.2 ++ rest) = some (e.2, rest)) (rest : Bytes) :
    takeMany (takePair f) kvs.length (encodeEntries kvs ++ rest) = some (kvs, rest) := by
  induction kvs with
  | nil => rfl
  | cons e kvs ih =>
    obtain ⟨k, v⟩ := e
    obtain ⟨hk, hv⟩ := h (k, v) List.mem_cons_self
    have hpair : takePair f (encode k ++ encode v ++ encodeEntries kvs ++ rest) =
        some ((k, v), encodeEntries kvs ++ rest) := by
      rw [List.append_assoc, List.append_assoc, takePair, hk]
      show (f (encode v ++ (encodeEntries kvs ++ rest))).map (fun p => ((k, p.1), p.2)) = _
      rw [hv]
      rfl
    rw [encodeEntries, List.length_cons, takeMany, hpair]
    show (takeMany (takePair f) kvs.length (encodeEntries kvs ++ rest)).map
      (fun p => ((k, v) :: p.1, p.2)) = _
    rw [ih fun w hw => h w (List.mem_cons_of_mem (k, v) hw)]
    rfl

theorem length_encode_le_list {v : Value} {vs : List Value} (h : v ∈ vs) :
    (encode v).length ≤ (encodeList vs).length := by
  induction vs with
  | nil => cases h
  | cons w vs ih =>
    rw [encodeList, List.length_append]
    cases List.mem_cons.mp h with
    | inl heq => rw [heq]; omega
    | inr hmem => have := ih hmem; omega

theorem length_encode_le_entries {e : Value × Value} {kvs : List (Value × Value)} (h : e ∈ kvs) :
    (encode e.1).length ≤ (encodeEntries kvs).length ∧
      (encode e.2).length ≤ (encodeEntries kvs).length := by
  induction kvs with
  | nil => cases h
  | cons w kvs ih =>
    obtain ⟨k, v⟩ := w
    rw [encodeEntries, List.length_append, List.length_append]
    cases List.mem_cons.mp h with
    | inl heq =>
      rw [heq]
      exact ⟨by show (encode k).length ≤ _; omega, by show (encode v).length ≤ _; omega⟩
    | inr hmem =>
      have hle := ih hmem
      exact ⟨by omega, by omega⟩

theorem length_encodeHead_pos (major n : Nat) : 0 < (encodeHead major n).length :=
  List.length_pos_iff.mpr (encodeHead_ne_nil major n)

/-- **An item reads back with enough fuel, whatever follows it.** -/
theorem decodeItem_encode (fuel : Nat) : ∀ v : Value, (encode v).length < fuel → ∀ rest,
    decodeItem fuel (encode v ++ rest) = some (v, rest) := by
  induction fuel with
  | zero =>
    intro v h
    omega
  | succ fuel ih =>
    intro v h rest
    cases v with
    | integer i =>
      obtain ⟨i, hlo, hhi⟩ := i
      rw [encode]
      by_cases hi : 0 ≤ i
      · have hn : (i.toNat : Int) = i := Int.toNat_of_nonneg hi
        have hlt : i.toNat < 2 ^ 64 := by omega
        rw [if_pos hi, decodeItem_head (by omega), decodeBody, dif_pos hlt]
        simp only [hn]
      · have hn : (-1 - ((-1 - i).toNat : Int)) = i := by omega
        have hlt : (-1 - i).toNat < 2 ^ 64 := by omega
        rw [if_neg hi, decodeItem_head (by omega), decodeBody, dif_pos hlt]
        simp only [hn]
    | bytes bs =>
      rw [encode, List.append_assoc, decodeItem_head (by omega), decodeBody, takeBytes_append]
      rfl
    | text s =>
      rw [encode, List.append_assoc, decodeItem_head (by omega), decodeBody, takeBytes_append]
      show ((ofUtf8 (utf8 s)).map fun s => (Value.text s, rest)) = _
      rw [ofUtf8_utf8]
      rfl
    | array vs =>
      rw [encode, List.length_append] at h
      have hpos := length_encodeHead_pos 4 vs.length
      rw [encode, List.append_assoc, decodeItem_head (by omega), decodeBody, takeMany_encodeList]
      · rfl
      · intro v hv
        have := length_encode_le_list hv
        exact ih v (by omega)
    | map kvs =>
      rw [encode, List.length_append] at h
      have hpos := length_encodeHead_pos 5 kvs.length
      rw [encode, List.append_assoc, decodeItem_head (by omega), decodeBody, takeMany_encodeEntries]
      · rfl
      · intro e he
        have := length_encode_le_entries he
        exact ⟨ih e.1 (by omega), ih e.2 (by omega)⟩
    | tag t v =>
      rw [encode, List.length_append] at h
      have hpos := length_encodeHead_pos 6 t.toNat
      have ht := t.toNat_lt
      rw [encode, List.append_assoc, decodeItem_head (by omega), decodeBody, if_pos (by omega),
        ih v (by omega)]
      show some (Value.tag (UInt64.ofNat t.toNat) v, rest) = _
      rw [UInt64.ofNat_toNat]
    | bool b => cases b <;> rfl
    | null => rfl
    | float bits =>
      have hb := bits.toNat_lt
      show (takeBe 8 (beBytes 8 bits.toNat ++ rest)).map
        (fun p => (Value.float (UInt64.ofNat p.1), p.2)) = _
      rw [takeBe_beBytes (by omega)]
      show some (Value.float (UInt64.ofNat bits.toNat), rest) = _
      rw [UInt64.ofNat_toNat]

/-- **The round trip.** -/
theorem decode_encode (v : Value) : decode (encode v) = some v := by
  have h := decodeItem_encode ((encode v).length + 1) v (by omega) []
  rw [List.append_nil] at h
  rw [decode, h]
  rfl

theorem encode_ne_nil (v : Value) : encode v ≠ [] := by
  intro h
  have hdecode := decode_encode v
  rw [h] at hdecode
  cases hdecode

end Cbor
