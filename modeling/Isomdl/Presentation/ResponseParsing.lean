import Isomdl.Presentation.ResponseAuthentication

/-!
# Where the parsing of a response panics (`presentation/reader.rs`)

`json!` takes integers from `i64::MIN` to `u64::MAX`; the integers of CBOR go further down.  A
value panics when the parser reaches such an integer, past the elements and entries that it reads
before.  A namespace panics when one of its items does: a value that is refused stops nothing.

* `parseResponse_spec`              when a value is read, and when it panics;
* `parseItems_eq_none_iff`          when the items of a namespace panic;
* `parseNamespaces_eq_none_iff`     when `parse_namespaces` panics.
-/

namespace Isomdl

open Cbor

namespace Reader

/-- `json!` has a number for the integer -/
def JsonNumber (i : Integer) : Prop := -(2 ^ 63) ≤ i.1

/-- the values that `parse_response` reads; it passes over the keys that are not text -/
inductive Parses : Value → Prop
  | text (s : String) : Parses (.text s)
  | taggedText (t : UInt64) (s : String) : Parses (.tag t (.text s))
  | bytes (b : Bytes) : Parses (.bytes b)
  | bool (b : Bool) : Parses (.bool b)
  | integer (i : Integer) (h : JsonNumber i) : Parses (.integer i)
  | array (vs : List Value) (h : ∀ v ∈ vs, Parses v) : Parses (.array vs)
  | map (kvs : List (Value × Value)) (h : ∀ key v, (.text key, v) ∈ kvs → Parses v) :
    Parses (.map kvs)

/-- the values with an integer that is too small, which `parse_response` reaches -/
inductive Panics : Value → Prop
  | integer (i : Integer) (h : ¬ JsonNumber i) : Panics (.integer i)
  | array (before : List Value) (v : Value) (after : List Value)
    (hbefore : ∀ w ∈ before, Parses w) (h : Panics v) : Panics (.array (before ++ v :: after))
  | map (before : List (Value × Value)) (key : String) (v : Value)
    (after : List (Value × Value)) (hbefore : ∀ key w, (.text key, w) ∈ before → Parses w)
    (h : Panics v) : Panics (.map (before ++ (.text key, v) :: after))

/-! ## one value -/

/-- a loop over `l` reaches an element with `Q`, past elements with `P` -/
def Reaches {α : Type} (P Q : α → Prop) (l : List α) : Prop :=
  ∃ before a after, l = before ++ a :: after ∧ (∀ b ∈ before, P b) ∧ Q a

theorem reaches_nil {α : Type} (P Q : α → Prop) : ¬ Reaches P Q [] := by
  rintro ⟨before, a, after, heq, -⟩
  cases before <;> cases heq

theorem reaches_cons {α : Type} (P Q : α → Prop) (a : α) (l : List α) :
    Reaches P Q (a :: l) ↔ Q a ∨ P a ∧ Reaches P Q l := by
  constructor
  · rintro ⟨before, b, after, heq, hbefore, hb⟩
    cases before with
    | nil =>
      cases heq
      exact .inl hb
    | cons c before =>
      cases heq
      obtain ⟨ha, hrest⟩ := List.forall_mem_cons.mp hbefore
      exact .inr ⟨ha, before, b, after, rfl, hrest, hb⟩
  · rintro (ha | ⟨ha, before, b, after, rfl, hbefore, hb⟩)
    · exact ⟨[], a, l, rfl, fun b hb => absurd hb List.not_mem_nil, ha⟩
    · exact ⟨a :: before, b, after, rfl, List.forall_mem_cons.mpr ⟨ha, hbefore⟩, hb⟩

/-- an entry that is passed over, or whose value is read -/
def EntryParses (e : Value × Value) : Prop := ∀ key, e.1 = .text key → Parses e.2

def EntryPanics (e : Value × Value) : Prop := (∃ key, e.1 = .text key) ∧ Panics e.2

theorem parses_array_iff (vs : List Value) : Parses (.array vs) ↔ ∀ v ∈ vs, Parses v := by
  constructor
  · intro h
    cases h with
    | array vs h => exact h
  · exact Parses.array vs

theorem parses_map_iff (kvs : List (Value × Value)) :
    Parses (.map kvs) ↔ ∀ e ∈ kvs, EntryParses e := by
  constructor
  · intro h
    cases h with
    | map kvs h =>
      rintro ⟨k, v⟩ he key rfl
      exact h key v he
  · exact fun h => Parses.map kvs fun key v he => h _ he key rfl

theorem panics_array_iff (vs : List Value) : Panics (.array vs) ↔ Reaches Parses Panics vs := by
  constructor
  · intro h
    cases h with
    | array before v after hbefore h => exact ⟨before, v, after, rfl, hbefore, h⟩
  · rintro ⟨before, v, after, rfl, hbefore, h⟩
    exact .array before v after hbefore h

theorem panics_map_iff (kvs : List (Value × Value)) :
    Panics (.map kvs) ↔ Reaches EntryParses EntryPanics kvs := by
  constructor
  · intro h
    cases h with
    | map before key v after hbefore h =>
      refine ⟨before, (.text key, v), after, rfl, ?_, ⟨key, rfl⟩, h⟩
      rintro ⟨k, w⟩ he key' rfl
      exact hbefore key' w he
  · rintro ⟨before, ⟨k, v⟩, after, rfl, hbefore, ⟨key, rfl⟩, h⟩
    exact .map before key v after (fun key' w he => hbefore _ he key' rfl) h

/-- a result that is read, and one that panics -/
structure Outcome {α : Type} (result : Option (Except Error α)) (parses panics : Prop) : Prop where
  parses_iff : (∃ a, result = some (.ok a)) ↔ parses
  panics_iff : result = none ↔ panics

theorem Outcome.read {α : Type} {a : α} {parses panics : Prop} (h : parses) (hn : ¬ panics) :
    Outcome (some (.ok a)) parses panics where
  parses_iff := ⟨fun _ => h, fun _ => ⟨a, rfl⟩⟩
  panics_iff := ⟨fun hnone => (by cases hnone), fun hp => absurd hp hn⟩

theorem Outcome.refused {α : Type} {e : Error} {parses panics : Prop} (h : ¬ parses)
    (hn : ¬ panics) : Outcome (α := α) (some (.error e)) parses panics where
  parses_iff := ⟨fun hread => (by obtain ⟨a, ha⟩ := hread; cases ha), fun hp => absurd hp h⟩
  panics_iff := ⟨fun hnone => (by cases hnone), fun hp => absurd hp hn⟩

theorem Outcome.panic {α : Type} {parses panics : Prop} (h : ¬ parses) (hn : panics) :
    Outcome (α := α) none parses panics where
  parses_iff := ⟨fun hread => (by obtain ⟨a, ha⟩ := hread; cases ha), fun hp => absurd hp h⟩
  panics_iff := ⟨fun _ => hn, fun _ => rfl⟩

/-- a step of the parser, and the rest of it when the step reads a value -/
def andThen {α β : Type} (result : Option (Except Error α))
    (rest : α → Option (Except Error β)) : Option (Except Error β) :=
  match result with
  | none => none
  | some (.error e) => some (.error e)
  | some (.ok a) => rest a

theorem Outcome.andThen {α β : Type} {result : Option (Except Error α)}
    {rest : α → Option (Except Error β)} {parses panics parses' panics' : Prop}
    (h : Outcome result parses panics) (hrest : ∀ a, Outcome (rest a) parses' panics') :
    Outcome (Reader.andThen result rest) (parses ∧ parses') (panics ∨ parses ∧ panics') := by
  constructor
  · rw [← h.parses_iff]
    rcases result with _ | e | a
    · simp [Reader.andThen]
    · simp [Reader.andThen]
    · simp [Reader.andThen, (hrest a).parses_iff]
  · rw [← h.parses_iff, ← h.panics_iff]
    rcases result with _ | e | a
    · simp [Reader.andThen]
    · simp [Reader.andThen]
    · simp [Reader.andThen, (hrest a).panics_iff]

/-- a step that is followed by no other -/
theorem Outcome.andThen_read {α β : Type} {result : Option (Except Error α)} {f : α → β}
    {parses panics : Prop} (h : Outcome result parses panics) :
    Outcome (Reader.andThen result fun a => some (.ok (f a))) parses panics := by
  have hread := h.andThen fun a => Outcome.read (a := f a) trivial not_false
  rwa [and_true, and_false, or_false] at hread

theorem parseResponse_array (vs : List Value) :
    parseResponse (.array vs) = andThen (parseElements vs) fun js => some (.ok (.array js)) := by
  rw [parseResponse]
  rcases parseElements vs with _ | e | js <;> rfl

theorem parseResponse_map (kvs : List (Value × Value)) :
    parseResponse (.map kvs) =
      andThen (parseEntries kvs []) fun fields => some (.ok (.object fields)) := by
  rw [parseResponse]
  rcases parseEntries kvs [] with _ | e | fields <;> rfl

theorem parseElements_cons (v : Value) (vs : List Value) :
    parseElements (v :: vs) = andThen (parseResponse v) fun j =>
      andThen (parseElements vs) fun js => some (.ok (j :: js)) := by
  rw [parseElements]
  rcases parseResponse v with _ | e | j
  · rfl
  · rfl
  · rcases parseElements vs with _ | e | js <;> rfl

theorem parseEntries_text (key : String) (v : Value) (kvs : List (Value × Value))
    (fields : List (String × Json)) :
    parseEntries ((.text key, v) :: kvs) fields = andThen (parseResponse v) fun j =>
      parseEntries kvs (insertField key j fields) := by
  rw [parseEntries]
  rcases parseResponse v with _ | e | j <;> rfl

theorem parseEntries_other {k : Value} (hk : ∀ key, k ≠ .text key) (v : Value)
    (kvs : List (Value × Value)) (fields : List (String × Json)) :
    parseEntries ((k, v) :: kvs) fields = parseEntries kvs fields := by
  cases k with
  | text key => exact absurd rfl (hk key)
  | _ => rfl

theorem entryParses_text (key : String) (v : Value) : EntryParses (.text key, v) ↔ Parses v :=
  ⟨fun h => h key rfl, fun h _ _ => h⟩

theorem entryPanics_text (key : String) (v : Value) : EntryPanics (.text key, v) ↔ Panics v :=
  ⟨fun h => h.2, fun h => ⟨⟨key, rfl⟩, h⟩⟩

mutual

theorem parseResponse_spec : ∀ v : Value, Outcome (parseResponse v) (Parses v) (Panics v)
  | .text s => .read (.text s) nofun
  | .bytes b => .read (.bytes b) nofun
  | .bool b => .read (.bool b) nofun
  | .null => .refused nofun nofun
  | .float bits => .refused nofun nofun
  | .integer i => by
    have hlt := i.2.2
    by_cases hi : JsonNumber i
    · have hnumber : jsonI128 i.1 = some (.number i.1) := if_pos ⟨hi, hlt⟩
      rw [parseResponse, hnumber]
      exact .read (.integer i hi) fun hp => by cases hp with | integer i h => exact h hi
    · have hnumber : jsonI128 i.1 = none := if_neg fun h => hi h.1
      rw [parseResponse, hnumber]
      exact .panic (fun hp => by cases hp with | integer i h => exact hi h) (.integer i hi)
  | .tag t v => by
    cases v with
    | text s => exact .read (.taggedText t s) nofun
    | _ => exact .refused nofun nofun
  | .array vs => by
    rw [parseResponse_array, parses_array_iff, panics_array_iff]
    exact (parseElements_spec vs).andThen_read
  | .map kvs => by
    rw [parseResponse_map, parses_map_iff, panics_map_iff]
    exact (parseEntries_spec kvs []).andThen_read

theorem parseElements_spec : ∀ vs : List Value,
    Outcome (parseElements vs) (∀ v ∈ vs, Parses v) (Reaches Parses Panics vs)
  | [] => .read (fun v hv => absurd hv List.not_mem_nil) (reaches_nil _ _)
  | v :: vs => by
    rw [parseElements_cons, List.forall_mem_cons, reaches_cons]
    exact (parseResponse_spec v).andThen fun j => (parseElements_spec vs).andThen_read

theorem parseEntries_spec : ∀ (kvs : List (Value × Value)) (fields : List (String × Json)),
    Outcome (parseEntries kvs fields) (∀ e ∈ kvs, EntryParses e)
      (Reaches EntryParses EntryPanics kvs)
  | [], _ => .read (fun e he => absurd he List.not_mem_nil) (reaches_nil _ _)
  | (k, v) :: kvs, fields => by
    rw [List.forall_mem_cons, reaches_cons]
    by_cases hk : ∃ key, k = .text key
    · obtain ⟨key, rfl⟩ := hk
      rw [parseEntries_text, entryParses_text, entryPanics_text]
      exact (parseResponse_spec v).andThen fun j => parseEntries_spec kvs (insertField key j fields)
    · have hkey : ∀ key, k ≠ .text key := fun key heq => hk ⟨key, heq⟩
      have hparses : EntryParses (k, v) := fun key heq => absurd heq (hkey key)
      have hpanics : ¬ EntryPanics (k, v) := fun h => hk h.1
      rw [parseEntries_other hkey, and_iff_right hparses, or_iff_right hpanics,
        and_iff_right hparses]
      exact parseEntries_spec kvs fields

end

/-! ## the items of a document -/

/-- the parser panics on an item's value -/
def ItemPanics (item : IssuerSignedItemBytes) : Prop := Panics item.inner.elementValue

theorem parseItems_eq_none_iff (items : List IssuerSignedItemBytes)
    (namespaceMap : BTreeMap String Json) :
    parseItems items namespaceMap = none ↔ ∃ item ∈ items, ItemPanics item := by
  induction items generalizing namespaceMap with
  | nil => simp [parseItems]
  | cons item items ih =>
    have hitem : ItemPanics item ↔ parseResponse item.inner.elementValue = none :=
      (parseResponse_spec item.inner.elementValue).panics_iff.symm
    simp only [List.mem_cons, exists_eq_or_imp]
    rw [parseItems, hitem]
    rcases parseResponse item.inner.elementValue with _ | e | val
    · simp
    · simp [ih]
    · simp [ih]

/-- the items of the two namespaces that the reader looks at -/
def DocumentPanics (document : DeviceResponse.Document) : Prop :=
  ∃ namespaces, document.issuerSigned.namespaces = some namespaces ∧
    CORE_NAMESPACE ∈ namespaces.toMap ∧
    ∃ ns ∈ [CORE_NAMESPACE, AAMVA_NAMESPACE], ∃ items, namespaces.toMap[ns]? = some items ∧
      ∃ item ∈ items.toList, ItemPanics item

theorem parseNamespaces_eq_none_iff (deviceResponse : DeviceResponse) :
    parseNamespaces deviceResponse = none ↔
      ∃ document, getDocument deviceResponse = .ok document ∧ DocumentPanics document := by
  unfold parseNamespaces DocumentPanics
  cases hdoc : getDocument deviceResponse with
  | error e => simp
  | ok document =>
    simp only [Except.ok.injEq, exists_eq_left']
    cases hns : document.issuerSigned.namespaces with
    | none => simp
    | some namespaces =>
      simp only [Option.some.injEq, exists_eq_left', BTreeMap.mem_iff_getElem?, List.mem_cons,
        List.not_mem_nil, or_false, exists_eq_or_imp, exists_eq_left]
      cases hcore : namespaces.toMap[CORE_NAMESPACE]? with
      | none => simp
      | some core =>
        have hcorePanics := parseItems_eq_none_iff core.toList ∅
        simp only [Option.some.injEq, exists_eq', exists_eq_left', true_and, ← hcorePanics]
        cases hparsed : parseItems core.toList ∅ with
        | none => simp
        | some parsed =>
          cases haamva : namespaces.toMap[AAMVA_NAMESPACE]? with
          | none => simp
          | some aamva =>
            have haamvaPanics := parseItems_eq_none_iff aamva.toList ∅
            simp only [Option.some.injEq, exists_eq_left', ← haamvaPanics]
            cases parseItems aamva.toList ∅ <;> simp

/-- The parsers return, with a value or an error, except where they reach an integer that `json!`
has no number for. -/
theorem parse_returns_iff (v : Value) (deviceResponse : DeviceResponse) :
    ((∃ result, parseResponse v = some result) ↔ ¬ Panics v) ∧
    ((∃ result, parseNamespaces deviceResponse = some result) ↔
      ∀ document, getDocument deviceResponse = .ok document → ¬ DocumentPanics document) := by
  constructor
  · rw [← Option.ne_none_iff_exists', ne_eq, (parseResponse_spec v).panics_iff]
  · rw [← Option.ne_none_iff_exists', ne_eq, parseNamespaces_eq_none_iff]
    simp only [not_exists, not_and]

open scoped Reference

namespace Sample

/-- an item with a value of its own -/
def itemOf (elementIdentifier : String) (value : Value) : IssuerSignedItemBytes :=
  Device.Sample.tag24 ⟨DigestId.new 1, ⟨[1, 2, 3]⟩, elementIdentifier, value⟩
    (.map [(.text "digestID", .int 1), (.text "random", .bytes [1, 2, 3]),
      (.text "elementIdentifier", .text elementIdentifier), (.text "elementValue", value)])

/-- a response with these items in the core namespace -/
def responseOf (items : NonEmptyVec IssuerSignedItemBytes) : DeviceResponse :=
  { response with documents := some (NonEmptyVec.new { tampered with
      issuerSigned := { namespaces := some (NonEmptyMap.new CORE_NAMESPACE items), issuerAuth } }) }

/-- the first integer that `i64` does not have -/
def belowI64 : Value := .int (-(2 ^ 63) - 1)

end Sample

/-- Both parsers panic on an integer below `i64::MIN`. -/
theorem parse_not_returns :
    (¬ ∀ v : Value, ∃ result, parseResponse v = some result) ∧
      ¬ ∀ deviceResponse : DeviceResponse, ∃ result, parseNamespaces deviceResponse = some result := by
  constructor
  · intro h
    obtain ⟨result, hresult⟩ := h Sample.belowI64
    have hnone : parseResponse Sample.belowI64 = none := by
      rw [(parseResponse_spec Sample.belowI64).panics_iff]
      have hbelow : ¬ (-(2 ^ 63) : Int) ≤ -(2 ^ 63) - 1 := by decide
      exact .integer _ hbelow
    rw [hnone] at hresult
    cases hresult
  · intro h
    obtain ⟨result, hresult⟩ :=
      h (Sample.responseOf (NonEmptyVec.new (Sample.itemOf "age_in_years" Sample.belowI64)))
    have hnone : (parseNamespaces (Sample.responseOf (NonEmptyVec.new
        (Sample.itemOf "age_in_years" Sample.belowI64)))).isNone = true := by
      decide +kernel
    rw [hresult] at hnone
    cases hnone

end Reader

end Isomdl
