import Isomdl.Lib.Cbor.Codec

/-!
# Well-formed encodings of RFC 8949

`takeItem` reads one data item in any of its encodings: heads that are not the shortest, and
strings, arrays and maps of indefinite length.  A simple value below 32 counts in two bytes as well
as in one.  An item is read down to its parts, each kept as its bytes: the elements of an array, the
keys and values of a map, the content of a string.

* `local_takeItem`    what is read does not depend on what follows it;
* `takeItem_refines`  nor on how much fuel there is to spare;
* `WellFormed.append_iff`
                      nothing can follow an item;
* `reads_string`, `reads_array`, `reads_tag`
                      what an encoder writes is read as one item;
* `Reads.elements_wellFormed`
                      the elements of an array are items.
-/

namespace Cbor

variable {α β : Type}

/-! ## parsers -/

/-- `f` reads the bytes `p` as `a`, whatever follows them -/
def ReadsAs (f : Bytes → Option (α × Bytes)) (p : Bytes) (a : α) : Prop :=
  ∀ x, f (p ++ x) = some (a, x)

/-- what `f` reads depends on the bytes that it takes, and on no others -/
def Local (f : Bytes → Option (α × Bytes)) : Prop :=
  ∀ bs a r, f bs = some (a, r) → ∃ p, bs = p ++ r ∧ ReadsAs f p a

/-- whatever `f` reads, `g` reads too -/
def Refines (f g : Bytes → Option (α × Bytes)) : Prop :=
  ∀ bs a r, f bs = some (a, r) → g bs = some (a, r)

theorem Refines.readsAs {f g : Bytes → Option (α × Bytes)} (h : Refines f g) {p : Bytes} {a : α}
    (hp : ReadsAs f p a) : ReadsAs g p a := fun x => h _ _ _ (hp x)

theorem local_some (a : α) : Local fun bs => some (a, bs) := by
  intro bs b r h
  cases h
  exact ⟨[], rfl, fun x => rfl⟩

theorem local_none : Local (fun _ => none : Bytes → Option (α × Bytes)) := by
  intro bs a r h
  cases h

theorem Local.bind {f : Bytes → Option (α × Bytes)} {g : α → Bytes → Option (β × Bytes)}
    (hf : Local f) (hg : ∀ a, Local (g a)) :
    Local fun bs => (f bs).bind fun p => g p.1 p.2 := by
  intro bs b r h
  obtain ⟨⟨a, rest⟩, hread, hrest⟩ := Option.bind_eq_some_iff.mp h
  obtain ⟨p, rfl, hp⟩ := hf _ _ _ hread
  obtain ⟨q, rfl, hq⟩ := hg a _ _ _ hrest
  refine ⟨p ++ q, (List.append_assoc p q r).symm, fun x => ?_⟩
  show (f (p ++ q ++ x)).bind _ = _
  rw [List.append_assoc, hp (q ++ x)]
  exact hq x

theorem Local.map {f : Bytes → Option (α × Bytes)} (hf : Local f) (g : α → β) :
    Local fun bs => (f bs).map fun p => (g p.1, p.2) := by
  intro bs b r h
  obtain ⟨⟨a, rest⟩, hread, heq⟩ := Option.map_eq_some_iff.mp h
  cases heq
  obtain ⟨p, rfl, hp⟩ := hf _ _ _ hread
  refine ⟨p, rfl, fun x => ?_⟩
  show (f (p ++ x)).map _ = _
  rw [hp x]
  rfl

theorem Refines.bind {f f' : Bytes → Option (α × Bytes)}
    {g g' : α → Bytes → Option (β × Bytes)} (hf : Refines f f') (hg : ∀ a, Refines (g a) (g' a)) :
    Refines (fun bs => (f bs).bind fun p => g p.1 p.2)
      (fun bs => (f' bs).bind fun p => g' p.1 p.2) := by
  intro bs b r h
  obtain ⟨⟨a, rest⟩, hread, hrest⟩ := Option.bind_eq_some_iff.mp h
  show (f' bs).bind _ = _
  rw [hf _ _ _ hread]
  exact hg a _ _ _ hrest

theorem Refines.map {f f' : Bytes → Option (α × Bytes)} (hf : Refines f f') (g : α → β) :
    Refines (fun bs => (f bs).map fun p => (g p.1, p.2))
      (fun bs => (f' bs).map fun p => (g p.1, p.2)) := by
  intro bs b r h
  obtain ⟨⟨a, rest⟩, hread, heq⟩ := Option.map_eq_some_iff.mp h
  show (f' bs).map _ = _
  rw [hf _ _ _ hread]
  exact congrArg some heq

theorem Refines.refl (f : Bytes → Option (α × Bytes)) : Refines f f := fun _ _ _ h => h

/-! ### items in a row -/

theorem takeMany_succ (f : Bytes → Option (α × Bytes)) (n : Nat) :
    takeMany f (n + 1) = fun bs =>
      (f bs).bind fun p => (takeMany f n p.2).map fun q => (p.1 :: q.1, q.2) := by
  funext bs
  rw [takeMany]
  cases f bs <;> rfl

theorem Local.takeMany {f : Bytes → Option (α × Bytes)} (hf : Local f) (n : Nat) :
    Local (Cbor.takeMany f n) := by
  induction n with
  | zero => exact local_some []
  | succ n ih =>
    rw [takeMany_succ]
    exact hf.bind fun a => ih.map (a :: ·)

theorem Refines.takeMany {f g : Bytes → Option (α × Bytes)} (h : Refines f g) (n : Nat) :
    Refines (Cbor.takeMany f n) (Cbor.takeMany g n) := by
  induction n with
  | zero => exact Refines.refl _
  | succ n ih =>
    rw [takeMany_succ, takeMany_succ]
    exact h.bind fun a => ih.map (a :: ·)

/-- items up to a break, at most `fuel` of them -/
def takeUntilBreak (f : Bytes → Option (α × Bytes)) : Nat → Bytes → Option (List α × Bytes)
  | 0, _ => none
  | _ + 1, [] => none
  | fuel + 1, b :: bs =>
    if b = 0xff then some ([], bs)
    else (f (b :: bs)).bind fun p => (takeUntilBreak f fuel p.2).map fun q => (p.1 :: q.1, q.2)

theorem takeUntilBreak_cons {f : Bytes → Option (α × Bytes)} (hnil : f [] = none) {p : Bytes}
    {a : α} (hp : ReadsAs f p a) (fuel : Nat) {x : Bytes} (hbreak : p.head? ≠ some 0xff) :
    takeUntilBreak f (fuel + 1) (p ++ x) =
      (takeUntilBreak f fuel x).map fun q => (a :: q.1, q.2) := by
  cases p with
  | nil =>
    have hread := hp []
    rw [List.append_nil, hnil] at hread
    cases hread
  | cons b p =>
    have hb : b ≠ 0xff := fun h => hbreak (congrArg some h)
    have hread := hp x
    rw [List.cons_append] at hread ⊢
    rw [takeUntilBreak, if_neg hb, hread]
    rfl

theorem Local.takeUntilBreak {f : Bytes → Option (α × Bytes)} (hf : Local f) (hnil : f [] = none)
    (fuel : Nat) : Local (Cbor.takeUntilBreak f fuel) := by
  induction fuel with
  | zero => exact local_none
  | succ fuel ih =>
    intro bs as r h
    cases bs with
    | nil => cases h
    | cons b bs =>
      rw [Cbor.takeUntilBreak] at h
      split at h
      · next hb =>
        cases h
        refine ⟨[b], rfl, fun x => ?_⟩
        rw [List.singleton_append, Cbor.takeUntilBreak, if_pos hb]
      · next hb =>
        obtain ⟨⟨a, rest⟩, hread, hrest⟩ := Option.bind_eq_some_iff.mp h
        obtain ⟨⟨as', r'⟩, hmany, heq⟩ := Option.map_eq_some_iff.mp hrest
        cases heq
        obtain ⟨p, hbs, hp⟩ := hf _ _ _ hread
        obtain ⟨q, hrest', hq⟩ := ih _ _ _ hmany
        have hrest'' : rest = q ++ r' := hrest'
        have hbreak : p.head? ≠ some 0xff := by
          cases p with
          | nil =>
            have hempty := hp []
            rw [List.append_nil, hnil] at hempty
            cases hempty
          | cons c p =>
            cases hbs
            exact fun heq => hb (Option.some.inj heq)
        refine ⟨p ++ q, by rw [hbs, hrest'', List.append_assoc], fun x => ?_⟩
        rw [List.append_assoc, takeUntilBreak_cons hnil hp fuel hbreak, hq x]
        rfl

theorem Refines.takeUntilBreak {f g : Bytes → Option (α × Bytes)} (h : Refines f g)
    {fuel fuel' : Nat} (hfuel : fuel ≤ fuel') :
    Refines (Cbor.takeUntilBreak f fuel) (Cbor.takeUntilBreak g fuel') := by
  induction fuel generalizing fuel' with
  | zero =>
    intro bs as r hread
    cases hread
  | succ fuel ih =>
    obtain ⟨fuel', rfl⟩ : ∃ k, fuel' = k + 1 := ⟨fuel' - 1, by omega⟩
    intro bs as r hread
    cases bs with
    | nil => cases hread
    | cons b bs =>
      rw [Cbor.takeUntilBreak] at hread ⊢
      split at hread
      · next hb => rwa [if_pos hb]
      · next hb =>
        rw [if_neg hb]
        exact h.bind (fun a => (ih (by omega)).map (a :: ·)) _ _ _ hread

/-! ## heads -/

/-- the argument after an initial byte with additional information `info`; none for an indefinite
length -/
def takeLength (info : Nat) (bs : Bytes) : Option (Option Nat × Bytes) :=
  if info < 24 then some (some info, bs)
  else if info = 31 then some (none, bs)
  else if info < 28 then (takeBe (2 ^ (info - 24)) bs).map fun p => (some p.1, p.2)
  else none

/-- major type and argument; simple values below 32 are read with a second byte too -/
def takeHead : Bytes → Option ((Nat × Option Nat) × Bytes)
  | [] => none
  | b :: bs => (takeLength (b.toNat % 32) bs).map fun p => ((b.toNat / 32, p.1), p.2)

theorem local_takeBe (w : Nat) : Local (takeBe w) := by
  intro bs n r h
  rw [takeBe] at h
  split at h
  · next hw =>
    cases h
    refine ⟨bs.take w, (List.take_append_drop w bs).symm, fun x => ?_⟩
    have hlen : (bs.take w).length = w := by rw [List.length_take]; omega
    rw [takeBe, if_pos (by rw [List.length_append]; omega)]
    have htake : (bs.take w ++ x).take w = bs.take w := List.take_left' hlen
    have hdrop : (bs.take w ++ x).drop w = x := List.drop_left' hlen
    rw [htake, hdrop]
  · cases h

theorem local_takeBytes (n : Nat) : Local (takeBytes n) := by
  intro bs content r h
  rw [takeBytes] at h
  split at h
  · next hn =>
    cases h
    refine ⟨bs.take n, (List.take_append_drop n bs).symm, fun x => ?_⟩
    have hlen : (bs.take n).length = n := by rw [List.length_take]; omega
    rw [takeBytes, if_pos (by rw [List.length_append]; omega)]
    have htake : (bs.take n ++ x).take n = bs.take n := List.take_left' hlen
    have hdrop : (bs.take n ++ x).drop n = x := List.drop_left' hlen
    rw [htake, hdrop]
  · cases h

theorem local_takeLength (info : Nat) : Local (takeLength info) := by
  unfold takeLength
  by_cases h₀ : info < 24
  · simp only [if_pos h₀]
    exact local_some (some info)
  by_cases h₁ : info = 31
  · simp only [if_neg h₀, if_pos h₁]
    exact local_some none
  by_cases h₂ : info < 28
  · simp only [if_neg h₀, if_neg h₁, if_pos h₂]
    exact (local_takeBe _).map some
  · simp only [if_neg h₀, if_neg h₁, if_neg h₂]
    exact local_none

theorem local_takeHead : Local takeHead := by
  intro bs a r h
  cases bs with
  | nil => cases h
  | cons b bs =>
    obtain ⟨p, hbs, hp⟩ := (local_takeLength (b.toNat % 32)).map (Prod.mk (b.toNat / 32)) bs a r h
    exact ⟨b :: p, by rw [hbs]; rfl, fun x => hp x⟩

theorem takeHead_cons {major info : Nat} {n : Option Nat} {bs rest : Bytes} (hm : major < 7)
    (hi : info < 32) (h : takeLength info bs = some (n, rest)) :
    takeHead (UInt8.ofNat (32 * major + info) :: bs) = some ((major, n), rest) := by
  have hb : (UInt8.ofNat (32 * major + info)).toNat = 32 * major + info := by
    rw [UInt8.toNat_ofNat', Nat.mod_eq_of_lt (by omega)]
  have hinfo : (32 * major + info) % 32 = info := by omega
  have hmajor : (32 * major + info) / 32 = major := by omega
  rw [takeHead, hb, hinfo, h, Option.map_some, hmajor]

theorem takeLength_wide {k n : Nat} (hk : k < 4) (hn : n < 256 ^ 2 ^ k) (rest : Bytes) :
    takeLength (24 + k) (beBytes (2 ^ k) n ++ rest) = some (some n, rest) := by
  have hsub : 24 + k - 24 = k := by omega
  rw [takeLength, if_neg (by omega), if_neg (by omega), if_pos (by omega), hsub,
    takeBe_beBytes hn rest]
  rfl

/-- **The heads that an encoder writes are heads.** -/
theorem takeHead_encodeHead {major n : Nat} (hm : major < 7) (hn : n < 2 ^ 64) :
    ReadsAs takeHead (encodeHead major n) (major, some n) := by
  intro x
  unfold encodeHead
  by_cases h₀ : n < 24
  · rw [if_pos h₀]
    exact takeHead_cons hm (by omega) (if_pos h₀)
  rw [if_neg h₀]
  by_cases h₁ : n < 256 ^ 1
  · rw [if_pos h₁]
    exact takeHead_cons hm (by omega) (takeLength_wide (k := 0) (by omega) h₁ x)
  rw [if_neg h₁]
  by_cases h₂ : n < 256 ^ 2
  · rw [if_pos h₂]
    exact takeHead_cons hm (by omega) (takeLength_wide (k := 1) (by omega) h₂ x)
  rw [if_neg h₂]
  by_cases h₄ : n < 256 ^ 4
  · rw [if_pos h₄]
    exact takeHead_cons hm (by omega) (takeLength_wide (k := 2) (by omega) h₄ x)
  rw [if_neg h₄, if_pos (by omega)]
  exact takeHead_cons hm (by omega) (takeLength_wide (k := 3) (by omega) (by omega) x)

/-! ## items -/

/-- an item that was read: its major type, its argument and its parts -/
structure Item where
  major : Nat
  argument : Option Nat
  parts : List Bytes
  deriving DecidableEq, Repr

/-- what `f` takes, as bytes -/
def span (f : Bytes → Option (α × Bytes)) (bs : Bytes) : Option (Bytes × Bytes) :=
  (f bs).map fun p => (bs.take (bs.length - p.2.length), p.2)

/-- a chunk of a string of indefinite length: a definite string of its major type -/
def takeChunk (major : Nat) (bs : Bytes) : Option (Bytes × Bytes) :=
  (takeHead bs).bind fun p =>
    match p.1.2 with
    | some n => if p.1.1 = major then takeBytes n p.2 else none
    | none => none

/-- the parts of an item after a definite head -/
def takeDefinite (item : Bytes → Option (Bytes × Bytes)) (major n : Nat) (bs : Bytes) :
    Option (List Bytes × Bytes) :=
  if major = 0 ∨ major = 1 ∨ major = 7 then some ([], bs)
  else if major = 2 ∨ major = 3 then (takeBytes n bs).map fun p => ([p.1], p.2)
  else if major = 4 then takeMany item n bs
  else if major = 5 then takeMany item (2 * n) bs
  else takeMany item 1 bs

/-- the parts of an item after an indefinite head, up to its break -/
def takeIndefinite (item : Bytes → Option (Bytes × Bytes)) (fuel major : Nat) (bs : Bytes) :
    Option (List Bytes × Bytes) :=
  if major = 2 ∨ major = 3 then takeUntilBreak (takeChunk major) fuel bs
  else if major = 4 then takeUntilBreak item fuel bs
  else if major = 5 then
    (takeUntilBreak (takeMany item 2) fuel bs).map fun p => (p.1.flatten, p.2)
  else none

def takeParts (item : Bytes → Option (Bytes × Bytes)) (fuel major : Nat) :
    Option Nat → Bytes → Option (List Bytes × Bytes)
  | some n => takeDefinite item major n
  | none => takeIndefinite item fuel major

/-- one item from the front, nested at most `fuel` deep -/
def takeItem : Nat → Bytes → Option (Item × Bytes)
  | 0, _ => none
  | fuel + 1, bs =>
    (takeHead bs).bind fun p =>
      (takeParts (span (takeItem fuel)) fuel p.1.1 p.1.2 p.2).map fun q =>
        (Item.mk p.1.1 p.1.2 q.1, q.2)

theorem Local.span {f : Bytes → Option (α × Bytes)} (hf : Local f) {bs e r : Bytes}
    (h : Cbor.span f bs = some (e, r)) : bs = e ++ r ∧ ∃ a, ReadsAs f e a := by
  obtain ⟨⟨a, rest⟩, hread, heq⟩ := Option.map_eq_some_iff.mp h
  cases heq
  obtain ⟨p, rfl, hp⟩ := hf _ _ _ hread
  have htake : (p ++ rest).take ((p ++ rest).length - rest.length) = p := by
    rw [List.length_append, Nat.add_sub_cancel]
    exact List.take_left
  exact ⟨by rw [htake], a, by rw [htake]; exact hp⟩

theorem ReadsAs.span {f : Bytes → Option (α × Bytes)} {p : Bytes} {a : α} (h : ReadsAs f p a) :
    ReadsAs (Cbor.span f) p p := by
  intro x
  rw [Cbor.span, h x, Option.map_some, List.length_append, Nat.add_sub_cancel, List.take_left]

theorem local_span {f : Bytes → Option (α × Bytes)} (hf : Local f) : Local (span f) := by
  intro bs e r h
  obtain ⟨hbs, a, ha⟩ := hf.span h
  exact ⟨e, hbs, ha.span⟩

theorem Refines.span {f g : Bytes → Option (α × Bytes)} (h : Refines f g) :
    Refines (Cbor.span f) (Cbor.span g) := by
  intro bs e r hread
  obtain ⟨⟨a, rest⟩, ha, heq⟩ := Option.map_eq_some_iff.mp hread
  rw [Cbor.span, h _ _ _ ha]
  exact congrArg some heq

theorem local_takeChunk (major : Nat) : Local (takeChunk major) := by
  refine local_takeHead.bind (g := fun head bs =>
    match head.2 with
    | some n => if head.1 = major then takeBytes n bs else none
    | none => none) ?_
  rintro ⟨major', n⟩
  cases n with
  | none => exact local_none
  | some n =>
    by_cases hm : major' = major
    · simp only [if_pos hm]
      exact local_takeBytes n
    · simp only [if_neg hm]
      exact local_none

theorem span_nil {f : Bytes → Option (α × Bytes)} (h : f [] = none) : span f [] = none := by
  rw [span, h]
  rfl

theorem takeMany_nil {f : Bytes → Option (α × Bytes)} (h : f [] = none) (n : Nat) :
    takeMany f (n + 1) [] = none := by
  rw [takeMany, h]

theorem local_takeParts {item : Bytes → Option (Bytes × Bytes)} (hitem : Local item)
    (hnil : item [] = none) (fuel major : Nat) (n : Option Nat) :
    Local (takeParts item fuel major n) := by
  cases n with
  | some n =>
    show Local (takeDefinite item major n)
    unfold takeDefinite
    split_ifs
    · exact local_some []
    · exact (local_takeBytes n).map fun content => [content]
    · exact hitem.takeMany n
    · exact hitem.takeMany (2 * n)
    · exact hitem.takeMany 1
  | none =>
    show Local (takeIndefinite item fuel major)
    unfold takeIndefinite
    split_ifs
    · exact (local_takeChunk major).takeUntilBreak rfl fuel
    · exact hitem.takeUntilBreak hnil fuel
    · exact ((hitem.takeMany 2).takeUntilBreak (takeMany_nil hnil 1) fuel).map List.flatten
    · exact local_none

theorem takeItem_nil (fuel : Nat) : takeItem fuel [] = none := by
  cases fuel <;> rfl

/-- **An item does not depend on what follows it.** -/
theorem local_takeItem (fuel : Nat) : Local (takeItem fuel) := by
  induction fuel with
  | zero => exact local_none
  | succ fuel ih =>
    have hparts := local_takeParts (local_span ih) (span_nil (takeItem_nil fuel)) fuel
    exact local_takeHead.bind (g := fun head bs =>
      (takeParts (span (takeItem fuel)) fuel head.1 head.2 bs).map fun q =>
        (Item.mk head.1 head.2 q.1, q.2)) fun head =>
      (hparts head.1 head.2).map (Item.mk head.1 head.2)

theorem Refines.takeParts {item item' : Bytes → Option (Bytes × Bytes)} (h : Refines item item')
    {fuel fuel' : Nat} (hfuel : fuel ≤ fuel') (major : Nat) (n : Option Nat) :
    Refines (Cbor.takeParts item fuel major n) (Cbor.takeParts item' fuel' major n) := by
  cases n with
  | some n =>
    show Refines (takeDefinite item major n) (takeDefinite item' major n)
    unfold takeDefinite
    split_ifs
    · exact Refines.refl _
    · exact Refines.refl _
    · exact h.takeMany n
    · exact h.takeMany (2 * n)
    · exact h.takeMany 1
  | none =>
    show Refines (takeIndefinite item fuel major) (takeIndefinite item' fuel' major)
    unfold takeIndefinite
    split_ifs
    · exact (Refines.refl (takeChunk major)).takeUntilBreak hfuel
    · exact h.takeUntilBreak hfuel
    · exact ((h.takeMany 2).takeUntilBreak hfuel).map List.flatten
    · exact Refines.refl _

/-- **More fuel reads the same.** -/
theorem takeItem_refines {fuel fuel' : Nat} (h : fuel ≤ fuel') :
    Refines (takeItem fuel) (takeItem fuel') := by
  induction fuel generalizing fuel' with
  | zero =>
    intro bs item r hread
    cases hread
  | succ fuel ih =>
    obtain ⟨fuel', rfl⟩ : ∃ k, fuel' = k + 1 := ⟨fuel' - 1, by omega⟩
    have hle : fuel ≤ fuel' := by omega
    have hparts (head : Nat × Option Nat) :
        Refines (fun bs => (takeParts (span (takeItem fuel)) fuel head.1 head.2 bs).map fun q =>
            (Item.mk head.1 head.2 q.1, q.2))
          fun bs => (takeParts (span (takeItem fuel')) fuel' head.1 head.2 bs).map fun q =>
            (Item.mk head.1 head.2 q.1, q.2) :=
      ((ih hle).span.takeParts hle head.1 head.2).map (Item.mk head.1 head.2)
    exact (Refines.refl takeHead).bind hparts

/-! ## exactly one item -/

/-- the bytes are exactly one item, with nothing left over -/
def Reads (bs : Bytes) (item : Item) : Prop := ∃ fuel, takeItem fuel bs = some (item, [])

def WellFormed (bs : Bytes) : Prop := ∃ item, Reads bs item

theorem Reads.readsAs {bs : Bytes} {item : Item} (h : Reads bs item) :
    ∃ fuel, ∀ fuel', fuel ≤ fuel' → ReadsAs (takeItem fuel') bs item := by
  obtain ⟨fuel, hread⟩ := h
  obtain ⟨p, hbs, hp⟩ := local_takeItem fuel _ _ _ hread
  rw [List.append_nil] at hbs
  exact ⟨fuel, fun fuel' hle => (takeItem_refines hle).readsAs (hbs ▸ hp)⟩

theorem Reads.of_readsAs (fuel : Nat) {bs : Bytes} {item : Item}
    (h : ReadsAs (takeItem fuel) bs item) : Reads bs item := by
  have hread := h []
  rw [List.append_nil] at hread
  exact ⟨fuel, hread⟩

/-- **Nothing can follow an item.** -/
theorem WellFormed.append_iff {bs : Bytes} (h : WellFormed bs) (rest : Bytes) :
    WellFormed (bs ++ rest) ↔ rest = [] := by
  constructor
  · intro hlonger
    obtain ⟨item, hitem⟩ := h
    obtain ⟨item', hitem'⟩ := hlonger
    obtain ⟨fuel, hread⟩ := hitem.readsAs
    obtain ⟨fuel', hread'⟩ := hitem'.readsAs
    have hfirst := hread (max fuel fuel') (Nat.le_max_left _ _) rest
    have hwhole := hread' (max fuel fuel') (Nat.le_max_right _ _) []
    rw [List.append_nil, hfirst] at hwhole
    exact congrArg Prod.snd (Option.some.inj hwhole)
  · intro hrest
    rwa [hrest, List.append_nil]

/-! ### items with definite heads -/

theorem readsAs_takeItem {fuel major n : Nat} (hm : major < 7) (hn : n < 2 ^ 64) {body : Bytes}
    {parts : List Bytes} (h : ReadsAs (takeDefinite (span (takeItem fuel)) major n) body parts) :
    ReadsAs (takeItem (fuel + 1)) (encodeHead major n ++ body) ⟨major, some n, parts⟩ := by
  intro x
  rw [takeItem, List.append_assoc, takeHead_encodeHead hm hn, Option.bind_some]
  show (takeDefinite (span (takeItem fuel)) major n (body ++ x)).map _ = _
  rw [h x]
  rfl

/-- **A string is one item, with its content as its part.** -/
theorem reads_string {major : Nat} (hm : major = 2 ∨ major = 3) {content : Bytes}
    (hlength : content.length < 2 ^ 64) :
    Reads (encodeHead major content.length ++ content)
      ⟨major, some content.length, [content]⟩ := by
  refine Reads.of_readsAs (0 + 1) (readsAs_takeItem (by omega) hlength fun x => ?_)
  rw [takeDefinite, if_neg (by omega), if_pos hm, takeBytes_append]
  rfl

theorem readsAs_takeMany {f : Bytes → Option (Bytes × Bytes)} {es : List Bytes}
    (h : ∀ e ∈ es, ReadsAs f e e) : ReadsAs (takeMany f es.length) es.flatten es := by
  induction es with
  | nil => exact fun x => rfl
  | cons e es ih =>
    intro x
    rw [List.flatten_cons, List.append_assoc, List.length_cons, takeMany,
      h e List.mem_cons_self (es.flatten ++ x)]
    show (takeMany f es.length (es.flatten ++ x)).map _ = _
    rw [ih (fun e' he' => h e' (List.mem_cons_of_mem e he')) x]
    rfl

/-- enough fuel for every item of a list -/
theorem exists_fuel {es : List Bytes} (h : ∀ e ∈ es, WellFormed e) :
    ∃ fuel, ∀ e ∈ es, ReadsAs (span (takeItem fuel)) e e := by
  induction es with
  | nil => exact ⟨0, fun e he => absurd he List.not_mem_nil⟩
  | cons e es ih =>
    obtain ⟨item, hitem⟩ := h e List.mem_cons_self
    obtain ⟨fuel, hread⟩ := hitem.readsAs
    obtain ⟨fuel', hrest⟩ := ih fun e' he' => h e' (List.mem_cons_of_mem e he')
    refine ⟨max fuel fuel', fun e' he' => ?_⟩
    rcases List.mem_cons.mp he' with rfl | he'
    · exact (hread _ (Nat.le_max_left _ _)).span
    · exact (takeItem_refines (Nat.le_max_right _ _)).span.readsAs (hrest e' he')

/-- **Items in a row, under the head of an array, are the elements of one.** -/
theorem reads_array {es : List Bytes} (hlength : es.length < 2 ^ 64)
    (h : ∀ e ∈ es, WellFormed e) :
    Reads (encodeHead 4 es.length ++ es.flatten) ⟨4, some es.length, es⟩ := by
  obtain ⟨fuel, hfuel⟩ := exists_fuel h
  refine Reads.of_readsAs (fuel + 1) (readsAs_takeItem (by omega) hlength fun x => ?_)
  rw [takeDefinite, if_neg (by omega), if_neg (by omega), if_pos rfl]
  exact readsAs_takeMany hfuel x

/-- **An item under a tag is one item.** -/
theorem reads_tag {t : Nat} (ht : t < 2 ^ 64) {e : Bytes} (h : WellFormed e) :
    Reads (encodeHead 6 t ++ e) ⟨6, some t, [e]⟩ := by
  have hwell : ∀ e' ∈ [e], WellFormed e' := List.forall_mem_singleton.mpr h
  obtain ⟨fuel, hfuel⟩ := exists_fuel hwell
  refine Reads.of_readsAs (fuel + 1) (readsAs_takeItem (by omega) ht fun x => ?_)
  rw [takeDefinite, if_neg (by omega), if_neg (by omega), if_neg (by omega), if_neg (by omega)]
  have hmany := readsAs_takeMany hfuel x
  rwa [List.flatten_singleton] at hmany

theorem takeMany_mem {f : Bytes → Option (α × Bytes)} {n : Nat} {bs r : Bytes} {as : List α}
    (h : takeMany f n bs = some (as, r)) : ∀ a ∈ as, ∃ bs' r', f bs' = some (a, r') := by
  induction n generalizing bs as with
  | zero =>
    cases h
    exact fun a ha => absurd ha List.not_mem_nil
  | succ n ih =>
    rw [takeMany_succ] at h
    obtain ⟨⟨a, rest⟩, hread, hrest⟩ := Option.bind_eq_some_iff.mp h
    obtain ⟨⟨as', r'⟩, hmany, heq⟩ := Option.map_eq_some_iff.mp hrest
    cases heq
    intro a' ha'
    rcases List.mem_cons.mp ha' with rfl | ha'
    · exact ⟨bs, rest, hread⟩
    · exact ih hmany a' ha'

/-- **The elements of an array are items.** -/
theorem Reads.elements_wellFormed {bs : Bytes} {n : Nat} {es : List Bytes}
    (h : Reads bs ⟨4, some n, es⟩) : ∀ e ∈ es, WellFormed e := by
  obtain ⟨fuel, hread⟩ := h
  cases fuel with
  | zero => cases hread
  | succ fuel =>
    obtain ⟨⟨⟨major, argument⟩, rest⟩, -, hbody⟩ := Option.bind_eq_some_iff.mp hread
    obtain ⟨⟨parts, r⟩, hparts, heq⟩ := Option.map_eq_some_iff.mp hbody
    cases heq
    intro e he
    have hmany : takeMany (span (takeItem fuel)) n rest = some (parts, []) := hparts
    obtain ⟨bs', r', hspan⟩ := takeMany_mem hmany e he
    obtain ⟨-, item, hitem⟩ := (local_takeItem fuel).span hspan
    exact ⟨item, Reads.of_readsAs _ hitem⟩

end Cbor
