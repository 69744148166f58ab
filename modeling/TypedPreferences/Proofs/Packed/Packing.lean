import Mathlib.Algebra.Ring.Int.Defs
import Mathlib.Tactic.SplitIfs
import TypedPreferences.Packed.Tree
import TypedPreferences.Proofs.Store.Carriers
import TypedPreferences.Proofs.Text.Bytes

/-! What is packed can be parsed, whatever follows it: a structured value that fits the packed form
stands in its bytes as one value, whose form is stated here for every structured value. -/

namespace TypedPreferences.Packed

section Bytes

@[simp]
theorem length_highBytes (width n : Nat) : (highBytes width n).length = width := by
  rw [highBytes, List.length_reverse, Nullable.length_lowBytes]

theorem foldl_highBytes (width n : Nat) :
    (highBytes width n).foldl (fun n b => 256 * n + b.toNat) 0 = n % 256 ^ width := by
  have hfold (bytes : List UInt8) :
      bytes.foldr (fun b n => 256 * n + b.toNat) 0 = Nullable.ofBytes bytes := by
    induction bytes with
    | nil => rfl
    | cons b rest ih => rw [List.foldr_cons, ih, Nullable.ofBytes, Nat.add_comm]
  rw [highBytes, List.foldl_reverse, hfold, Nullable.ofBytes_lowBytes]

theorem number_highBytes (width : Nat) {n : Nat} (h : n < 256 ^ width) (rest : List UInt8) :
    number width (highBytes width n ++ rest) = some (n, rest) := by
  have hlength : ¬(highBytes width n ++ rest).length < width := by
    rw [List.length_append, length_highBytes]
    omega
  have htaken : (highBytes width n ++ rest).take width = highBytes width n :=
    List.take_left' (length_highBytes width n)
  have hleft : (highBytes width n ++ rest).drop width = rest :=
    List.drop_left' (length_highBytes width n)
  rw [number, if_neg hlength, htaken, hleft, foldl_highBytes, Nat.mod_eq_of_lt h]

theorem take_append (bytes rest : List UInt8) :
    take bytes.length (bytes ++ rest) = some (bytes, rest) := by
  simp only [take, List.take_left, List.drop_left, Nat.lt_irrefl, if_false]

theorem counted_highBytes {α : Type} (width : Nat) {n : Nat} (h : n < 256 ^ width)
    (p : Nat → Parse α) (rest : List UInt8) :
    counted width p (highBytes width n ++ rest) = p n rest := by
  rw [counted, number_highBytes width h]
  rfl

theorem yields_eq {α β : Type} {p : Parse α} {bytes rest : List UInt8} {a : α}
    (h : p bytes = some (a, rest)) (f : α → β) : yields p f bytes = some (f a, rest) := by
  rw [yields, h, Option.map_some]

theorem two_pow_eq_double {width : Nat} (hwidth : 0 < width) :
    2 ^ (8 * width) = 2 * 2 ^ (8 * width - 1) := by
  have hbits : 8 * width = 8 * width - 1 + 1 := by omega
  rw [hbits, Nat.pow_succ', Nat.add_sub_cancel]

/-- A number below zero comes back from its two's complement. -/
theorem signedOf_complement {width : Nat} {n : Int} (hwidth : 0 < width)
    (hleast : -(2 ^ (8 * width - 1) : Nat) ≤ n) (hneg : n < 0) :
    signedOf width ((2 ^ (8 * width) : Nat) + n).toNat = n := by
  have hdouble := two_pow_eq_double hwidth
  rw [signedOf, Nat.one_shiftLeft, Nat.one_shiftLeft, if_neg (by omega)]
  omega

end Bytes

/-- The parser of what stands in a value, where values may stand `depth` deep in it. -/
def inside : Nat → Option (Parse Wire)
  | 0 => none
  | depth + 1 => some (value depth)

theorem value_cons (depth : Nat) (first : UInt8) (bytes : List UInt8) :
    value depth (first :: bytes) = body first (inside depth) bytes := by
  cases depth <;> rfl

section Heads

variable {n : Nat} (depth : Nat) (bytes : List UInt8)

theorem toNat_toUInt8 (h : n < 256) : n.toUInt8.toNat = n := by
  have hbyte : n.toUInt8.toNat = n % 256 := UInt8.toNat_ofNat'
  rw [hbyte, Nat.mod_eq_of_lt h]

theorem toNat_add_toUInt8 {first : UInt8} (h : first.toNat + n < 256) :
    (first + n.toUInt8).toNat = first.toNat + n := by
  rw [UInt8.toNat_add, toNat_toUInt8 (by omega), Nat.mod_eq_of_lt h]

theorem value_textHead (h : n < 256 ^ 4) :
    value depth (textHead n ++ bytes) = yields (take n) .text bytes := by
  let text (n : Nat) : Parse Wire := yields (take n) .text
  rw [textHead]
  split_ifs with hshort hone htwo
  · have hfirst : (0xa0 + n).toUInt8.toNat = 0xa0 + n := toNat_toUInt8 (by omega)
    rw [List.singleton_append, value_cons, body, hfirst]
    dsimp only
    rw [if_neg (by omega), if_neg (by omega), if_neg (by omega), if_pos (by omega),
      Nat.add_sub_cancel_left]
  · rw [List.cons_append, value_cons]
    exact counted_highBytes 1 hone text bytes
  · rw [List.cons_append, value_cons]
    exact counted_highBytes 2 htwo text bytes
  · rw [List.cons_append, value_cons]
    exact counted_highBytes 4 h text bytes

/-- The head of a container has one of three forms, which agree on what stands in the container. -/
theorem value_containerHead {short two four : UInt8} {p : Nat → Parse Wire}
    (hshort : ∀ count < 16, ∀ bytes,
      body (short + count.toUInt8) (inside depth) bytes = p count bytes)
    (htwo : body two (inside depth) = counted 2 p)
    (hfour : body four (inside depth) = counted 4 p) (h : n < 256 ^ 4) :
    value depth (containerHead short two four n ++ bytes) = p n bytes := by
  rw [containerHead]
  split_ifs with hfew hmore
  · rw [List.singleton_append, value_cons, hshort n hfew]
  · rw [List.cons_append, value_cons, htwo, counted_highBytes 2 hmore]
  · rw [List.cons_append, value_cons, hfour, counted_highBytes 4 h]

theorem value_arrayHead (h : n < 256 ^ 4) :
    value (depth + 1) (arrayHead n ++ bytes) = yields (many (value depth) n) .array bytes := by
  refine value_containerHead (depth + 1) bytes (p := fun count =>
    yields (many (value depth) count) .array) ?_ rfl rfl h
  intro count hcount bytes
  have hbyte : 0x90 + count < 256 := by omega
  have hfirst : (0x90 + count.toUInt8).toNat = 0x90 + count := toNat_add_toUInt8 hbyte
  rw [body, hfirst]
  dsimp only
  rw [if_neg (by omega), if_neg (by omega), if_pos (by omega), Nat.add_sub_cancel_left]
  rfl

theorem value_mapHead (h : n < 256 ^ 4) :
    value (depth + 1) (mapHead n ++ bytes) =
      yields (many (pair (value depth) (value depth)) n) .map bytes := by
  refine value_containerHead (depth + 1) bytes (p := fun count =>
    yields (many (pair (value depth) (value depth)) count) .map) ?_ rfl rfl h
  intro count hcount bytes
  have hbyte : 0x80 + count < 256 := by omega
  have hfirst : (0x80 + count.toUInt8).toNat = 0x80 + count := toNat_add_toUInt8 hbyte
  have hgreater : ¬0x80 + count < 0x80 := by omega
  rw [body, hfirst]
  dsimp only
  rw [if_neg hgreater, if_pos (by omega), Nat.add_sub_cancel_left]
  rfl

end Heads

section Values

variable (depth : Nat) (rest : List UInt8)

theorem value_packNat {n : Nat} (h : n < 256 ^ 8) :
    value depth (packInt n ++ rest) = some (.unsigned n, rest) := by
  rw [packInt, if_pos (Int.natCast_nonneg n), Int.toNat_natCast]
  dsimp only
  split_ifs with hshort hone htwo hfour
  · have hfirst : n.toUInt8.toNat = n := toNat_toUInt8 (by omega)
    rw [List.singleton_append, value_cons, body, hfirst]
    exact if_pos hshort
  · rw [List.cons_append, value_cons]
    exact yields_eq (number_highBytes 1 hone rest) Wire.unsigned
  · rw [List.cons_append, value_cons]
    exact yields_eq (number_highBytes 2 htwo rest) Wire.unsigned
  · rw [List.cons_append, value_cons]
    exact yields_eq (number_highBytes 4 hfour rest) Wire.unsigned
  · rw [List.cons_append, value_cons]
    exact yields_eq (number_highBytes 8 h rest) Wire.unsigned

/-- A number below zero is read from its two's complement. -/
theorem yields_complement (width : Nat) {n : Int} (hwidth : 0 < width)
    (hleast : -(2 ^ (8 * width - 1) : Nat) ≤ n) (hneg : n < 0) :
    yields (number width) (fun n => Wire.signed (signedOf width n))
        (highBytes width ((2 ^ (8 * width) : Nat) + n).toNat ++ rest) =
      some (.signed n, rest) := by
  have hbytes : ((2 ^ (8 * width) : Nat) + n).toNat < 256 ^ width := by
    have hpow : 256 ^ width = 2 ^ (8 * width) := (Nat.pow_mul 2 8 width).symm
    have hdouble := two_pow_eq_double hwidth
    omega
  have hread := yields_eq (number_highBytes width hbytes rest) fun n =>
    Wire.signed (signedOf width n)
  rw [signedOf_complement hwidth hleast hneg] at hread
  exact hread

theorem value_packInt {n : Int} (hleast : -2 ^ 63 ≤ n) (hneg : n < 0) :
    value depth (packInt n ++ rest) = some (.signed n, rest) := by
  rw [packInt, if_neg (by omega)]
  split_ifs with hshort hone htwo hfour
  · have hfirst : (256 + n).toNat.toUInt8.toNat = (256 + n).toNat := toNat_toUInt8 (by omega)
    rw [List.singleton_append, value_cons, body, hfirst]
    dsimp only
    rw [if_neg (by omega), if_neg (by omega), if_neg (by omega), if_neg (by omega),
      if_pos (by omega)]
    have hback : ((256 + n).toNat : Int) - 256 = n := by omega
    rw [hback]
  · rw [List.cons_append, value_cons]
    exact yields_complement rest 1 (by decide) hone hneg
  · rw [List.cons_append, value_cons]
    exact yields_complement rest 2 (by decide) htwo hneg
  · rw [List.cons_append, value_cons]
    exact yields_complement rest 4 (by decide) hfour hneg
  · rw [List.cons_append, value_cons]
    exact yields_complement rest 8 (by decide) hleast hneg

theorem value_packText {s : String} (h : s.utf8ByteSize < 256 ^ 4) :
    value depth (packText s ++ rest) = some (.text s.toUTF8.toList, rest) := by
  rw [packText, List.append_assoc, value_textHead depth _ h, ← Text.length_toUTF8]
  exact yields_eq (take_append _ rest) Wire.text

end Values

mutual

/-- The form in which a value stands in its bytes. -/
def Tree.wire : Tree → Wire
  | .unit => .nil
  | .bool b => .bool b
  | .int n => if 0 ≤ n then .unsigned n.toNat else .signed n
  | .single x => .single x
  | .double x => .double x
  | .text s => .text s.toUTF8.toList
  | .missing => .nil
  | .given t => t.wire
  | .list items => .array (wireItems items)
  | .dictionary entries => .map (wireEntries entries)
  | .record fields => .map (wireEntries fields)
  | .choice name none => .text name.toUTF8.toList
  | .choice name (some content) => .map [(.text name.toUTF8.toList, content.wire)]

def wireItems : List Tree → List Wire
  | [] => []
  | t :: rest => t.wire :: wireItems rest

def wireEntries : List (String × Tree) → List (Wire × Wire)
  | [] => []
  | (name, t) :: rest => (.text name.toUTF8.toList, t.wire) :: wireEntries rest

end

mutual

/-- A value fits the packed form: its numbers have at most 64 bits, its lengths at most 32, and its
containers stand at most `depth` deep in each other. -/
def Tree.Fits : Nat → Tree → Prop
  | _, .int n => -2 ^ 63 ≤ n ∧ n < 2 ^ 64
  | _, .text s => s.utf8ByteSize < 256 ^ 4
  | depth, .given t => t.Fits depth
  | depth + 1, .list items => items.length < 256 ^ 4 ∧ FitItems depth items
  | depth + 1, .dictionary entries => entries.length < 256 ^ 4 ∧ FitEntries depth entries
  | depth + 1, .record fields => fields.length < 256 ^ 4 ∧ FitEntries depth fields
  | _, .choice name none => name.utf8ByteSize < 256 ^ 4
  | depth + 1, .choice name (some content) => name.utf8ByteSize < 256 ^ 4 ∧ content.Fits depth
  | 0, .list _ | 0, .dictionary _ | 0, .record _ | 0, .choice _ (some _) => False
  | _, .unit | _, .bool _ | _, .single _ | _, .double _ | _, .missing => True

def FitItems : Nat → List Tree → Prop
  | _, [] => True
  | depth, t :: rest => t.Fits depth ∧ FitItems depth rest

def FitEntries : Nat → List (String × Tree) → Prop
  | _, [] => True
  | depth, (name, t) :: rest =>
    name.utf8ByteSize < 256 ^ 4 ∧ t.Fits depth ∧ FitEntries depth rest

end

mutual

/-- A value that fits is parsed from its bytes, and what follows them is left. -/
theorem Tree.value_pack (t : Tree) (depth : Nat) (h : t.Fits depth) (rest : List UInt8) :
    value depth (t.pack ++ rest) = some (t.wire, rest) := by
  -- By recursion on the tree, with any bytes behind it: a part is read where the part before it
  -- ended.
  cases t with
  | unit =>
    rw [Tree.pack, List.singleton_append, value_cons]
    rfl
  | bool b =>
    rw [Tree.pack, List.singleton_append, value_cons]
    cases b <;> rfl
  | int n =>
    obtain ⟨hleast, hgreatest⟩ := h
    rw [Tree.pack, Tree.wire]
    split
    · rename_i hsign
      -- Numbers below zero have heads of their own; the others are packed as naturals.
      have hnat : n.toNat < 256 ^ 8 := by omega
      have hread := value_packNat depth rest hnat
      rw [Int.toNat_of_nonneg hsign] at hread
      exact hread
    · rename_i hsign
      exact value_packInt depth rest hleast (Int.not_le.1 hsign)
  | single x =>
    have hbits : x.bits.toNat < 256 ^ 4 := x.bits.toNat_lt
    have hback : (⟨UInt32.ofNat x.bits.toNat⟩ : Binary32) = x := by rw [UInt32.ofNat_toNat]
    have hread := yields_eq (number_highBytes 4 hbits rest) fun n => Wire.single ⟨UInt32.ofNat n⟩
    rw [hback] at hread
    rw [Tree.pack, List.cons_append, value_cons]
    exact hread
  | double x =>
    have hbits : x.bits.toNat < 256 ^ 8 := x.bits.toNat_lt
    have hback : (⟨UInt64.ofNat x.bits.toNat⟩ : Binary64) = x := by rw [UInt64.ofNat_toNat]
    have hread := yields_eq (number_highBytes 8 hbits rest) fun n => Wire.double ⟨UInt64.ofNat n⟩
    rw [hback] at hread
    rw [Tree.pack, List.cons_append, value_cons]
    exact hread
  | text s =>
    rw [Tree.Fits] at h
    rw [Tree.pack, Tree.wire, value_packText depth rest h]
  | missing =>
    rw [Tree.pack, List.singleton_append, value_cons]
    rfl
  | given t =>
    rw [Tree.Fits] at h
    rw [Tree.pack, Tree.wire, t.value_pack depth h rest]
  | list items =>
    -- The depth that is left bounds the nesting, and one of it is spent on each array and map.
    cases depth with
    | zero => cases h
    | succ depth =>
      obtain ⟨hlength, hitems⟩ := h
      rw [Tree.pack, Tree.wire, List.append_assoc, value_arrayHead depth _ hlength]
      exact yields_eq (many_packItems items depth hitems rest) Wire.array
  | dictionary entries =>
    cases depth with
    | zero => cases h
    | succ depth =>
      obtain ⟨hlength, hentries⟩ := h
      rw [Tree.pack, Tree.wire, List.append_assoc, value_mapHead depth _ hlength]
      exact yields_eq (many_packEntries entries depth hentries rest) Wire.map
  | record fields =>
    cases depth with
    | zero => cases h
    | succ depth =>
      obtain ⟨hlength, hentries⟩ := h
      rw [Tree.pack, Tree.wire, List.append_assoc, value_mapHead depth _ hlength]
      exact yields_eq (many_packEntries fields depth hentries rest) Wire.map
  | choice name content =>
    cases content with
    | none =>
      rw [Tree.Fits] at h
      rw [Tree.pack, Tree.wire, value_packText depth rest h]
    | some content =>
      cases depth with
      | zero => cases h
      | succ depth =>
        -- With content, a choice is a map of one entry.
        obtain ⟨hname, hcontent⟩ := h
        have hkey := value_packText depth (content.pack ++ rest) hname
        have hread := content.value_pack depth hcontent rest
        rw [Tree.pack, Tree.wire, List.append_assoc, List.append_assoc,
          value_mapHead depth _ (by decide)]
        apply yields_eq
        simp only [many, pair, hkey, hread, Option.bind_eq_bind, Option.bind_some, Option.pure_def]

theorem many_packItems (items : List Tree) (depth : Nat) (h : FitItems depth items)
    (rest : List UInt8) :
    many (value depth) items.length (packItems items ++ rest) = some (wireItems items, rest) := by
  cases items with
  | nil => rw [packItems, wireItems, List.nil_append, List.length_nil, many]
  | cons t items =>
    obtain ⟨ht, hitems⟩ := h
    have hfirst := t.value_pack depth ht (packItems items ++ rest)
    have hothers := many_packItems items depth hitems rest
    rw [packItems, wireItems, List.append_assoc, List.length_cons, many, hfirst]
    simp only [Option.bind_eq_bind, Option.bind_some, hothers, Option.pure_def]

theorem many_packEntries (entries : List (String × Tree)) (depth : Nat)
    (h : FitEntries depth entries) (rest : List UInt8) :
    many (pair (value depth) (value depth)) entries.length (packEntries entries ++ rest) =
      some (wireEntries entries, rest) := by
  cases entries with
  | nil => rw [packEntries, wireEntries, List.nil_append, List.length_nil, many]
  | cons entry entries =>
    obtain ⟨name, t⟩ := entry
    obtain ⟨hname, ht, hentries⟩ := h
    have hkey := value_packText depth (t.pack ++ (packEntries entries ++ rest)) hname
    have hcontent := t.value_pack depth ht (packEntries entries ++ rest)
    have hothers := many_packEntries entries depth hentries rest
    rw [packEntries, wireEntries, List.append_assoc, List.append_assoc, List.length_cons, many,
      pair, hkey]
    simp only [Option.bind_eq_bind, Option.bind_some, hcontent, hothers, Option.pure_def]

end

end TypedPreferences.Packed
