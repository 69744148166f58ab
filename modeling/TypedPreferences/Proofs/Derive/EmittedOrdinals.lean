import Mathlib.Data.List.Find
import TypedPreferences.Proofs.Derive.EmittedMembers
import TypedPreferences.Proofs.Derive.Numbering

/-! The emitted array and both emitted functions agree: they number the entries of an enumeration
from zero in the order of their declaration, and no other number leads to an entry. An enumeration
is refused only for what cannot be numbered. -/

namespace TypedPreferences.Derive

open Source Emission

section Meaning

variable (name : String) (o : Ordinals)

/-- The emitted array holds the entries in their order. -/
theorem elements?_ordinalImplementation :
    elements? (ordinalImplementation name o) "ENTRIES" = some (o.entries.map .entry) := by
  have hpaths : (o.numbered.map fun e => entryPath e.1) = o.entries.map entryPath := by
    have hnames : o.numbered.map Prod.fst = o.entries := List.zipIdx_map_fst 0 o.entries
    rw [← hnames, List.map_map]
    rfl
  have hparts : parts (commas (o.entries.map entryPath)) = o.entries.map entryPath :=
    parts_commas (List.forall_mem_map.2 fun e _ => isPart_entryPath e)
  have helements : (o.entries.map entryPath).mapM Denoted.ofTokens? =
      some (o.entries.map .entry) := by
    have hentry : Denoted.ofTokens? ∘ entryPath = fun e => some (.entry e) :=
      funext ofTokens?_entryPath
    rw [List.mapM_map, hentry]
    exact List.mapM_pure
  rw [elements?, membersOf_ordinalImplementation, hpaths]
  exact (congrArg (List.mapM Denoted.ofTokens?) hparts).trans helements

theorem takes_entryPath (argument entry : String) :
    takes (.entry argument) (entryPath entry) = (entry == argument) := by
  have htakes : takes (.entry argument) (entryPath entry) =
      decide (some (Denoted.entry entry) = some (.entry argument)) := rfl
  rw [htakes, Bool.eq_iff_iff, decide_eq_true_iff, beq_iff_eq, Option.some.injEq,
    Denoted.entry.injEq]

theorem find?_eq_lookup (l : List (String × Nat)) (key : String) :
    (l.find? (·.1 == key)).map (·.2) = l.lookup key := by
  induction l with
  | nil => rfl
  | cons e l ih =>
    rw [List.find?_cons, List.lookup_cons, ← ih, BEq.comm]
    cases key == e.1 <;> rfl

/-- The emitted function gives the ordinals of the entries. -/
theorem called?_ordinal_entry (entry : String) :
    called? (ordinalImplementation name o) "ordinal" "self" (.entry entry) =
      (o.ordinal? entry).map fun i => .ordinal (Int32.ofNat i) := by
  rw [called?_ordinal, matched?_spelledArms (List.forall_mem_map.2 fun e _ => isArm_ordinalArm e),
    List.find?_map]
  simp only [Function.comp_def, ordinalArm, takes_entryPath]
  rw [Ordinals.ordinal?, ← find?_eq_lookup]
  cases o.numbered.find? (·.1 == entry) with
  | none => rfl
  | some e =>
    rw [Option.map_some, Option.bind_some, ordinalArm, ofTokens?_int32Literal, Option.map_some,
      Option.map_some]

theorem takes_int32Literal (argument n : Int32) :
    takes (.ordinal argument) [int32Literal n] = (n == argument) := by
  have htakes : takes (.ordinal argument) [int32Literal n] =
      decide (Denoted.ofTokens? [int32Literal n] = some (.ordinal argument)) := rfl
  rw [htakes, ofTokens?_int32Literal, Bool.eq_iff_iff, decide_eq_true_iff, beq_iff_eq,
    Option.some.injEq, Denoted.ordinal.injEq]

/-- The emitted function leads from numbers to entries, as the ordinals do. -/
theorem called?_from_ordinal_ordinal (h : o.entries.length ≤ 2 ^ 31) (n : Int32) :
    called? (ordinalImplementation name o) "from_ordinal" "ordinal" (.ordinal n) =
      some (.found (o.ofOrdinal? n.toInt)) := by
  have harms : ∀ a ∈ o.numbered.map foundArm ++ [otherwiseArm], IsArm a := by
    intro a ha
    rcases List.mem_append.1 ha with ha | ha
    · obtain ⟨e, -, rfl⟩ := List.mem_map.1 ha
      exact isArm_foundArm e
    · rw [List.mem_singleton.1 ha]
      exact isArm_otherwiseArm
  -- All places are below the bound, so the numbers of two arms differ as their places do.
  have hplaces : o.numbered.find? (fun e => Int32.ofNat e.2 == n) =
      o.numbered.find? fun e => (e.2 : Int) == n.toInt := by
    apply List.find?_congr
    intro e he
    have hlt : e.2 < o.entries.length + 0 := List.snd_lt_of_mem_zipIdx he
    rw [Bool.eq_iff_iff, beq_iff_eq, beq_iff_eq, ← Int32.toInt_inj,
      Int32.toInt_ofNat_of_lt (by omega)]
  rw [called?_from_ordinal, matched?_spelledArms harms, List.find?_append, List.find?_map]
  simp only [Function.comp_def, foundArm, takes_int32Literal]
  rw [hplaces, Ordinals.ofOrdinal?]
  cases o.numbered.find? (fun e => (e.2 : Int) == n.toInt) with
  | none => exact ofTokens?_none
  | some e =>
    rw [Option.map_some, Option.some_or, Option.bind_some, foundArm]
    exact ofTokens?_some e.1

end Meaning

section Expansion

variable {variants : List Variant}

theorem mapM_plainVariant_of_unit (h : ∀ v ∈ variants, v.fields = .unit) :
    variants.mapM plainVariant = .ok (variants.map (·.name)) := by
  induction variants with
  | nil => rfl
  | cons v variants ih =>
    obtain ⟨hv, hvariants⟩ := List.forall_mem_cons.1 h
    have hplain : plainVariant v = .ok v.name := by rw [plainVariant, hv]
    rw [List.mapM_cons, hplain, ih hvariants]
    rfl

theorem mapM_plainVariant_of_data (h : ∃ v ∈ variants, v.fields ≠ .unit) :
    variants.mapM plainVariant = .error .variantWithData := by
  induction variants with
  | nil =>
    obtain ⟨v, hv, -⟩ := h
    cases hv
  | cons v variants ih =>
    rw [List.mapM_cons]
    by_cases hv : v.fields = .unit
    -- The first variant is plain, so the one with data is a later one.
    · have hplain : plainVariant v = .ok v.name := by rw [plainVariant, hv]
      have hlater : ∃ w ∈ variants, w.fields ≠ .unit := by
        obtain ⟨w, hw, hdata⟩ := h
        rcases List.mem_cons.1 hw with rfl | hw
        · exact absurd hv hdata
        · exact ⟨w, hw, hdata⟩
      rw [hplain, ih hlater]
      rfl
    · have hdata : plainVariant v = .error .variantWithData := by
        rw [plainVariant]
        split
        · rename_i hunit
          exact absurd hunit hv
        · rfl
      rw [hdata]
      rfl

/-- What an enumeration is refused for: it is none, it is generic, or a variant carries data. -/
def Refused (kind : ItemKind) : Prop :=
  (∀ name g variants, kind ≠ .enumeration name g variants) ∨
    ∃ name g variants, kind = .enumeration name g variants ∧
      (g.params ≠ [] ∨ ∃ v ∈ variants, v.fields ≠ .unit)

variable {definition : Item}

theorem prefEnum_of_refused (h : Refused definition.kind) :
    ∃ fault, prefEnum definition = .error fault := by
  unfold prefEnum ordinalsOf
  rcases h with hother | ⟨name, g, variants, hkind, hgeneric | hdata⟩
  · refine ⟨.notEnumeration, ?_⟩
    split
    · rename_i hkind
      exact absurd hkind (hother _ _ _)
    · rfl
  · have hparams : (!g.params.isEmpty) = true := by
      rw [Bool.not_eq_true', List.isEmpty_eq_false_iff]
      exact hgeneric
    refine ⟨.genericEnumeration, ?_⟩
    rw [hkind]
    exact congrArg _ (if_pos hparams)
  · cases hparams : g.params.isEmpty with
    | false => exact ⟨.genericEnumeration, by simp [hkind, hparams, Except.map]⟩
    | true =>
      exact ⟨.variantWithData,
        by simp [hkind, hparams, mapM_plainVariant_of_data hdata, Except.map]⟩

theorem prefEnum_of_not_refused (h : ¬Refused definition.kind) :
    ∃ name g variants, definition.kind = .enumeration name g variants ∧ g.params = [] ∧
      (∀ v ∈ variants, v.fields = .unit) ∧
      prefEnum definition = .ok (ordinalImplementation name ⟨variants.map (·.name)⟩) := by
  rw [Refused, not_or] at h
  obtain ⟨henum, hplain⟩ := h
  simp only [not_forall, not_not] at henum
  obtain ⟨name, g, variants, hkind⟩ := henum
  have hboth : ¬(g.params ≠ [] ∨ ∃ v ∈ variants, v.fields ≠ .unit) := fun hrefused =>
    hplain ⟨name, g, variants, hkind, hrefused⟩
  rw [not_or, not_not, not_exists] at hboth
  obtain ⟨hparams, hunit⟩ := hboth
  have hunit : ∀ v ∈ variants, v.fields = .unit := fun v hv =>
    not_not.1 fun hdata => hunit v ⟨hv, hdata⟩
  refine ⟨name, g, variants, hkind, hparams, hunit, ?_⟩
  unfold prefEnum ordinalsOf
  simp [hkind, hparams, mapM_plainVariant_of_unit hunit, nameOf, Except.map]

end Expansion

/-- Definitions are refused exactly when they are no enumerations, are generic or carry data. The
accepted ones emit their entries in the order of their declaration; the ordinal of an entry is its
place, the place leads back to the entry, and no other number leads to one. -/
theorem emitted_ordinals_number_entries (definition : Item) :
    ((∃ fault, prefEnum definition = .error fault) ↔
      (∀ name g variants, definition.kind ≠ .enumeration name g variants) ∨
        ∃ name g variants, definition.kind = .enumeration name g variants ∧
          (g.params ≠ [] ∨ ∃ v ∈ variants, v.fields ≠ .unit)) ∧
      ∀ ts, prefEnum definition = .ok ts → ∃ name g variants,
        definition.kind = .enumeration name g variants ∧
          elements? ts "ENTRIES" = some (variants.map fun v => .entry v.name) ∧
          ((variants.map (·.name)).Nodup → variants.length ≤ 2 ^ 31 →
            (∀ (i : Nat) (h : i < variants.length), ∃ n : Int32, n.toInt = i ∧
              called? ts "ordinal" "self" (.entry variants[i].name) = some (.ordinal n) ∧
              called? ts "from_ordinal" "ordinal" (.ordinal n) =
                some (.found (some variants[i].name))) ∧
            ∀ n : Int32, n.toInt < 0 ∨ variants.length ≤ n.toInt →
              called? ts "from_ordinal" "ordinal" (.ordinal n) = some (.found none)) := by
  -- Refusal decides between the two parts: one of them is void in each case.
  by_cases hrefused : Refused definition.kind
  · obtain ⟨fault, hfault⟩ := prefEnum_of_refused hrefused
    refine ⟨iff_of_true ⟨fault, hfault⟩ hrefused, fun ts hts => ?_⟩
    rw [hfault] at hts
    cases hts
  obtain ⟨name, g, variants, hkind, -, -, haccepted⟩ := prefEnum_of_not_refused hrefused
  let o : Ordinals := ⟨variants.map (·.name)⟩
  have hlength : o.entries.length = variants.length := List.length_map _
  refine ⟨iff_of_false (fun ⟨fault, hfault⟩ => ?_) hrefused, fun ts hts => ?_⟩
  · rw [haccepted] at hfault
    cases hfault
  obtain rfl : ordinalImplementation name o = ts := Except.ok.inj (haccepted.symm.trans hts)
  refine ⟨name, g, variants, hkind, ?_, fun hnodup hbound => ⟨fun i hi => ?_, fun n hn => ?_⟩⟩
  · rw [elements?_ordinalImplementation, List.map_map]
    rfl
  · have hi' : i < o.entries.length := by omega
    have hentry : o.entries[i] = variants[i].name := List.getElem_map _
    -- The bound on the entries keeps a place within the numbers of 32 bits.
    have hplace : (Int32.ofNat i).toInt = i := Int32.toInt_ofNat_of_lt (by omega)
    refine ⟨Int32.ofNat i, hplace, ?_, ?_⟩
    · rw [called?_ordinal_entry, ← hentry, Ordinals.ordinal?_getElem o hnodup hi']
      rfl
    · rw [called?_from_ordinal_ordinal name o (by omega), Ordinals.ofOrdinal?_eq, hplace,
        if_neg (by omega), Int.toNat_natCast, List.getElem?_eq_getElem hi', hentry]
  · rw [called?_from_ordinal_ordinal name o (by omega), Ordinals.ofOrdinal?_eq]
    split
    · rfl
    · rw [List.getElem?_eq_none (by omega)]

/-- An enumeration whose entries have values of their own. -/
def valuedEnumeration : String :=
  "enum Mode { Off = 10, Auto, On = 3 }"

/-- A definition of an enumeration with these entries that is not generic and carries no data. -/
def isPlainEnumeration (names : List String) (definition : Item) : Bool :=
  match definition.kind with
  | .enumeration _ g variants =>
    g.params.isEmpty && variants.map (·.name) == names && variants.all (·.fields matches .unit)
  | _ => false

theorem of_isPlainEnumeration {names : List String} {definition : Item}
    (h : isPlainEnumeration names definition = true) :
    ∃ name g variants, definition.kind = .enumeration name g variants ∧ g.params = [] ∧
      variants.map (·.name) = names ∧ ∀ v ∈ variants, v.fields = .unit := by
  unfold isPlainEnumeration at h
  split at h
  · rename_i name g variants hkind
    rw [Bool.and_eq_true, Bool.and_eq_true, List.isEmpty_iff, beq_iff_eq, List.all_eq_true] at h
    obtain ⟨⟨hparams, hnames⟩, hunit⟩ := h
    refine ⟨name, g, variants, hkind, hparams, hnames, fun v hv => ?_⟩
    have hfields := hunit v hv
    split at hfields
    · assumption
    · cases hfields
  · cases h

/-- The values that entries are given have no effect on their ordinals. -/
theorem valuedEnumeration_numbered : ∃ definition ts,
    (tokens? valuedEnumeration).bind definitionOf? = some definition ∧
      prefEnum definition = .ok ts ∧
      elements? ts "ENTRIES" = some [.entry "Off", .entry "Auto", .entry "On"] ∧
      called? ts "ordinal" "self" (.entry "On") = some (.ordinal 2) ∧
      called? ts "from_ordinal" "ordinal" (.ordinal 2) = some (.found (some "On")) ∧
      called? ts "from_ordinal" "ordinal" (.ordinal 10) = some (.found none) ∧
      called? ts "from_ordinal" "ordinal" (.ordinal (-1)) = some (.found none) := by
  have hplain : ((tokens? valuedEnumeration).bind definitionOf?).any
      (isPlainEnumeration ["Off", "Auto", "On"]) = true := by
    decide +kernel
  obtain ⟨definition, hdefinition, hplain⟩ := (Option.any_eq_true _ _).1 hplain
  obtain ⟨name, g, variants, hkind, hparams, hnames, hunit⟩ := of_isPlainEnumeration hplain
  obtain ⟨hfault, hnumbers⟩ := emitted_ordinals_number_entries definition
  -- A plain enumeration gives no reason to refuse it.
  obtain ⟨ts, hts⟩ : ∃ ts, prefEnum definition = .ok ts := by
    cases hexpanded : prefEnum definition with
    | ok ts => exact ⟨ts, rfl⟩
    | error fault =>
      rcases hfault.1 ⟨fault, hexpanded⟩ with hother | ⟨_, _, _, hkind', hdata⟩
      · exact absurd hkind (hother _ _ _)
      · cases hkind.symm.trans hkind'
        rcases hdata with hgeneric | ⟨v, hv, hdata⟩
        · exact absurd hparams hgeneric
        · exact absurd (hunit v hv) hdata
  obtain ⟨_, _, _, hkind', helements, hsound⟩ := hnumbers ts hts
  cases hkind.symm.trans hkind'
  have hlength : variants.length = 3 := by rw [← List.length_map (·.name), hnames]; rfl
  obtain ⟨hplaces, hothers⟩ := hsound (by rw [hnames]; decide) (by omega)
  -- The third entry is the last, whatever value was written beside it.
  have hthird : 2 < variants.length := by omega
  obtain ⟨n, hn, hordinal, hback⟩ := hplaces 2 hthird
  obtain rfl : n = 2 := Int32.toInt_inj.1 hn
  have hlast : variants[2].name = "On" := by
    have hsome : (variants.map (·.name))[2]? = some "On" := by rw [hnames]; rfl
    rw [List.getElem?_map, List.getElem?_eq_getElem hthird] at hsome
    exact Option.some.inj hsome
  rw [hlast] at hordinal hback
  have hnone (n : Int32) (h : n.toInt < 0 ∨ 3 ≤ n.toInt) :
      called? ts "from_ordinal" "ordinal" (.ordinal n) = some (.found none) :=
    hothers n (by omega)
  refine ⟨definition, ts, hdefinition, hts, ?_, hordinal, hback, hnone 10 (by decide),
    hnone (-1) (by decide)⟩
  have hentries : (variants.map fun v => Denoted.entry v.name) =
      (variants.map (·.name)).map .entry := by
    rw [List.map_map]
    rfl
  rw [helements, hentries, hnames]
  rfl

end TypedPreferences.Derive
