import Mathlib.Data.List.Basic
import TypedPreferences.Proofs.Source.NamedItems

/-! Where items stand in a source, at its top level or in modules in each other, and the order in
which they stand there. -/

namespace TypedPreferences.Source

/-- An item where it stands: the numbers of the modules around it, from the outside, and then its
own, each among its neighbours; the names of those modules; and the item. -/
structure Standing where
  address : List Nat
  modules : List String
  item : Item

/-- What stands in a module, seen from where the module stands. -/
def Standing.under (n : Nat) (name : String) (v : Standing) : Standing :=
  ⟨n :: v.address, name :: v.modules, v.item⟩

/-- What stands somewhere in some items: one of them, or what stands in a module among them. -/
inductive StandsIn : List Item → Standing → Prop where
  | here {content : List Item} {n : Nat} {item : Item} :
    content[n]? = some item → StandsIn content ⟨[n], [], item⟩
  | inside {content inner : List Item} {n : Nat} {attributes : List Attribute} {name : String}
    {spelling : List Token} {v : Standing} :
    content[n]? = some (.mk attributes (.submodule name (some inner)) spelling) →
    StandsIn inner v → StandsIn content (v.under n name)

/-- What stands in items with names has a name, and so do the modules around it. -/
theorem StandsIn.named {content : List Item} {v : Standing} (h : StandsIn content v)
    (hcontent : AllNamed content) : v.item.Named ∧ ∀ name ∈ v.modules, IsName name := by
  induction h with
  | here hitem => exact ⟨allNamed_iff.1 hcontent _ (List.mem_of_getElem? hitem), nofun⟩
  | inside hmodule _ ih =>
    obtain ⟨hname, hinner⟩ := allNamed_iff.1 hcontent _ (List.mem_of_getElem? hmodule)
    obtain ⟨hitem, hmodules⟩ := ih hinner
    exact ⟨hitem, List.forall_mem_cons.2 ⟨hname, hmodules⟩⟩

/-- All that has a property and stands in some items, each once and in the order of the text. In it
a module stands before what is in it. -/
structure Lists (content : List Item) (P : Item → Prop) (listed : List Standing) : Prop where
  inOrder : listed.Pairwise (·.address < ·.address)
  mem_iff : ∀ v, v ∈ listed ↔ StandsIn content v ∧ P v.item

mutual

/-- What stands inside of an item of a given number, in order. -/
def standingsIn (n : Nat) : Item → List Standing
  | .mk _ (.submodule name (some inner)) _ => (standings 0 inner).map (·.under n name)
  | _ => []

/-- What stands in items that are numbered from a given number on, in order. -/
def standings (n : Nat) : List Item → List Standing
  | [] => []
  | i :: rest => ⟨[n], [], i⟩ :: standingsIn n i ++ standings (n + 1) rest

end

namespace Standing

variable {v w : Standing} {n : Nat} {name : String}

/-- A module stands before what is in it. -/
theorem lt_of_within {k : Nat} {rest : List Nat} (h : w.address = v.address ++ k :: rest) :
    v.address < w.address := by
  rw [h]
  induction v.address with
  | nil => exact List.nil_lt_cons _ _
  | cons n _ ih => exact List.cons_lt_cons_iff.2 (.inr ⟨rfl, ih⟩)

theorem under_lt_under : (v.under n name).address < (w.under n name).address ↔
    v.address < w.address := by
  simp [under]

end Standing

theorem Lists.nodup {content : List Item} {P : Item → Prop} {listed : List Standing}
    (h : Lists content P listed) : listed.Nodup := by
  refine h.inOrder.imp ?_
  rintro v _ hlt rfl
  exact List.lt_irrefl _ hlt

/-- What stands inside of an item stands in the module that the item is. -/
theorem of_mem_standingsIn {n : Nat} {i : Item} {v : Standing} (h : v ∈ standingsIn n i) :
    ∃ attributes name inner spelling w, i = .mk attributes (.submodule name (some inner)) spelling ∧
      w ∈ standings 0 inner ∧ v = w.under n name := by
  unfold standingsIn at h
  split at h
  · obtain ⟨w, hw, rfl⟩ := List.mem_map.1 h
    exact ⟨_, _, _, _, w, rfl, hw, rfl⟩
  · cases h

theorem mem_standings_cons {i : Item} {rest : List Item} {n : Nat} {v : Standing} :
    v ∈ standings n (i :: rest) ↔
      v = ⟨[n], [], i⟩ ∨ v ∈ standingsIn n i ∨ v ∈ standings (n + 1) rest := by
  rw [standings, List.cons_append, List.mem_cons, List.mem_append]

/-! The standings are numbered in order. -/

theorem address_of_mem_standings {content : List Item} {n : Nat} {v : Standing}
    (h : v ∈ standings n content) : ∃ k rest, n ≤ k ∧ v.address = k :: rest := by
  induction content generalizing n with
  | nil => cases h
  | cons i rest ih =>
    rcases mem_standings_cons.1 h with rfl | hinside | hrest
    · exact ⟨n, [], Nat.le_refl n, rfl⟩
    · obtain ⟨_, _, _, _, w, -, -, rfl⟩ := of_mem_standingsIn hinside
      exact ⟨n, w.address, Nat.le_refl n, rfl⟩
    · obtain ⟨k, more, hle, haddress⟩ := ih hrest
      exact ⟨k, more, Nat.le_of_succ_le hle, haddress⟩

theorem address_of_mem_standingsIn {n : Nat} {i : Item} {v : Standing}
    (h : v ∈ standingsIn n i) : ∃ k rest, v.address = n :: k :: rest := by
  obtain ⟨_, _, _, _, w, -, hw, rfl⟩ := of_mem_standingsIn h
  obtain ⟨k, rest, -, haddress⟩ := address_of_mem_standings hw
  exact ⟨k, rest, by rw [Standing.under, haddress]⟩

mutual

theorem pairwise_standingsIn (n : Nat) :
    ∀ i : Item, (standingsIn n i).Pairwise (·.address < ·.address)
  | .mk _ (.submodule _ (some inner)) _ =>
    List.pairwise_map.2 ((pairwise_standings 0 inner).imp Standing.under_lt_under.2)
  | .mk _ (.submodule _ none) _ => .nil
  | .mk _ (.record _ _ _) _ => .nil
  | .mk _ (.enumeration _ _ _) _ => .nil
  | .mk _ (.overlay _ _) _ => .nil
  | .mk _ (.implementation _) _ => .nil
  | .mk _ (.function _ _) _ => .nil
  | .mk _ .other _ => .nil

theorem pairwise_standings (n : Nat) :
    ∀ content : List Item, (standings n content).Pairwise (·.address < ·.address)
  | [] => .nil
  | i :: rest => by
    rw [standings, List.pairwise_append, List.pairwise_cons]
    refine ⟨⟨?_, pairwise_standingsIn n i⟩, pairwise_standings (n + 1) rest, ?_⟩
    · intro v hv
      obtain ⟨k, more, haddress⟩ := address_of_mem_standingsIn hv
      exact Standing.lt_of_within haddress
    · intro v hv w hw
      obtain ⟨k, more, hlater, hk⟩ := address_of_mem_standings hw
      -- What comes before stands at the number `n` or inside of it.
      have hfirst : ∃ more, v.address = n :: more := by
        rcases List.mem_cons.1 hv with rfl | hinside
        · exact ⟨[], rfl⟩
        · obtain ⟨m, more, haddress⟩ := address_of_mem_standingsIn hinside
          exact ⟨m :: more, haddress⟩
      obtain ⟨more', hn⟩ := hfirst
      rw [hn, hk]
      exact List.cons_lt_cons_iff.2 (.inl hlater)

end

/-! All that stands in the items is among the standings, and nothing else. -/

theorem mem_standings_of_getElem? {content : List Item} {n k : Nat} {i : Item} {v : Standing}
    (hi : content[k]? = some i) (hv : v = ⟨[n + k], [], i⟩ ∨ v ∈ standingsIn (n + k) i) :
    v ∈ standings n content := by
  induction content generalizing n k with
  | nil => cases hi
  | cons first rest ih =>
    cases k with
    | zero =>
      cases hi
      exact mem_standings_cons.2 (hv.imp_right .inl)
    | succ k =>
      refine mem_standings_cons.2 (.inr (.inr (ih hi ?_)))
      rwa [Nat.add_right_comm, Nat.add_assoc]

theorem StandsIn.mem_standings {content : List Item} {v : Standing} (h : StandsIn content v) :
    v ∈ standings 0 content := by
  induction h with
  | here hi =>
    apply mem_standings_of_getElem? hi
    exact .inl (by rw [Nat.zero_add])
  | inside hmodule _ ih =>
    apply mem_standings_of_getElem? hmodule
    rw [Nat.zero_add]
    exact .inr (List.mem_map_of_mem ih)

mutual

theorem standsIn_of_mem_standingsIn {content : List Item} {n : Nat} {v : Standing} :
    ∀ i : Item, content[n]? = some i → v ∈ standingsIn n i → StandsIn content v
  | .mk _ (.submodule _ (some inner)) _, hi, hv => by
    obtain ⟨w, hw, rfl⟩ := List.mem_map.1 hv
    exact .inside hi (standsIn_of_mem_standings [] inner hw)
  | .mk _ (.submodule _ none) _, _, hv => nomatch hv
  | .mk _ (.record _ _ _) _, _, hv => nomatch hv
  | .mk _ (.enumeration _ _ _) _, _, hv => nomatch hv
  | .mk _ (.overlay _ _) _, _, hv => nomatch hv
  | .mk _ (.implementation _) _, _, hv => nomatch hv
  | .mk _ (.function _ _) _, _, hv => nomatch hv
  | .mk _ .other _, _, hv => nomatch hv

theorem standsIn_of_mem_standings (before : List Item) {v : Standing} :
    ∀ rest : List Item, v ∈ standings before.length rest → StandsIn (before ++ rest) v
  | [], hv => nomatch hv
  | i :: rest, hv => by
    have hi : (before ++ i :: rest)[before.length]? = some i := by simp
    rcases mem_standings_cons.1 hv with rfl | hinside | hrest
    · exact .here hi
    · exact standsIn_of_mem_standingsIn i hi hinside
    · have hstands := standsIn_of_mem_standings (before ++ [i]) rest (v := v)
      rw [List.length_append, List.append_assoc] at hstands
      exact hstands hrest

end

theorem lists_standings (content : List Item) :
    Lists content (fun _ => True) (standings 0 content) where
  inOrder := pairwise_standings 0 content
  mem_iff _ := ⟨fun h => ⟨standsIn_of_mem_standings [] content h, trivial⟩,
    fun h => h.1.mem_standings⟩

end TypedPreferences.Source
