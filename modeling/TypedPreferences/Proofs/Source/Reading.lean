import TypedPreferences.Source.Reader
import TypedPreferences.Proofs.Source.NamedItems

/-! What readers take and write. A sound reader takes a phrase from the front of a phrase, writes a
phrase, and yields what is known of its kind of result. Soundness goes through all ways in which
readers are put together, so it is found for a reader from how it is written. -/

namespace TypedPreferences.Source

/-- From one cursor to another a phrase is taken, and a phrase is written. -/
structure Reading (c c' : Cursor) (taken new : List Token) : Prop where
  split : c.rest = taken ++ c'.rest
  written : c'.written.toList = c.written.toList ++ new
  taken : IsPhrase taken
  new : IsPhrase new
  rest : IsPhrase c'.rest

theorem Reading.refl {c : Cursor} (h : IsPhrase c.rest) : Reading c c [] [] :=
  ⟨rfl, (List.append_nil _).symm, .nil, .nil, h⟩

theorem Reading.trans {c₁ c₂ c₃ : Cursor} {taken new taken' new' : List Token}
    (h : Reading c₁ c₂ taken new) (h' : Reading c₂ c₃ taken' new') :
    Reading c₁ c₃ (taken ++ taken') (new ++ new') := by
  refine ⟨?_, ?_, h.taken.append h'.taken, h.new.append h'.new, h'.rest⟩
  · rw [h.split, h'.split, List.append_assoc]
  · rw [h'.written, h.written, List.append_assoc]

/-- Once a reader is done that began at a cursor, a condition holds of its result, of what it took
and of what it wrote. -/
def ReadsFrom {α : Type} (c : Cursor) (p : Reader α) (post : α → List Token → List Token → Prop) :
    Prop :=
  ∀ a c', p c = some (a, c') → ∃ taken new, Reading c c' taken new ∧ post a taken new

/-- The condition holds wherever the reader begins. -/
def Reads {α : Type} (p : Reader α) (post : α → List Token → List Token → Prop) : Prop :=
  ∀ c, IsPhrase c.rest → ReadsFrom c p post

section Reads

variable {α β : Type} {c : Cursor} {p : Reader α} {f : α → Reader β}
  {post post' : α → List Token → List Token → Prop} {later : β → List Token → List Token → Prop}

theorem ReadsFrom.mono (h : ReadsFrom c p post)
    (himp : ∀ a taken new, post a taken new → post' a taken new) : ReadsFrom c p post' := by
  intro a c' hrun
  obtain ⟨taken, new, hreading, hpost⟩ := h a c' hrun
  exact ⟨taken, new, hreading, himp a taken new hpost⟩

theorem Reads.mono (h : Reads p post) (himp : ∀ a taken new, post a taken new → post' a taken new) :
    Reads p post' :=
  fun c hc => (h c hc).mono himp

theorem ReadsFrom.bind (h : ReadsFrom c p post)
    (hf : ∀ a taken new c₁, Reading c c₁ taken new → post a taken new →
      ReadsFrom c₁ (f a) fun b taken' new' => later b (taken ++ taken') (new ++ new')) :
    ReadsFrom c (p >>= f) later := by
  intro b c' hrun
  obtain ⟨a, c₁, hp, hrest⟩ := Reader.bind_eq_some.1 hrun
  obtain ⟨taken, new, hreading, hpost⟩ := h a c₁ hp
  obtain ⟨taken', new', hreading', hlater⟩ := hf a taken new c₁ hreading hpost b c' hrest
  exact ⟨_, _, hreading.trans hreading', hlater⟩

theorem ReadsFrom.ite {condition : Prop} [Decidable condition] {q : Reader α}
    (hp : condition → ReadsFrom c p post) (hq : ¬condition → ReadsFrom c q post) :
    ReadsFrom c (if condition then p else q) post := by
  split
  · exact hp ‹_›
  · exact hq ‹_›

theorem Reads.bind (h : Reads p post)
    (hf : ∀ a taken new, IsPhrase new → post a taken new →
      Reads (f a) fun b taken' new' => later b (taken ++ taken') (new ++ new')) :
    Reads (p >>= f) later :=
  fun c hc => (h c hc).bind fun a taken new c₁ hreading hpost =>
    hf a taken new hreading.new hpost c₁ hreading.rest

/-- Two readers that go on in the same way. -/
theorem Reads.bind_ite {condition : Prop} [Decidable condition] {q : Reader α}
    (hp : Reads p post) (hq : Reads q post)
    (hf : ∀ a taken new, IsPhrase new → post a taken new →
      Reads (f a) fun b taken' new' => later b (taken ++ taken') (new ++ new')) :
    Reads (if condition then p >>= f else q >>= f) later := by
  split
  · exact hp.bind hf
  · exact hq.bind hf

theorem Reads.pure {a : α} (h : post a [] []) : Reads (Pure.pure a) post := by
  intro c hc b c' hrun
  cases hrun
  exact ⟨[], [], .refl hc, h⟩

theorem Reads.failure : Reads (failure : Reader α) post :=
  fun _ _ _ _ hrun => nomatch hrun

end Reads

/-- What is known of the results of a kind. -/
class Checked (α : Type) where
  holds : α → Prop

/-- A result of which holds what is known of its kind. -/
class Known {α : Type} [Checked α] (a : α) : Prop where
  holds : Checked.holds a

/-- The results of which holds what is known of their kind. -/
abbrev Held (α : Type) [Checked α] : Type :=
  { a : α // Checked.holds a }

/-- A reader that takes and writes phrases, with results as they are known. -/
class Sound {α : Type} [Checked α] (p : Reader α) : Prop where
  reads : Reads p fun a _ _ => Checked.holds a

/-- A sound reader that neither takes nor writes just a name. -/
class Marked {α : Type} [Checked α] (p : Reader α) : Prop where
  reads : Reads p fun a taken new => Checked.holds a ∧ Unnamed taken ∧ Unnamed new

section Kinds

variable {α β : Type}

/-! Of most kinds of results nothing is known. -/

instance (priority := low) checked : Checked α := ⟨fun _ => True⟩

instance (priority := low) known (a : α) : Known a := ⟨trivial⟩

instance known_held [Checked α] (a : Held α) : Known a.1 := ⟨a.2⟩

instance checkedName : Checked String := ⟨IsName⟩

instance checkedTy : Checked Ty := ⟨Ty.Named⟩

instance checkedItem : Checked Item := ⟨Item.Named⟩

instance checkedOption [Checked α] : Checked (Option α) := ⟨fun o => ∀ a ∈ o, Checked.holds a⟩

instance checkedList [Checked α] : Checked (List α) := ⟨fun l => ∀ a ∈ l, Checked.holds a⟩

instance checkedTokens : Checked (List Token) := ⟨IsPhrase⟩

instance checkedProd [Checked α] [Checked β] : Checked (α × β) :=
  ⟨fun x => Checked.holds x.1 ∧ Checked.holds x.2⟩

instance checkedSum [Checked α] [Checked β] : Checked (α ⊕ β) :=
  ⟨Sum.elim Checked.holds Checked.holds⟩

variable [Checked α] [Checked β]

instance known_none : Known (none : Option α) := ⟨nofun⟩

instance known_some {a : α} [h : Known a] : Known (some a) :=
  ⟨fun _ heq => Option.some.inj heq ▸ h.holds⟩

instance known_nil : Known ([] : List α) := ⟨nofun⟩

instance known_cons {a : α} {l : List α} [h : Known a] [hl : Known l] : Known (a :: l) :=
  ⟨List.forall_mem_cons.2 ⟨h.holds, hl.holds⟩⟩

instance known_map {l : List α} {f : α → β} [hl : Known l] [hf : ∀ a : Held α, Known (f a.1)] :
    Known (l.map f) where
  holds := by
    intro b hb
    obtain ⟨a, ha, rfl⟩ := List.mem_map.1 hb
    exact (hf ⟨a, hl.holds a ha⟩).holds

instance known_last {a : α} {l : List α} [h : Known a] [hl : Known l] :
    Known (l.getLast?.getD a) where
  holds := by
    cases hlast : l.getLast? with
    | none => exact h.holds
    | some b => exact hl.holds b (List.mem_of_getLast? hlast)

instance known_noTokens : Known ([] : List Token) := ⟨.nil⟩

instance known_append {ts us : List Token} [h : Known ts] [h' : Known us] : Known (ts ++ us) :=
  ⟨h.holds.append h'.holds⟩

instance known_mk {a : α} {b : β} [h : Known a] [h' : Known b] : Known (a, b) :=
  ⟨⟨h.holds, h'.holds⟩⟩

instance known_inl {a : α} [h : Known a] : Known (.inl a : α ⊕ β) := ⟨h.holds⟩

instance known_ite {c : Prop} [Decidable c] {a b : α} [Known a] [Known b] :
    Known (if c then a else b) := by
  split <;> infer_instance

end Kinds

section Sound

variable {α β γ : Type} [Checked α] [Checked β] [Checked γ]

instance sound_pure {a : α} [h : Known a] : Sound (pure a : Reader α) := ⟨.pure h.holds⟩

instance sound_failure : Sound (failure : Reader α) := ⟨.failure⟩

theorem Sound.bind {p : Reader α} {f : α → Reader β} (h : Sound p)
    (hf : ∀ a, Checked.holds a → Sound (f a)) : Sound (p >>= f) :=
  ⟨h.reads.bind fun a _ _ _ ha => (hf a ha).reads⟩

instance sound_bind {p : Reader α} {f : α → Reader β} [h : Sound p]
    [hf : ∀ a : Held α, Sound (f a.1)] : Sound (p >>= f) :=
  h.bind fun a ha => hf ⟨a, ha⟩

instance sound_bind_mk {p : Reader (α × β)} {f : α × β → Reader γ} [h : Sound p]
    [hf : ∀ (a : Held α) (b : Held β), Sound (f (a.1, b.1))] : Sound (p >>= f) :=
  h.bind fun (a, b) hab => hf ⟨a, hab.1⟩ ⟨b, hab.2⟩

instance sound_map {p : Reader α} {f : α → β} [h : Sound p] [hf : ∀ a : Held α, Known (f a.1)] :
    Sound (f <$> p) where
  reads c hc b c' hrun := by
    obtain ⟨⟨a, c₁⟩, hp, hpure⟩ := Option.bind_eq_some_iff.1 hrun
    cases hpure
    obtain ⟨taken, new, hreading, ha⟩ := h.reads c hc a c' hp
    exact ⟨taken, new, hreading, (hf ⟨a, ha⟩).holds⟩

instance sound_ite {c : Prop} [Decidable c] {p q : Reader α} [Sound p] [Sound q] :
    Sound (if c then p else q) := by
  split <;> infer_instance

theorem reads_of_sound {p : Reader α} {post : α → List Token → List Token → Prop} [h : Sound p]
    (himp : ∀ a taken new, Checked.holds a → post a taken new) : Reads p post :=
  h.reads.mono himp

theorem Marked.sound {p : Reader α} (h : Marked p) : Sound p :=
  ⟨h.reads.mono fun _ _ _ h => h.1⟩

theorem reads_of_marked {p : Reader α} {post : α → List Token → List Token → Prop} [h : Marked p]
    (himp : ∀ a taken new, Checked.holds a → Unnamed taken → Unnamed new → post a taken new) :
    Reads p post :=
  h.reads.mono fun a taken new ⟨ha, htaken, hnew⟩ => himp a taken new ha htaken hnew

instance sound_mapM {α : Type} {l : List α} {f : α → Reader β} [hf : ∀ a, Sound (f a)] :
    Sound (l.mapM f) := by
  induction l with
  | nil =>
    rw [List.mapM_nil]
    infer_instance
  | cons a rest ih =>
    rw [List.mapM_cons]
    infer_instance

instance marked_bind {p : Reader α} {f : α → Reader β} [h : Marked p]
    [hf : ∀ a : Held α, Sound (f a.1)] : Marked (p >>= f) where
  reads := by
    refine h.reads.bind fun a taken new _ ⟨ha, htaken, hnew⟩ => ?_
    refine (hf ⟨a, ha⟩).reads.mono fun b taken' new' hb => ⟨hb, ?_, ?_⟩
    · exact htaken.append_left taken'
    · exact hnew.append_left new'

theorem Marked.bind {p : Reader α} {f : α → Reader β} (h : Sound p)
    (hf : ∀ a, Checked.holds a → Marked (f a)) : Marked (p >>= f) where
  reads := by
    refine h.reads.bind fun a taken new _ ha => ?_
    refine (hf a ha).reads.mono fun b taken' new' ⟨hb, htaken, hnew⟩ => ⟨hb, ?_, ?_⟩
    · exact htaken.append_right taken
    · exact hnew.append_right new

instance marked_then {p : Reader α} {f : α → Reader β} [h : Sound p]
    [hf : ∀ a : Held α, Marked (f a.1)] : Marked (p >>= f) :=
  .bind h fun a ha => hf ⟨a, ha⟩

end Sound

namespace Reader

variable {α : Type} {p : Reader α} {post : α → List Token → List Token → Prop}

/-! Tests. -/

theorem rest_bind {f : List Token → Reader α} {c : Cursor} : (rest >>= f) c = f c.rest c :=
  rfl

theorem readsFrom_rest {f : List Token → Reader α} {c : Cursor} (h : ReadsFrom c (f c.rest) post) :
    ReadsFrom c (rest >>= f) post :=
  h

theorem readsFrom_looks {f : Bool → Reader α} {test : List Token → Bool} {c : Cursor}
    (h : ReadsFrom c (f (test c.rest)) post) : ReadsFrom c (looks test >>= f) post :=
  h

theorem looks_eq_some {test : List Token → Bool} {c c' : Cursor} {found : Bool}
    (h : looks test c = some (found, c')) : found = test c.rest ∧ c' = c := by
  cases h
  exact ⟨rfl, rfl⟩

theorem require_eq_some {condition : Bool} {c c' : Cursor}
    (h : require condition c = some ((), c')) : condition = true ∧ c' = c := by
  unfold require at h
  split at h
  · cases h
    exact ⟨‹_›, rfl⟩
  · cases h

theorem reads_rest : Reads rest fun ts taken new => IsPhrase ts ∧ taken = [] ∧ new = [] := by
  intro c hc ts c' hrun
  cases hrun
  exact ⟨[], [], .refl hc, hc, rfl, rfl⟩

instance sound_rest : Sound rest :=
  ⟨reads_rest.mono fun _ _ _ h => h.1⟩

theorem reads_looks (test : List Token → Bool) :
    Reads (looks test) fun _ taken new => taken = [] ∧ new = [] := by
  intro c hc found c' hrun
  obtain ⟨-, rfl⟩ := looks_eq_some hrun
  exact ⟨[], [], .refl hc, rfl, rfl⟩

instance sound_looks (test : List Token → Bool) : Sound (looks test) := by
  unfold looks
  infer_instance

instance sound_atEnd : Sound atEnd := by
  unfold atEnd
  infer_instance

instance sound_require (condition : Bool) : Sound (require condition) := by
  unfold require
  infer_instance

instance sound_ahead? [Checked α] [h : Sound p] : Sound (ahead? p) where
  reads c hc found c' hrun := by
    cases hrun
    refine ⟨[], [], .refl hc, fun a ha => ?_⟩
    obtain ⟨⟨b, c₁⟩, hp, rfl⟩ := Option.map_eq_some_iff.1 ha
    obtain ⟨-, -, -, hb⟩ := h.reads c hc b c₁ hp
    exact hb

/-! What is written. -/

theorem reads_write {ts : List Token} (h : IsPhrase ts) :
    Reads (write ts) fun _ taken new => taken = [] ∧ new = ts := by
  intro c hc a c' hrun
  cases hrun
  exact ⟨[], ts, ⟨rfl, by simp, .nil, h, hc⟩, rfl, rfl⟩

theorem reads_write_bind {α : Type} [Checked α] {ts : List Token} {f : Unit → Reader α}
    (h : IsPhrase ts) (hunnamed : Unnamed ts) [hf : Sound (f ())] :
    Reads (write ts >>= f) fun a _ new => Checked.holds a ∧ Unnamed new := by
  refine (reads_write h).bind fun _ _ _ _ ⟨_, hnew⟩ => ?_
  exact reads_of_sound fun a _ new' ha => ⟨ha, hnew ▸ hunnamed.append_left new'⟩

instance sound_write (ts : List Token) [h : Known ts] : Sound (write ts) :=
  ⟨(reads_write h.holds).mono fun _ _ _ _ => trivial⟩

theorem capture_eq_some {c c' : Cursor} {a : α} {spelled : List Token}
    (h : capture p c = some ((a, spelled), c')) :
    ∃ c₁, p { c with written := #[] } = some (a, c₁) ∧ spelled = c₁.written.toList ∧
      c' = { c₁ with written := c.written } := by
  obtain ⟨⟨b, c₁⟩, hp, hrest⟩ := Option.bind_eq_some_iff.1 h
  cases hrest
  exact ⟨c₁, hp, rfl, rfl⟩

/-- What is captured is a phrase, and nothing is written. -/
theorem readsFrom_capture {c : Cursor} (h : ReadsFrom { c with written := #[] } p post) :
    ReadsFrom c (capture p) fun x taken new => new = [] ∧ IsPhrase x.2 ∧ post x.1 taken x.2 := by
  rintro ⟨a, spelled⟩ c' hrun
  obtain ⟨c₁, hp, rfl, rfl⟩ := capture_eq_some hrun
  obtain ⟨taken, new, hreading, hpost⟩ := h a c₁ hp
  have hnew : c₁.written.toList = new := hreading.written
  refine ⟨taken, [], ⟨hreading.split, (List.append_nil _).symm, hreading.taken, .nil, hreading.rest⟩,
    rfl, ?_⟩
  rw [hnew]
  exact ⟨hreading.new, hpost⟩

theorem readsFrom_noting {c : Cursor} (h : ReadsFrom { c with written := #[] } p post) :
    ReadsFrom c (noting p) fun x taken new => x.2 = new ∧ post x.1 taken new := by
  refine (readsFrom_capture h).bind fun (a, spelled) taken new c₁ hreading ⟨hnew, hphrase, hpost⟩ => ?_
  refine ((reads_write hphrase).bind fun _ taken' new' _ ⟨htaken', hnew'⟩ => .pure ?_) c₁ hreading.rest
  rw [hnew, htaken', hnew', List.append_nil, List.append_nil, List.append_nil, List.nil_append]
  exact ⟨rfl, hpost⟩

theorem reads_capture (h : Reads p post) : Reads (capture p) fun x taken new =>
    new = [] ∧ IsPhrase x.2 ∧ post x.1 taken x.2 :=
  fun c hc => readsFrom_capture (h { c with written := #[] } hc)

theorem reads_noting (h : Reads p post) : Reads (noting p) fun x taken new =>
    x.2 = new ∧ post x.1 taken new :=
  fun c hc => readsFrom_noting (h { c with written := #[] } hc)

/-- What is taken as it stands is written as it was taken. -/
theorem reads_verbatimWhen {asItStands : α → Bool} (h : Reads p post) :
    Reads (verbatimWhen asItStands p) fun a taken new =>
      ∃ spelled, post a taken spelled ∧ new = if asItStands a then taken else spelled := by
  intro c hc a c' hrun
  obtain ⟨⟨⟨b, spelled⟩, c₁⟩, hcapture, hrest⟩ := Option.bind_eq_some_iff.1 hrun
  cases hrest
  obtain ⟨taken, new, hreading, rfl, hspelled, hpost⟩ := reads_capture h c hc _ c₁ hcapture
  have htaken : c.rest.take (c.rest.length - c₁.rest.length) = taken := by
    rw [hreading.split, List.length_append, Nat.add_sub_cancel, List.take_left]
  have hwritten := hreading.written
  rw [List.append_nil] at hwritten
  refine ⟨taken, _, ⟨hreading.split, ?_, hreading.taken, ?_, hreading.rest⟩, spelled, hpost, rfl⟩
  · rw [htaken, Array.toList_append, hwritten]
  · exact isPhrase_ite _ hreading.taken hspelled

section

variable [Checked α]

instance sound_capture [h : Sound p] : Sound (capture p) :=
  ⟨(reads_capture h.reads).mono fun _ _ _ hx => ⟨hx.2.2, hx.2.1⟩⟩

instance sound_noting [Sound p] : Sound (noting p) := by
  unfold noting
  infer_instance

instance sound_silently [Sound p] : Sound (silently p) := by
  unfold silently
  infer_instance

instance sound_spelling {p : Reader Unit} [Sound p] : Sound (spelling p) := by
  unfold spelling
  infer_instance

instance sound_verbatimWhen (asItStands : α → Bool) [h : Sound p] :
    Sound (verbatimWhen asItStands p) :=
  ⟨(reads_verbatimWhen h.reads).mono fun _ _ _ ⟨_, ha, _⟩ => ha⟩

instance sound_verbatim [Sound p] : Sound (verbatim p) := by
  unfold verbatim
  infer_instance

end

/-! Marks and words. -/

/-- An operator: it has marks, and none is a single quote. -/
class IsOperator (op : String) : Prop where
  nonempty : op.toList ≠ []
  unquoted : '\'' ∉ op.toList

theorem unnamed_operator (op : String) [hop : IsOperator op] : Unnamed (Token.operator op) := by
  obtain ⟨c, more, hmarks⟩ := List.exists_cons_of_ne_nil hop.nonempty
  rw [Token.operator, hmarks]
  cases more <;> exact ⟨_, List.mem_cons_self, nofun⟩

theorem exists_mark {c : Char} {op : List Char} {ts : List Token}
    (h : beginsWithMarks (c :: op) ts = true) :
    ∃ joint rest, ts = .punct c joint :: rest ∧ beginsWithMarks op rest = true := by
  cases ts with
  | nil => cases op <;> cases h
  | cons t rest =>
    have hmark : t.isMark c = true ∧ beginsWithMarks op rest = true := by
      cases op with
      | nil => exact ⟨h, rfl⟩
      | cons d op =>
        obtain ⟨hboth, hrest⟩ := Bool.and_eq_true_iff.1 h
        exact ⟨(Bool.and_eq_true_iff.1 hboth).1, hrest⟩
    cases t with
    | punct mark joint =>
      obtain ⟨hmark, hrest⟩ := hmark
      obtain rfl : mark = c := beq_iff_eq.1 hmark
      exact ⟨joint, rest, rfl, hrest⟩
    | _ => cases hmark.1

/-- The marks of an operator at the front of a phrase are a phrase, and so is what follows. -/
theorem isPhrase_of_marks {op : List Char} {ts : List Token} (hop : '\'' ∉ op)
    (h : beginsWithMarks op ts = true) (hts : IsPhrase ts) : IsPhrase (ts.take op.length) ∧
      IsPhrase (Token.operatorOf op) ∧ IsPhrase (ts.drop op.length) := by
  induction op generalizing ts with
  | nil => exact ⟨.nil, .nil, hts⟩
  | cons c op ih =>
    obtain ⟨joint, rest, rfl, hrest⟩ := exists_mark h
    obtain ⟨hquote, hop⟩ := not_or.1 (mt List.mem_cons.2 hop)
    cases hts with
    | lifetime _ _ => exact absurd rfl hquote
    | mark hmark hne hts =>
      obtain ⟨htaken, hnew, hleft⟩ := ih hop hrest hts
      refine ⟨.mark hmark hne htaken, ?_, hleft⟩
      cases op with
      | nil => exact .mark hmark hne .nil
      | cons d op => exact .mark hmark hne hnew

theorem reads_mark (op : String) [hop : IsOperator op] : Reads (mark op) fun _ taken new =>
    new = Token.operator op ∧ Unnamed taken := by
  intro c hc a c' hrun
  obtain ⟨ts, c₁, hrest, hrequired⟩ := Reader.bind_eq_some.1 hrun
  cases hrest
  obtain ⟨⟨⟩, c₂, hrequire, hmoved⟩ := Reader.bind_eq_some.1 hrequired
  obtain ⟨hmarks, rfl⟩ := require_eq_some hrequire
  cases hmoved
  obtain ⟨htaken, hnew, hleft⟩ := isPhrase_of_marks hop.unquoted hmarks hc
  rw [String.length_toList] at htaken hleft
  refine ⟨c₂.rest.take op.length, Token.operator op, ⟨(List.take_append_drop _ _).symm, by simp,
    htaken, hnew, hleft⟩, rfl, ?_⟩
  obtain ⟨d, more, hcons⟩ := List.exists_cons_of_ne_nil hop.nonempty
  rw [atMark, hcons] at hmarks
  obtain ⟨joint, rest, hrest, -⟩ := exists_mark hmarks
  have hlength : op.length = more.length + 1 := by
    rw [← String.length_toList, hcons, List.length_cons]
  rw [hrest, hlength]
  exact ⟨_, List.mem_cons_self, nofun⟩

instance sound_mark (op : String) [IsOperator op] : Sound (mark op) :=
  ⟨(reads_mark op).mono fun _ _ _ _ => trivial⟩

instance marked_mark (op : String) [IsOperator op] : Marked (mark op) :=
  ⟨(reads_mark op).mono fun _ _ _ ⟨hnew, htaken⟩ =>
    ⟨trivial, htaken, hnew ▸ unnamed_operator op⟩⟩

theorem readsFrom_mark? {op : String} [IsOperator op] {c : Cursor} (hc : IsPhrase c.rest)
    (h : atMark op c.rest = true) : ReadsFrom c (mark? op) fun _ _ new => Unnamed new := by
  refine readsFrom_looks ?_
  rw [if_pos h]
  exact reads_of_marked (fun _ _ _ _ _ hnew => hnew) c hc

theorem reads_mark? (op : String) [IsOperator op] : Reads (mark? op) fun found _ new =>
    new = if found then Token.operator op else [] := by
  unfold mark?
  refine (reads_looks _).bind fun found taken new _ ⟨htaken, hnew⟩ => ?_
  subst htaken hnew
  split
  · refine (reads_mark op).bind fun _ taken new _ ⟨hnew, _⟩ => .pure ?_
    rw [hnew]
    exact List.append_nil _
  · exact .pure rfl

instance sound_mark? (op : String) [IsOperator op] : Sound (mark? op) := by
  unfold mark?
  infer_instance

theorem reads_anyWord : Reads anyWord fun a taken new =>
    IsName a ∧ taken = [.ident a] ∧ new = [.ident a] := by
  rintro ⟨ts, written⟩ hc a c' hrun
  unfold anyWord at hrun
  cases hc with
  | ident hname hts =>
    cases hrun
    exact ⟨_, _, ⟨rfl, by simp, hname.phrase, hname.phrase, hts⟩, hname, rfl, rfl⟩
  | _ => cases hrun

theorem unnamed_keyword {text : String} (h : text ∈ keywords) : Unnamed [.ident text] :=
  ⟨_, List.mem_singleton_self _, fun _ heq => Token.ident.inj heq ▸ h⟩

theorem reads_word (text : String) : Reads (word text) fun _ taken new =>
    taken = [.ident text] ∧ new = [.ident text] := by
  intro c hc a c' hrun
  obtain ⟨found, c₁, hlooks, hrequired⟩ := Reader.bind_eq_some.1 hrun
  obtain ⟨rfl, rfl⟩ := looks_eq_some hlooks
  obtain ⟨⟨⟩, c₂, hrequire, hread⟩ := Reader.bind_eq_some.1 hrequired
  obtain ⟨hword, rfl⟩ := require_eq_some hrequire
  obtain ⟨b, c₃, hany, hpure⟩ := Reader.bind_eq_some.1 hread
  cases hpure
  obtain ⟨taken, new, hreading, -, rfl, rfl⟩ := reads_anyWord c₂ hc b c' hany
  rw [hreading.split] at hword
  obtain rfl : b = text := beq_iff_eq.1 hword
  exact ⟨_, _, hreading, rfl, rfl⟩

instance sound_anyWord : Sound anyWord :=
  ⟨reads_anyWord.mono fun _ _ _ h => h.1⟩

instance sound_word (text : String) : Sound (word text) := by
  unfold word
  infer_instance

/-- A word that is no name. -/
class IsKeyword (text : String) : Prop where
  reserved : text ∈ keywords

instance marked_word (text : String) [h : IsKeyword text] : Marked (word text) :=
  ⟨(reads_word text).mono fun _ _ _ ⟨htaken, hnew⟩ =>
    ⟨trivial, htaken ▸ unnamed_keyword h.reserved, hnew ▸ unnamed_keyword h.reserved⟩⟩

instance sound_word? (text : String) : Sound (word? text) := by
  unfold word?
  infer_instance

theorem reads_name : Reads name fun a taken new =>
    IsName a ∧ taken = [.ident a] ∧ new = [.ident a] := by
  intro c hc a c' hrun
  obtain ⟨found, c₁, hlooks, hrequired⟩ := Reader.bind_eq_some.1 hrun
  obtain ⟨rfl, rfl⟩ := looks_eq_some hlooks
  obtain ⟨⟨⟩, c₂, hrequire, hread⟩ := Reader.bind_eq_some.1 hrequired
  obtain ⟨-, rfl⟩ := require_eq_some hrequire
  exact reads_anyWord c₂ hc a c' hread

instance sound_name : Sound name :=
  ⟨reads_name.mono fun _ _ _ h => h.1⟩

theorem lifetime_of_isPhrase {t : Token} {ts : List Token}
    (h : IsPhrase (.punct '\'' true :: t :: ts)) : t.Leads ∧ IsPhrase (t :: ts) := by
  cases h with
  | lifetime hleads hts => exact ⟨hleads, hts⟩
  | mark _ hne _ => exact absurd rfl hne

theorem unnamed_lifetime {a : String} : Unnamed (Token.lifetime a) :=
  ⟨_, List.mem_cons_self, nofun⟩

theorem reads_lifetime : Reads lifetime fun a taken new =>
    IsName a ∧ taken = Token.lifetime a ∧ new = Token.lifetime a := by
  intro c hc a c' hrun
  rw [lifetime, rest_bind] at hrun
  generalize hts : c.rest = ts at hrun
  split at hrun
  · rw [hts] at hc
    obtain ⟨-, hphrase⟩ := lifetime_of_isPhrase hc
    cases hphrase with
    | ident hname hleft =>
      cases hrun
      exact ⟨_, _, ⟨hts, by simp, hname.lifetime, hname.lifetime, hleft⟩, hname, rfl, rfl⟩
  · cases hrun

instance marked_lifetime : Marked lifetime :=
  ⟨reads_lifetime.mono fun _ _ _ ⟨hname, htaken, hnew⟩ =>
    ⟨hname, htaken ▸ unnamed_lifetime, hnew ▸ unnamed_lifetime⟩⟩

instance sound_lifetime : Sound lifetime :=
  ⟨reads_lifetime.mono fun _ _ _ h => h.1⟩

/-- Without a single quote at its end the front of a phrase is a phrase. -/
theorem isPhrase_singleton {t : Token} {ts : List Token} (h : IsPhrase (t :: ts))
    (hquote : ∀ joint, t ≠ .punct '\'' joint) : IsPhrase [t] ∧ IsPhrase ts := by
  cases h with
  | ident hname hts => exact ⟨.ident hname .nil, hts⟩
  | literal hliteral hts => exact ⟨.literal hliteral .nil, hts⟩
  | mark hmark hne hts => exact ⟨.mark hmark hne .nil, hts⟩
  | group hbody hts => exact ⟨.group hbody .nil, hts⟩
  | lifetime _ _ => exact absurd rfl (hquote true)

theorem readsFrom_moveTo {c : Cursor} {t : Token} {ts : List Token} (hc : IsPhrase c.rest)
    (hts : c.rest = t :: ts) (hquote : ∀ joint, t ≠ .punct '\'' joint) :
    ReadsFrom c (moveTo ts) fun _ _ _ => True := by
  intro _ c' hrun
  cases hrun
  rw [hts] at hc
  obtain ⟨hphrase, hleft⟩ := isPhrase_singleton hc hquote
  exact ⟨[t], [], ⟨hts, (List.append_nil _).symm, hphrase, .nil, hleft⟩, trivial⟩

instance sound_literal : Sound literal where
  reads := by
    intro c hc a c' hrun
    obtain ⟨found, c₁, hlooks, hrequired⟩ := Reader.bind_eq_some.1 hrun
    obtain ⟨rfl, rfl⟩ := looks_eq_some hlooks
    obtain ⟨⟨⟩, c₂, hrequire, hread⟩ := Reader.bind_eq_some.1 hrequired
    obtain ⟨hliteral, rfl⟩ := require_eq_some hrequire
    clear hrun hrequired hlooks hrequire
    rw [rest_bind] at hread
    generalize hts : c₂.rest = ts at hread hc hliteral
    split at hread
    · cases hc with
      | mark hmark hne hleft =>
        cases hleft with
        | literal htext hleft =>
          cases hread
          have hwhole : ∀ joint, IsPhrase [.punct '-' joint, .literal _] := fun joint =>
            .mark hmark hne (.literal htext .nil)
          exact ⟨_, _, ⟨hts, by simp, hwhole _, hwhole false, hleft⟩, trivial⟩
        | _ => cases hliteral
    · rename_i t left _
      have hquote : ∀ joint, t ≠ .punct '\'' joint := by
        rintro joint rfl
        cases left <;> cases hliteral
      obtain ⟨hphrase, hleft⟩ := isPhrase_singleton hc hquote
      cases hread
      exact ⟨_, _, ⟨hts, by simp, hphrase, hphrase, hleft⟩, trivial⟩
    · cases hread

/-! Brackets. -/

theorem unnamed_group {d : Delimiter} {body : List Token} : Unnamed [.group d body] :=
  ⟨_, List.mem_singleton_self _, nofun⟩

theorem reads_rawGroup : Reads rawGroup fun d taken new =>
    ∃ body, taken = [.group d body] ∧ new = [.group d body] := by
  intro c hc a c' hrun
  rw [rawGroup, rest_bind] at hrun
  generalize hts : c.rest = ts at hrun
  rw [hts] at hc
  split at hrun
  · cases hc with
    | group hbody hleft =>
      cases hrun
      have hgroup : ∀ d, IsPhrase [.group d _] := fun d => .group hbody .nil
      exact ⟨_, _, ⟨hts, by simp, hgroup _, hgroup _, hleft⟩, _, rfl, rfl⟩
  · cases hrun

instance marked_rawGroup : Marked rawGroup :=
  ⟨reads_rawGroup.mono fun _ _ _ ⟨_, htaken, hnew⟩ =>
    ⟨trivial, htaken ▸ unnamed_group, hnew ▸ unnamed_group⟩⟩

instance sound_rawGroup : Sound rawGroup :=
  ⟨reads_rawGroup.mono fun _ _ _ _ => trivial⟩

theorem inside_eq_some {d : Delimiter} {c c' : Cursor} {a : α} (h : inside d p c = some (a, c')) :
    ∃ body ts c₁, c.rest = .group d body :: ts ∧ p ⟨body, #[]⟩ = some (a, c₁) ∧ c₁.rest = [] ∧
      c' = ⟨ts, c.written.push (.group d c₁.written.toList)⟩ := by
  rw [inside, rest_bind] at h
  generalize hts : c.rest = ts at h
  split at h
  · obtain ⟨⟨⟩, c₁, hrequire, hopened⟩ := Reader.bind_eq_some.1 h
    obtain ⟨hd, rfl⟩ := require_eq_some hrequire
    obtain ⟨_, _, hget, hentered⟩ := Reader.bind_eq_some.1 hopened
    cases hget
    obtain ⟨⟨⟩, _, hset, hread⟩ := Reader.bind_eq_some.1 hentered
    cases hset
    obtain ⟨b, c₂, hp, hchecked⟩ := Reader.bind_eq_some.1 hread
    obtain ⟨ended, c₃, hlooks, hended⟩ := Reader.bind_eq_some.1 hchecked
    obtain ⟨rfl, rfl⟩ := looks_eq_some hlooks
    obtain ⟨⟨⟩, c₄, hrequired, hclosed⟩ := Reader.bind_eq_some.1 hended
    obtain ⟨hempty, rfl⟩ := require_eq_some hrequired
    cases hclosed
    exact ⟨_, _, c₄, by rw [beq_iff_eq.1 hd], hp, List.isEmpty_iff.1 hempty, rfl⟩
  · cases h

/-- What is read inside brackets is all that stands in them. -/
theorem reads_inside (d : Delimiter) (h : Reads p post) : Reads (inside d p) fun a taken new =>
    ∃ body spelled, taken = [.group d body] ∧ new = [.group d spelled] ∧ post a body spelled := by
  intro c hc a c' hrun
  obtain ⟨body, ts, c₁, hts, hp, hempty, rfl⟩ := inside_eq_some hrun
  rw [hts] at hc
  cases hc with
  | group hbody hleft =>
    obtain ⟨taken, new, hreading, hpost⟩ := h _ hbody a c₁ hp
    have htaken : body = taken := by
      rw [← List.append_nil taken, ← hempty]
      exact hreading.split
    have hnew : c₁.written.toList = new := hreading.written
    rw [htaken] at hts hbody
    refine ⟨[.group d taken], [.group d new], ⟨hts, ?_, .group hbody .nil, .group hreading.new .nil,
      hleft⟩, taken, new, rfl, rfl, hpost⟩
    rw [← hnew]
    simp

/-! Lists. -/

/-- What holds of no steps, and of one more step when it holds of those after it, holds of a
repetition. -/
theorem reads_repeated {step : Reader (Option α)} {post : Option α → List Token → List Token → Prop}
    {whole : List α → List Token → Prop} (h : Reads step post)
    (hnone : ∀ taken new, post none taken new → whole [] new)
    (hsome : ∀ a l taken new new', post (some a) taken new → whole l new' →
      whole (a :: l) (new ++ new')) :
    Reads (repeated step) fun l _ new => whole l new := by
  have hfrom : ∀ fuel, Reads (repeatFrom fuel step) fun l _ new => whole l new := by
    intro fuel
    induction fuel with
    | zero => exact .failure
    | succ fuel ih =>
      unfold repeatFrom
      refine h.bind fun found taken new _ hfound => ?_
      cases found with
      | none => exact .pure (by simpa using hnone taken new hfound)
      | some a =>
        refine ih.bind fun l taken' new' _ hl => .pure ?_
        simpa using hsome a l taken new new' hfound hl
  refine reads_rest.bind fun ts taken new _ ⟨_, htaken, hnew⟩ => ?_
  subst htaken hnew
  exact hfrom _

section

variable [Checked α]

instance sound_inside (d : Delimiter) [h : Sound p] : Sound (inside d p) :=
  ⟨(reads_inside d h.reads).mono fun _ _ _ ⟨_, _, _, _, ha⟩ => ha⟩

instance marked_inside (d : Delimiter) [h : Sound p] : Marked (inside d p) :=
  ⟨(reads_inside d h.reads).mono fun _ _ _ ⟨_, _, htaken, hnew, ha⟩ =>
    ⟨ha, htaken ▸ unnamed_group, hnew ▸ unnamed_group⟩⟩

instance sound_repeatFrom (fuel : Nat) {step : Reader (Option α)} [h : Sound step] :
    Sound (repeatFrom fuel step) := by
  induction fuel with
  | zero =>
    unfold repeatFrom
    infer_instance
  | succ fuel ih =>
    unfold repeatFrom
    refine h.bind fun found hfound => ?_
    cases found with
    | none => infer_instance
    | some a =>
      have : Known a := ⟨hfound a rfl⟩
      infer_instance

theorem readsFrom_repeated {step : Reader (Option α)} [hstep : Sound step] {c : Cursor}
    (h : ReadsFrom c step fun found _ new => Checked.holds found ∧ Unnamed new) :
    ReadsFrom c (repeated step) fun _ _ new => Unnamed new := by
  refine readsFrom_rest ?_
  rw [repeatFrom]
  refine h.bind fun found taken new c₁ hreading ⟨hfound, hnew⟩ => ?_
  cases found with
  | none => exact reads_of_sound (fun _ _ new' _ => hnew.append_left new') c₁ hreading.rest
  | some a =>
    have : Known a := ⟨hfound a rfl⟩
    exact reads_of_sound (fun _ _ new' _ => hnew.append_left new') c₁ hreading.rest

instance sound_repeated {step : Reader (Option α)} [Sound step] : Sound (repeated step) := by
  unfold repeated
  infer_instance

instance sound_whileLooks (test : List Token → Bool) [Sound p] : Sound (whileLooks test p) := by
  unfold whileLooks
  infer_instance

instance sound_separatedFrom (fuel : Nat) (stop : List Token → Bool) {separator : Reader Bool}
    [Sound separator] [Sound p] : Sound (separatedFrom fuel stop separator p) := by
  induction fuel with
  | zero =>
    unfold separatedFrom
    infer_instance
  | succ fuel ih =>
    unfold separatedFrom
    infer_instance

instance sound_separated (stop : List Token → Bool) (op : String) [IsOperator op] [Sound p] :
    Sound (separated stop op p) := by
  unfold separated
  infer_instance

instance isOperator_comma : IsOperator "," := ⟨by decide, by decide⟩

instance sound_commaSeparated [Sound p] : Sound (commaSeparated p) := by
  unfold commaSeparated
  infer_instance

end

end Reader

end TypedPreferences.Source
