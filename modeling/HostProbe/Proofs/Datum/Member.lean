import HostProbe.Proofs.Datum.Record

namespace HostProbe.Datum

variable {σ α : Type} {shape : Shape σ} {name : String} {d : Datum} {ms : List (Datum × Datum)}
  {seen : List String} {s t : σ}

/-- The members by which a datum tells a record: its own in any order, or the items of a list with
one for each field. No field is told twice, and other members are well formed. -/
structure RecordOf (names : List String) (d : Datum) (ms : List (Datum × Datum)) : Prop where
  form : d = .record ms ∨
    ∃ ds, d = .list ds ∧ ds.length = names.length ∧ ms = (names.map .text).zip ds
  named : ∀ m ∈ ms, ∃ name, m.1 = .text name
  once : Once names ms
  others : ∀ name d, (.text name, d) ∈ ms → name ∉ names → d.sound = true

def Member (ms : List (Datum × Datum)) (name : String) (Says : Datum → α → Prop) (a : α) : Prop :=
  ∃ d, (.text name, d) ∈ ms ∧ Says d a

def Given (Says : Datum → α → Prop) (d : Datum) (o : Option α) : Prop := ∃ a, o = some a ∧ Says d a

inductive Tells (ms : List (Datum × Datum)) (name : String) (Says : Datum → Option α → Prop) :
    Option α → Prop where
  | said {d : Datum} {o : Option α} (hm : (.text name, d) ∈ ms) (h : Says d o) : Tells ms name Says o
  | silent (h : ∀ d, (.text name, d) ∉ ms) : Tells ms name Says none

inductive Settled {β : Type} (ms : List (Datum × Datum)) (name : String) (Says : Datum → β → Prop)
    (other : β) : β → Prop where
  | said {d : Datum} {b : β} (hm : (.text name, d) ∈ ms) (h : Says d b) : Settled ms name Says other b
  | silent (h : ∀ d, (.text name, d) ∉ ms) : Settled ms name Says other other

theorem tells_iff_settled {Says : Datum → Option α → Prop} {o : Option α} :
    Tells ms name Says o ↔ Settled ms name Says none o := by
  constructor
  · rintro (⟨hm, h⟩ | h)
    · exact .said hm h
    · exact .silent h
  · rintro (⟨hm, h⟩ | h)
    · exact .said hm h
    · exact .silent h

theorem said_iff {read : Datum → Reading α} {Says : Datum → α → Prop}
    (h : ∀ d a, read d = .ok a ↔ Says d a) (d : Datum) (a : α) :
    Says d a ↔ ∃ b, read d = .ok b ∧ b = a := by
  rw [exists_eq_right, h]

theorem given_iff {read : Datum → Reading α} {Says : Datum → α → Prop}
    (h : ∀ d a, read d = .ok a ↔ Says d a) (d : Datum) (o : Option α) :
    Given Says d o ↔ ∃ a, read d = .ok a ∧ some a = o :=
  ⟨fun ⟨a, ho, ha⟩ => ⟨a, (h d a).2 ha, ho.symm⟩, fun ⟨a, ha, ho⟩ => ⟨a, ho.symm, (h d a).1 ha⟩⟩

theorem optional_iff {read : Datum → Reading α} {Says : Datum → α → Prop}
    (h : ∀ d a, read d = .ok a ↔ Says d a) (hn : ∀ a, ¬ Says .null a) (d : Datum) (o : Option α) :
    Optional Says d o ↔ ∃ b, readOption read d = .ok b ∧ b = o :=
  said_iff (fun _ _ => readOption_eq_ok_iff h hn) d o

theorem optional_map_iff {β : Type} {read : Datum → Reading β} {value : β → α}
    {Says : Datum → α → Prop} (h : ∀ d a, Says d a ↔ ∃ b, read d = .ok b ∧ value b = a)
    (hn : ∀ a, ¬ Says .null a) (d : Datum) (o : Option α) :
    Optional Says d o ↔ ∃ b, readOption read d = .ok b ∧ b.map value = o := by
  have hnull : ∀ b, ¬ read .null = .ok b := fun b hb => hn (value b) ((h _ _).2 ⟨b, hb, rfl⟩)
  have hread (b : Option β) : readOption read d = .ok b ↔ Optional (fun d b => read d = .ok b) d b :=
    readOption_eq_ok_iff (fun _ _ => Iff.rfl) hnull
  simp only [hread]
  constructor
  · rintro (_ | ha)
    · exact ⟨none, .missing, rfl⟩
    · obtain ⟨b, hb, rfl⟩ := (h _ _).1 ha
      exact ⟨some b, .given hb, rfl⟩
  · rintro ⟨_, _ | hb, rfl⟩
    · exact .missing
    · exact .given ((h _ _).2 ⟨_, hb, rfl⟩)

theorem tells_given_iff {Says : Datum → α → Prop} {a : α} :
    Tells ms name (Given Says) (some a) ↔ Member ms name Says a := by
  constructor
  · intro h
    cases h with
    | said hm h =>
        obtain ⟨_, he, h⟩ := h
        cases he
        exact ⟨_, hm, h⟩
  · rintro ⟨d, hm, h⟩
    exact .said hm ⟨a, rfl, h⟩

theorem Settled.cons {β : Type} {Says : Datum → β → Prop} {b c : β} {other : String}
    (hne : other ≠ name) (h : Settled ms name Says c b) :
    Settled ((.text other, d) :: ms) name Says c b := by
  cases h with
  | said hm h => exact .said (List.mem_cons_of_mem _ hm) h
  | silent h =>
      refine .silent fun d' hm => ?_
      rcases List.mem_cons.1 hm with he | hm
      · cases he
        exact hne rfl
      · exact h d' hm

theorem soundMembers_eq_true : soundMembers ms = true ↔ ∀ m ∈ ms, m.1.sound = true ∧ m.2.sound = true := by
  induction ms with
  | nil => exact ⟨fun _ => nofun, fun _ => rfl⟩
  | cons m ms ih => rw [soundMembers, Bool.and_eq_true, Bool.and_eq_true, ih, List.forall_mem_cons]

theorem soundItems_eq_true {ds : List Datum} : soundItems ds = true ↔ ∀ d ∈ ds, d.sound = true := by
  induction ds with
  | nil => exact ⟨fun _ => nofun, fun _ => rfl⟩
  | cons d ds ih => rw [soundItems, Bool.and_eq_true, ih, List.forall_mem_cons]

/-- What is said of a field is well formed. -/
def SoundAt (ms : List (Datum × Datum)) (name : String) : Prop :=
  ∀ d, (.text name, d) ∈ ms → d.sound = true

theorem Tells.soundAt {names : List String} {Says : Datum → Option α → Prop} {o : Option α}
    (h : Tells ms name Says o) (hn : name ∈ names) (ho : Once names ms)
    (hs : ∀ d o, Says d o → d.sound = true) : SoundAt ms name := by
  intro d hd
  cases h with
  | said hm h =>
      cases ho.unique hn hm hd
      exact hs _ _ h
  | silent h => exact absurd hd (h d)

theorem RecordOf.sound {names : List String} (h : RecordOf names d ms)
    (hf : ∀ name ∈ names, SoundAt ms name) : d.sound = true := by
  have hms : ∀ m ∈ ms, m.2.sound = true := by
    rintro ⟨k, d'⟩ hm
    obtain ⟨name, rfl⟩ : ∃ name, k = .text name := h.named _ hm
    by_cases hn : name ∈ names
    · exact hf name hn d' hm
    · exact h.others name d' hm hn
  rcases h.form with rfl | ⟨ds, rfl, hl, rfl⟩
  · rw [Datum.sound, soundMembers_eq_true]
    intro m hm
    obtain ⟨name, hk⟩ := h.named m hm
    exact ⟨by rw [hk]; rfl, hms m hm⟩
  · rw [Datum.sound, soundItems_eq_true]
    intro d' hd'
    have hz : ((names.map Datum.text).zip ds).map Prod.snd = ds :=
      List.map_snd_zip (Nat.le_of_eq (hl.trans (List.length_map _).symm))
    rw [← hz] at hd'
    obtain ⟨m, hm, rfl⟩ := List.mem_map.1 hd'
    exact hms m hm

def Keeps {β : Type} (get : σ → β) (f : Field σ) : Prop :=
  ∀ d put s, f.read d = .ok put → get (put s) = get s

section Fields

variable {β γ : Type} {read : Datum → Reading β} {put : β → σ → σ} {get : σ → γ}

@[simp]
theorem field_name : (field name read put).name = name := rfl

theorem field_read_eq_ok_iff {p : σ → σ} :
    (field name read put).read d = .ok p ↔ ∃ b, read d = .ok b ∧ put b = p :=
  Reading.map_eq_ok_iff

@[simp]
theorem keeps_field (h : ∀ b s, get (put b s) = get s) : Keeps get (field name read put) := by
  intro d p s hp
  obtain ⟨b, _, rfl⟩ := field_read_eq_ok_iff.1 hp
  exact h b s

end Fields

def Shape.Readable (shape : Shape σ) (ms : List (Datum × Datum)) (name : String) : Prop :=
  ∀ d f, shape.field? name = some f → (.text name, d) ∈ ms → ∃ put, f.read d = .ok put

structure Fills {β : Type} (shape : Shape σ) (name : String) (Says : Datum → β → Prop)
    (get : σ → β) : Prop where
  known : name ∈ shape.names
  fills : ∀ f d put, shape.field? name = some f → f.read d = .ok put →
    ∃ b, Says d b ∧ ∀ s, get (put s) = b
  fits : ∀ f d b, shape.field? name = some f → Says d b →
    ∃ put, f.read d = .ok put ∧ ∀ s, get (put s) = b
  others : ∀ f ∈ shape.fields, f.name = name ∨ Keeps get f

namespace Fills

variable {β : Type} {Says : Datum → β → Prop} {get : σ → β}

theorem of_field {γ : Type} {read : Datum → Reading γ} {put : γ → σ → σ} {value : γ → β}
    (hf : shape.field? name = some (field name read put)) (hput : ∀ c s, get (put c s) = value c)
    (htold : ∀ d b, Says d b ↔ ∃ c, read d = .ok c ∧ value c = b)
    (ho : ∀ f ∈ shape.fields, f.name = name ∨ Keeps get f) : Fills shape name Says get where
  known := Shape.mem_names_of_field? hf
  fills f d p hf' hr := by
    cases hf.symm.trans hf'
    obtain ⟨c, hc, rfl⟩ := field_read_eq_ok_iff.1 hr
    exact ⟨value c, (htold d _).2 ⟨c, hc, rfl⟩, hput c⟩
  fits f d b hf' h := by
    cases hf.symm.trans hf'
    obtain ⟨c, hc, rfl⟩ := (htold d b).1 h
    exact ⟨put c, field_read_eq_ok_iff.2 ⟨c, hc, rfl⟩, hput c⟩
  others := ho

theorem get_eq_of_seen (S : Fills shape name Says get) (h : shape.Takes seen s ms t)
    (hs : name ∈ seen) : get t = get s := by
  induction h with
  | nil => rfl
  | field hf hn hr h ih =>
      rw [ih (List.mem_cons_of_mem _ hs)]
      obtain ⟨hm, hname⟩ := Shape.mem_and_name_of_field? hf
      rcases S.others _ hm with he | hk
      · exact absurd (hname.symm.trans he ▸ hs) hn
      · exact hk _ _ _ hr
  | skip hf hl hd h ih => exact ih hs

theorem settled_of_takes (S : Fills shape name Says get) (h : shape.Takes seen s ms t)
    (hs : name ∉ seen) : Settled ms name Says (get s) (get t) := by
  induction h with
  | nil => exact .silent fun d => List.not_mem_nil
  | @field seen s t other d f put ms hf hn hr h ih =>
      by_cases hname : other = name
      · cases hname
        obtain ⟨b, hb, hget⟩ := S.fills f d put hf hr
        rw [S.get_eq_of_seen h List.mem_cons_self, hget]
        exact .said List.mem_cons_self hb
      · -- Another field: it leaves this part of the result as it was.
        obtain ⟨hm, he⟩ := Shape.mem_and_name_of_field? hf
        have hkeeps : get (put s) = get s := by
          rcases S.others f hm with hf' | hk
          · exact absurd (he.symm.trans hf') hname
          · exact hk d put s hr
        rw [← hkeeps]
        exact .cons hname (ih fun hm => (List.mem_cons.1 hm).elim (fun he => hname he.symm) hs)
  | skip hf hl hd h ih =>
      refine .cons ?_ (ih hs)
      rintro rfl
      exact Shape.field?_eq_none_iff.1 hf S.known

theorem settled (S : Fills shape name Says get) (h : shape.Takes [] shape.start ms t) :
    Settled ms name Says (get shape.start) (get t) := S.settled_of_takes h List.not_mem_nil

theorem settled_unique (S : Fills shape name Says get) (ht : shape.Tidy ms) {b b' c : β}
    (h : Settled ms name Says c b) (h' : Settled ms name Says c b') : b = b' := by
  cases hf : shape.field? name with
  | none => exact absurd S.known (Shape.field?_eq_none_iff.1 hf)
  | some f =>
      cases h with
      | said hm h =>
          cases h' with
          | said hm' h' =>
              cases ht.once.unique S.known hm hm'
              obtain ⟨put, hr, hget⟩ := S.fits f _ b hf h
              obtain ⟨put', hr', hget'⟩ := S.fits f _ b' hf h'
              cases hr.symm.trans hr'
              exact (hget shape.start).symm.trans (hget' shape.start)
          | silent h' => exact absurd hm (h' _)
      | silent h =>
          cases h' with
          | said hm' _ => exact absurd hm' (h _)
          | silent => rfl

theorem readable_of_settled (S : Fills shape name Says get) (ht : shape.Tidy ms) {b c : β}
    (h : Settled ms name Says c b) : shape.Readable ms name := by
  intro d f hf hm
  cases h with
  | said hm' h =>
      cases ht.once.unique S.known hm hm'
      obtain ⟨put, hr, _⟩ := S.fits f d b hf h
      exact ⟨put, hr⟩
  | silent h => exact absurd hm (h d)

end Fills

structure Slot (shape : Shape σ) (name : String) (Says : Datum → Option α → Prop)
    (get : σ → Option α) : Prop extends Fills shape name Says get where
  empty : get shape.start = none

namespace Slot

variable {Says : Datum → Option α → Prop} {get : σ → Option α}

theorem of_field {β : Type} {read : Datum → Reading β} {put : β → σ → σ} {value : β → Option α}
    (hf : shape.field? name = some (field name read put)) (hput : ∀ b s, get (put b s) = value b)
    (htold : ∀ d o, Says d o ↔ ∃ b, read d = .ok b ∧ value b = o) (h₀ : get shape.start = none)
    (ho : ∀ f ∈ shape.fields, f.name = name ∨ Keeps get f) : Slot shape name Says get :=
  ⟨.of_field hf hput htold ho, h₀⟩

theorem told (S : Slot shape name Says get) (h : shape.Takes [] shape.start ms t) :
    Tells ms name Says (get t) := by
  have hs := S.settled h
  rw [S.empty] at hs
  exact tells_iff_settled.2 hs

theorem unique (S : Slot shape name Says get) (ht : shape.Tidy ms) {o o' : Option α}
    (h : Tells ms name Says o) (h' : Tells ms name Says o') : o = o' :=
  S.settled_unique ht (tells_iff_settled.1 h) (tells_iff_settled.1 h')

theorem readable (S : Slot shape name Says get) (ht : shape.Tidy ms) {o : Option α}
    (h : Tells ms name Says o) : shape.Readable ms name :=
  S.readable_of_settled ht (tells_iff_settled.1 h)

end Slot

/-- A datum reads as a result exactly when the members it tells a record by say it. -/
theorem Shape.read_eq_ok_iff_says (hn : shape.names.Nodup) {Says : List (Datum × Datum) → σ → Prop}
    (htold : ∀ ms t, shape.Takes [] shape.start ms t → Says ms t)
    (hread : ∀ ms t, shape.Tidy ms → Says ms t → ∀ name ∈ shape.names, shape.Readable ms name)
    (hunique : ∀ ms t t', shape.Tidy ms → Says ms t → Says ms t' → t = t') :
    shape.read d = .ok t ↔ ∃ ms, (shape.Presents d ms ∧ shape.Tidy ms) ∧ Says ms t := by
  rw [Shape.read_eq_ok_iff hn]
  constructor
  · rintro ⟨ms, hp, ht⟩
    exact ⟨ms, ⟨hp, ht.tidy⟩, htold ms t ht⟩
  · rintro ⟨ms, ⟨hp, htidy⟩, hs⟩
    obtain ⟨t', ht'⟩ : ∃ t', shape.Takes [] shape.start ms t' := htidy.exists_takes
      (fun name d f hm hf => hread ms t htidy hs name (Shape.mem_names_of_field? hf) d f hf hm) nofun
    cases hunique ms t t' htidy hs (htold ms t' ht')
    exact ⟨ms, hp, ht'⟩

/-- Other members are passed over, and a list has one item for each field. -/
structure Shape.Plain (shape : Shape σ) : Prop where
  distinct : shape.names.Nodup
  lenient : shape.strict = false
  whole : shape.partialList = false
  bounded : shape.surplusList = false

theorem Shape.Plain.recordOf_iff (h : shape.Plain) :
    RecordOf shape.names d ms ↔ shape.Presents d ms ∧ shape.Tidy ms := by
  have hlen : shape.names.length = shape.fields.length := List.length_map ..
  constructor
  · intro hr
    refine ⟨?_, hr.named, hr.once, fun name d hm hn => ⟨h.lenient, hr.others name d hm hn⟩⟩
    rcases hr.form with rfl | ⟨ds, rfl, hl, rfl⟩
    · exact .record ms
    · exact .list ds (.inr (Nat.le_of_eq (hl.trans hlen).symm))
        (.inr (Nat.le_of_eq (hl.trans hlen)))
  · rintro ⟨hp, ht⟩
    refine ⟨?_, ht.named, ht.once, fun name d hm hn => (ht.others name d hm hn).2⟩
    cases hp with
    | record => exact .inl rfl
    | list ds least most =>
        simp only [h.whole, h.bounded, Bool.false_eq_true, false_or] at least most
        exact .inr ⟨ds, rfl, (Nat.le_antisymm most least).trans hlen.symm, rfl⟩

theorem Shape.Plain.read_eq_ok_iff (h : shape.Plain) {names : List String} (hn : shape.names = names)
    {Says : List (Datum × Datum) → σ → Prop}
    (htold : ∀ ms t, shape.Takes [] shape.start ms t → Says ms t)
    (hread : ∀ ms t, shape.Tidy ms → Says ms t → ∀ name ∈ names, shape.Readable ms name)
    (hunique : ∀ ms t t', shape.Tidy ms → Says ms t → Says ms t' → t = t') :
    shape.read d = .ok t ↔ ∃ ms, RecordOf names d ms ∧ Says ms t := by
  subst hn
  rw [Shape.read_eq_ok_iff_says h.distinct htold hread hunique]
  simp only [h.recordOf_iff]

end HostProbe.Datum
