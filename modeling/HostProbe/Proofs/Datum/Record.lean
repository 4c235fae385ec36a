import HostProbe.Datum.Record
import Mathlib.Algebra.Ring.Nat
import Mathlib.Data.List.Nodup
import Mathlib.Data.List.Pairwise

namespace HostProbe

theorem readJson_eq {α : Type} {read : Datum → Reading α} {text : String} {d : Datum}
    (h : Datum.ofJson text = (d, true)) : readJson read text = read d := by
  rw [readJson, h]
  dsimp only
  cases read d <;> rfl

theorem readJson_eq_ok_iff {α : Type} {read : Datum → Reading α} {text : String} {a : α} :
    readJson read text = .ok a ↔ ∃ d, Datum.ofJson text = (d, true) ∧ read d = .ok a := by
  constructor
  · intro h
    rw [readJson] at h
    split at h
    next d ended hd =>
      split at h
      · cases h
      · next hr =>
          split at h
          · next he =>
              cases h
              exact ⟨d, hd.trans (congrArg _ he), hr⟩
          · cases h
  · rintro ⟨d, hd, hr⟩
    rw [readJson_eq hd, hr]

def readChars {α : Type} (read : Datum → Reading α) (cs : List Char) : Reading α :=
  let (d, rest) := Datum.Json.value (2 * cs.length + 1) cs
  match read d with
  | .error e => .error e
  | .ok a => if (Datum.Json.skipBlanks rest).isEmpty then .ok a else .error .malformed

theorem readJson_ofList {α : Type} (read : Datum → Reading α) (cs : List Char) :
    readJson read (String.ofList cs) = readChars read cs := by
  rw [readJson, Datum.ofJson, String.length_ofList, String.toList_ofList]
  rfl

theorem Reading.bind_eq_ok_iff {α β : Type} {x : Reading α} {f : α → Reading β} {b : β} :
    x >>= f = .ok b ↔ ∃ a, x = .ok a ∧ f a = .ok b := by
  cases x with
  | error e => exact ⟨nofun, fun ⟨a, h, _⟩ => nomatch h⟩
  | ok a => exact ⟨fun h => ⟨a, rfl, h⟩, fun ⟨_, h, hf⟩ => by cases h; exact hf⟩

theorem Reading.map_eq_ok_iff {α β : Type} {x : Reading α} {f : α → β} {b : β} :
    x.map f = .ok b ↔ ∃ a, x = .ok a ∧ f a = b := by
  cases x with
  | error e => exact ⟨nofun, fun ⟨_, h, _⟩ => nomatch h⟩
  | ok a => exact ⟨fun h => ⟨a, rfl, Except.ok.inj h⟩, fun ⟨_, h, hf⟩ => by cases h; rw [← hf]; rfl⟩

theorem Reading.ofRefusal_eq_ok_iff {α : Type} {x : Except Refusal α} {a : α} :
    Reading.ofRefusal x = .ok a ↔ x = .ok a := by
  cases x with
  | error e => exact ⟨nofun, nofun⟩
  | ok b => exact ⟨fun h => by cases h; rfl, fun h => by cases h; rfl⟩

theorem Reading.eq_ok_of_toOption {α : Type} {x : Reading α} {a : α} (h : x.toOption = some a) :
    x = .ok a := by
  cases x with
  | error e => cases h
  | ok b =>
      cases h
      rfl

namespace Datum

def Whole (bits : Nat) (d : Datum) (n : Nat) : Prop := d = .int n ∧ n < 2 ^ bits

inductive Number : Datum → Binary64 → Prop where
  | real (x : Binary64) : Number (.real x) x
  | whole (n : Int) : Number (.int n) (Binary64.ofInt n)

inductive Optional {α : Type} (Says : Datum → α → Prop) : Datum → Option α → Prop where
  | missing : Optional Says .null none
  | given {d : Datum} {a : α} (h : Says d a) : Optional Says d (some a)

section Leaves

variable {d : Datum}

theorem readNat_eq_ok_iff {bits n : Nat} : readNat bits d = .ok n ↔ d.Whole bits n := by
  cases d with
  | int m =>
      rw [readNat, Whole, Nat.one_shiftLeft]
      split
      · next h =>
          obtain ⟨m, rfl⟩ := Int.eq_ofNat_of_zero_le h.1
          rw [Int.toNat_natCast]
          constructor
          · intro he
            cases he
            exact ⟨rfl, Int.ofNat_lt.1 h.2⟩
          · rintro ⟨he, _⟩
            rw [Int.ofNat.inj (Datum.int.inj he)]
      · next h =>
          refine ⟨nofun, fun ⟨he, hn⟩ => absurd ?_ h⟩
          rw [Datum.int.inj he]
          exact ⟨Int.natCast_nonneg n, Int.ofNat_lt.2 hn⟩
  | _ => exact ⟨nofun, fun ⟨he, _⟩ => nomatch he⟩

/-- The same for a type that holds the numbers of so many bits. -/
theorem whole_iff {α : Type} {toNat : α → Nat} {ofNat : Nat → α} {bits : Nat}
    (hof : ∀ a, ofNat (toNat a) = a) (hto : ∀ n, n < 2 ^ bits → toNat (ofNat n) = n) {a : α} :
    d.Whole bits (toNat a) ↔ ∃ n, readNat bits d = .ok n ∧ ofNat n = a := by
  simp only [readNat_eq_ok_iff]
  constructor
  · exact fun h => ⟨toNat a, h, hof a⟩
  · rintro ⟨n, h, rfl⟩
    rwa [hto n h.2]

theorem readReal_eq_ok_iff {x : Binary64} : readReal d = .ok x ↔ d.Number x := by
  constructor
  · intro h
    unfold readReal at h
    split at h
    · cases h
      exact .real x
    · cases h
      exact .whole _
    · cases h
  · rintro (_ | _)
    · rfl
    · rfl

theorem readBool_eq_ok_iff {b : Bool} : readBool d = .ok b ↔ d = .bool b := by
  unfold readBool
  split
  · exact ⟨fun h => by cases h; rfl, fun h => by cases h; rfl⟩
  · next hn => exact ⟨nofun, fun h => absurd h (hn b)⟩

theorem readText_eq_ok_iff {s : String} : readText d = .ok s ↔ d = .text s := by
  unfold readText
  split
  · exact ⟨fun h => by cases h; rfl, fun h => by cases h; rfl⟩
  · next hn => exact ⟨nofun, fun h => absurd h (hn s)⟩

theorem readOption_eq_ok_iff {α : Type} {read : Datum → Reading α} {Says : Datum → α → Prop}
    (hs : ∀ d a, read d = .ok a ↔ Says d a) (hn : ∀ a, ¬ Says .null a) {o : Option α} :
    readOption read d = .ok o ↔ Optional Says d o := by
  unfold readOption
  split
  · constructor
    · intro h
      cases h
      exact .missing
    · rintro (_ | h)
      · rfl
      · exact absurd h (hn _)
  · next hd =>
      rw [Reading.map_eq_ok_iff]
      constructor
      · rintro ⟨a, hr, rfl⟩
        exact .given ((hs d a).1 hr)
      · rintro (_ | h)
        · exact absurd rfl hd
        · exact ⟨_, (hs _ _).2 h, rfl⟩

end Leaves

section Shapes

variable {σ : Type} {shape : Shape σ} {name : String} {d : Datum} {ms : List (Datum × Datum)}
  {seen : List String} {s t : σ} {f : Field σ}

def Shape.names (shape : Shape σ) : List String := shape.fields.map Field.name

def Shape.field? (shape : Shape σ) (name : String) : Option (Field σ) :=
  shape.fields.find? (·.name == name)

theorem Shape.field?_eq_none_iff : shape.field? name = none ↔ name ∉ shape.names := by
  simp only [Shape.field?, Shape.names, List.find?_eq_none, List.mem_map, beq_iff_eq, not_exists, not_and]

theorem Shape.mem_names_of_field? (h : shape.field? name = some f) : name ∈ shape.names := by
  by_contra hn
  rw [Shape.field?_eq_none_iff.2 hn] at h
  cases h

theorem Shape.mem_and_name_of_field? (h : shape.field? name = some f) :
    f ∈ shape.fields ∧ f.name = name := by
  rw [Shape.field?] at h
  have hp := List.find?_some h
  exact ⟨List.mem_of_find?_eq_some h, beq_iff_eq.1 hp⟩

inductive Shape.Presents (shape : Shape σ) : Datum → List (Datum × Datum) → Prop where
  | record (ms : List (Datum × Datum)) : Presents shape (.record ms) ms
  | list (ds : List Datum) (least : shape.partialList = true ∨ shape.fields.length ≤ ds.length)
      (most : shape.surplusList = true ∨ ds.length ≤ shape.fields.length) :
      Presents shape (.list ds) ((shape.names.map .text).zip ds)

def Once (names : List String) (ms : List (Datum × Datum)) : Prop :=
  ms.Pairwise fun m m' => ∀ name ∈ names, m.1 = .text name → m'.1 ≠ .text name

theorem Once.unique {names : List String} {d' : Datum} (h : Once names ms) (hn : name ∈ names)
    (hd : (.text name, d) ∈ ms) (hd' : (.text name, d') ∈ ms) : d = d' := by
  by_contra hne
  have : Std.Symm fun m m' : Datum × Datum =>
      ∀ name ∈ names, m.1 = .text name → m'.1 ≠ .text name :=
    ⟨fun m m' hmm name hn hm' hm => hmm name hn hm hm'⟩
  exact h.forall hd hd' (fun he => hne (congrArg Prod.snd he)) name hn rfl rfl

structure Shape.Tidy (shape : Shape σ) (ms : List (Datum × Datum)) : Prop where
  named : ∀ m ∈ ms, ∃ name, m.1 = .text name
  once : Once shape.names ms
  others : ∀ name d, (.text name, d) ∈ ms → name ∉ shape.names →
    shape.strict = false ∧ d.sound = true

inductive Shape.Takes (shape : Shape σ) : List String → σ → List (Datum × Datum) → σ → Prop where
  | nil (seen : List String) (s : σ) : Takes shape seen s [] s
  | field {seen : List String} {s t : σ} {name : String} {d : Datum} {f : Field σ} {put : σ → σ}
      {ms : List (Datum × Datum)} (hf : shape.field? name = some f)
      (hs : name ∉ seen) (hr : f.read d = .ok put) (h : Takes shape (name :: seen) (put s) ms t) :
      Takes shape seen s ((.text name, d) :: ms) t
  | skip {seen : List String} {s t : σ} {name : String} {d : Datum} {ms : List (Datum × Datum)}
      (hf : shape.field? name = none) (hl : shape.strict = false)
      (hd : d.sound = true) (h : Takes shape seen s ms t) :
      Takes shape seen s ((.text name, d) :: ms) t

theorem Shape.readMembers_eq_ok_iff :
    shape.readMembers seen s ms = .ok t ↔ shape.Takes seen s ms t := by
  constructor
  · intro h
    fun_induction Shape.readMembers shape seen s ms with
    | case1 seen s =>
        cases h
        exact .nil seen _
    | case2 | case3 | case5 | case7 => cases h
    | case4 seen s name d ms f hf hs put hr ih =>
        exact .field hf (by simpa only [List.contains_iff_mem] using hs) hr (ih h)
    | case6 seen s name d ms hf hl ih =>
        simp only [Bool.or_eq_true, Bool.not_eq_true', not_or, Bool.not_eq_true, Bool.not_eq_false] at hl
        exact .skip hf hl.1 hl.2 (ih h)
  · intro h
    induction h with
    | nil => rfl
    | field hf hs hr h ih =>
        rw [Shape.readMembers, ← Shape.field?, hf]
        simp only [List.contains_iff_mem, hs, if_false, hr, ih]
    | skip hf hl hd h ih =>
        rw [Shape.readMembers, ← Shape.field?, hf]
        simp only [hl, hd, Bool.not_true, Bool.or_self, Bool.false_eq_true, if_false, ih]

theorem Shape.takes_nil_iff : shape.Takes seen s [] t ↔ s = t :=
  ⟨fun h => by cases h; rfl, fun h => h ▸ .nil seen s⟩

theorem Shape.takes_field_iff (hf : shape.field? name = some f) (hs : name ∉ seen) :
    shape.Takes seen s ((.text name, d) :: ms) t ↔
      ∃ put, f.read d = .ok put ∧ shape.Takes (name :: seen) (put s) ms t := by
  constructor
  · intro h
    cases h with
    | field hf' _ hr h =>
        cases hf.symm.trans hf'
        exact ⟨_, hr, h⟩
    | skip hf' _ _ _ => cases hf.symm.trans hf'
  · rintro ⟨put, hr, h⟩
    exact .field hf hs hr h

theorem Shape.field?_eq_some (hn : shape.names.Nodup) (hf : f ∈ shape.fields) :
    shape.field? f.name = some f := by
  cases h : shape.field? f.name with
  | none => exact absurd (List.mem_map_of_mem hf) (Shape.field?_eq_none_iff.1 h)
  | some g =>
      obtain ⟨hg, he⟩ := Shape.mem_and_name_of_field? h
      rw [List.inj_on_of_nodup_map hn hg hf he]

theorem Shape.readFields_eq_ok_iff {fs : List (Field σ)} {ds : List Datum}
    (hk : ∀ f ∈ fs, shape.field? f.name = some f) (hn : (fs.map Field.name).Nodup)
    (hs : ∀ f ∈ fs, f.name ∉ seen) :
    shape.readFields fs s ds = .ok t ↔
      (shape.partialList = true ∨ fs.length ≤ ds.length) ∧
      (shape.surplusList = true ∨ ds.length ≤ fs.length) ∧
      shape.Takes seen s (((fs.map Field.name).map .text).zip ds) t := by
  -- Each field adds its name to those that were seen, so that none of the later ones was.
  induction fs generalizing seen s ds with
  | nil =>
      cases ds with
      | nil => simp [Shape.readFields, Shape.takes_nil_iff]
      | cons d ds => cases h : shape.surplusList <;> simp [Shape.readFields, Shape.takes_nil_iff, h]
  | cons f fs ih =>
      cases ds with
      | nil => cases h : shape.partialList <;> simp [Shape.readFields, Shape.takes_nil_iff, h]
      | cons d ds =>
          rw [List.map_cons, List.nodup_cons] at hn
          have hseen : ∀ g ∈ fs, g.name ∉ f.name :: seen := by
            intro g hg hm
            rcases List.mem_cons.1 hm with he | hm
            · exact hn.1 (he ▸ List.mem_map_of_mem hg)
            · exact hs g (List.mem_cons_of_mem f hg) hm
          have htail (put : σ → σ) : shape.readFields fs (put s) ds = .ok t ↔ _ :=
            ih (fun g hg => hk g (List.mem_cons_of_mem f hg)) hn.2 hseen
          simp only [List.map_cons, List.zip_cons_cons, List.length_cons, Nat.add_le_add_iff_right,
            Shape.takes_field_iff (hk f List.mem_cons_self) (hs f List.mem_cons_self)]
          cases hr : f.read d with
          | error e => simp [Shape.readFields, hr]
          | ok put => simp [Shape.readFields, hr, htail]

theorem Shape.read_eq_ok_iff (hn : shape.names.Nodup) :
    shape.read d = .ok t ↔ ∃ ms, shape.Presents d ms ∧ shape.Takes [] shape.start ms t := by
  constructor
  · intro h
    unfold Shape.read at h
    split at h
    · next ms => exact ⟨ms, .record ms, Shape.readMembers_eq_ok_iff.1 h⟩
    · next ds =>
        obtain ⟨hl, hm, ht⟩ := (Shape.readFields_eq_ok_iff (fun f hf => Shape.field?_eq_some hn hf) hn
          (fun _ _ => List.not_mem_nil)).1 h
        exact ⟨_, .list ds hl hm, ht⟩
    · cases h
  · rintro ⟨ms, hp, ht⟩
    cases hp with
    | record => exact Shape.readMembers_eq_ok_iff.2 ht
    | list ds hl hm =>
        exact (Shape.readFields_eq_ok_iff (fun f hf => Shape.field?_eq_some hn hf) hn
          (fun _ _ => List.not_mem_nil)).2 ⟨hl, hm, ht⟩

theorem Shape.Takes.not_mem_of_seen (h : shape.Takes seen s ms t) (hn : name ∈ shape.names)
    (hs : name ∈ seen) : (.text name, d) ∉ ms := by
  induction h with
  | nil => exact List.not_mem_nil
  | field hf hs' hr h ih =>
      intro hm
      rcases List.mem_cons.1 hm with he | hm
      · cases he
        exact hs' hs
      · exact ih (List.mem_cons_of_mem _ hs) hm
  | skip hf hl hd h ih =>
      intro hm
      rcases List.mem_cons.1 hm with he | hm
      · cases he
        exact Shape.field?_eq_none_iff.1 hf hn
      · exact ih hs hm

theorem Shape.Tidy.cons (h : shape.Tidy ms) (hlater : name ∈ shape.names → ∀ d', (.text name, d') ∉ ms)
    (hother : name ∉ shape.names → shape.strict = false ∧ d.sound = true) :
    shape.Tidy ((.text name, d) :: ms) where
  named := List.forall_mem_cons.2 ⟨⟨name, rfl⟩, h.named⟩
  once := by
    refine List.pairwise_cons.2 ⟨?_, h.once⟩
    rintro ⟨k, d'⟩ hm other hn he rfl
    cases he
    exact hlater hn d' hm
  others other d' hm hn := by
    rcases List.mem_cons.1 hm with he | hm
    · cases he
      exact hother hn
    · exact h.others other d' hm hn

theorem Shape.Takes.tidy (h : shape.Takes seen s ms t) : shape.Tidy ms := by
  induction h with
  | nil => exact ⟨nofun, .nil, nofun⟩
  | field hf hs hr h ih =>
      exact ih.cons (fun hn _ => h.not_mem_of_seen hn List.mem_cons_self)
        fun hn => absurd (Shape.mem_names_of_field? hf) hn
  | skip hf hl hd h ih =>
      exact ih.cons (fun hn => absurd hn (Shape.field?_eq_none_iff.1 hf)) fun _ => ⟨hl, hd⟩

theorem Shape.Tidy.of_cons {m : Datum × Datum} (h : shape.Tidy (m :: ms)) : shape.Tidy ms where
  named := (List.forall_mem_cons.1 h.named).2
  once := (List.pairwise_cons.1 h.once).2
  others name d hm := h.others name d (List.mem_cons_of_mem m hm)

theorem Shape.Tidy.exists_takes (h : shape.Tidy ms)
    (hr : ∀ name d f, (.text name, d) ∈ ms → shape.field? name = some f → ∃ put, f.read d = .ok put)
    (hs : ∀ name ∈ seen, name ∈ shape.names → ∀ d, (.text name, d) ∉ ms) :
    ∃ t, shape.Takes seen s ms t := by
  induction ms generalizing seen s with
  | nil => exact ⟨s, .nil seen s⟩
  | cons m ms ih =>
      obtain ⟨k, d⟩ := m
      obtain ⟨name, rfl⟩ : ∃ name, k = .text name := h.named _ List.mem_cons_self
      have hlater : ∀ name d f, (.text name, d) ∈ ms → shape.field? name = some f →
          ∃ put, f.read d = .ok put :=
        fun name d f hm => hr name d f (List.mem_cons_of_mem _ hm)
      cases hf : shape.field? name with
      | some f =>
          have hn := Shape.mem_names_of_field? hf
          obtain ⟨put, hput⟩ := hr name d f List.mem_cons_self hf
          have hnot : name ∉ seen := fun hm => hs name hm hn d List.mem_cons_self
          have hfresh : ∀ other ∈ name :: seen, other ∈ shape.names → ∀ d', (.text other, d') ∉ ms := by
            intro other hm hother d' hd'
            rcases List.mem_cons.1 hm with rfl | hm
            · exact (List.pairwise_cons.1 h.once).1 _ hd' other hn rfl rfl
            · exact hs other hm hother d' (List.mem_cons_of_mem _ hd')
          obtain ⟨t, ht⟩ : ∃ t, shape.Takes (name :: seen) (put s) ms t := ih h.of_cons hlater hfresh
          exact ⟨t, .field hf hnot hput ht⟩
      | none =>
          obtain ⟨hl, hd⟩ := h.others name d List.mem_cons_self (Shape.field?_eq_none_iff.1 hf)
          obtain ⟨t, ht⟩ : ∃ t, shape.Takes seen s ms t := ih h.of_cons hlater
            (fun other hm hother d' hd' => hs other hm hother d' (List.mem_cons_of_mem _ hd'))
          exact ⟨t, .skip hf hl hd ht⟩

end Shapes

end Datum

end HostProbe
