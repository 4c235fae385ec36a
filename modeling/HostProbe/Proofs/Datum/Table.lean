import HostProbe.Proofs.Datum.Member
import HostProbe.Proofs.Datum.Toml

namespace HostProbe.Datum

variable {σ β : Type} {shape : Shape σ} {name : String} {names : List String} {d : Datum}
  {ms : List (Datum × Datum)} {t : σ}

theorem Regular.sound (h : d.Regular) : d.sound = true := by
  induction h with
  | list _ ih =>
      rw [Datum.sound]
      exact soundItems_eq_true.2 ih
  | record named _ _ ih =>
      rw [Datum.sound, soundMembers_eq_true]
      intro m hm
      obtain ⟨name, hk⟩ := named m hm
      exact ⟨by rw [hk]; rfl, ih m hm⟩
  | _ => rfl

/-- The members by which a datum tells a table: its own, or the items of a list under the names of
the fields, of which some may be left over on either side. -/
inductive TableOf (names : List String) : Datum → List (Datum × Datum) → Prop where
  | record (ms : List (Datum × Datum)) : TableOf names (.record ms) ms
  | list (ds : List Datum) : TableOf names (.list ds) ((names.map .text).zip ds)

theorem TableOf.regular (h : TableOf names d ms) (hd : d.Regular) : ∀ m ∈ ms, m.2.Regular := by
  cases h with
  | record =>
      cases hd with
      | record _ _ hms => exact hms
  | list =>
      cases hd with
      | list hds => exact fun m hm => hds m.2 (List.of_mem_zip hm).2

theorem once_of_pairwise (h : ms.Pairwise fun m m' => m.1 ≠ m'.1) : Once names ms :=
  h.imp fun hne _ _ he he' => hne (he.trans he'.symm)

theorem pairwise_zip (hn : names.Nodup) (ds : List Datum) :
    ((names.map Datum.text).zip ds).Pairwise fun m m' => m.1 ≠ m'.1 := by
  induction names generalizing ds with
  | nil => exact .nil
  | cons name names ih =>
      obtain ⟨hnew, hn⟩ := List.nodup_cons.1 hn
      cases ds with
      | nil => exact .nil
      | cons d ds =>
          refine List.pairwise_cons.2 ⟨fun m hm he => hnew ?_, ih hn ds⟩
          obtain ⟨other, hother, ho⟩ := List.mem_map.1 (List.of_mem_zip hm).1
          rwa [Datum.text.inj (he.trans ho.symm)]

structure Shape.Loose (shape : Shape σ) : Prop where
  distinct : shape.names.Nodup
  lenient : shape.strict = false
  partly : shape.partialList = true
  surplus : shape.surplusList = true

theorem Shape.Loose.tableOf_iff (h : shape.Loose) (hd : d.Regular) :
    TableOf shape.names d ms ↔ shape.Presents d ms ∧ shape.Tidy ms := by
  constructor
  · intro ht
    have hms := ht.regular hd
    cases ht with
    | record ms =>
        cases hd with
        | record named distinct _ =>
            refine ⟨.record ms, named, once_of_pairwise (List.pairwise_map.1 distinct), ?_⟩
            exact fun name d hm _ => ⟨h.lenient, (hms _ hm).sound⟩
    | list ds =>
        have honce : Once shape.names ((shape.names.map .text).zip ds) :=
          once_of_pairwise (pairwise_zip h.distinct ds)
        refine ⟨.list ds (.inl h.partly) (.inl h.surplus), ?_, honce, ?_⟩
        · intro m hm
          obtain ⟨name, _, hk⟩ := List.mem_map.1 (List.of_mem_zip hm).1
          exact ⟨name, hk.symm⟩
        · exact fun name d hm _ => ⟨h.lenient, (hms _ hm).sound⟩
  · rintro ⟨hp, _⟩
    cases hp with
    | record => exact .record ms
    | list ds => exact .list ds

theorem Shape.Loose.read_eq_ok_iff (h : shape.Loose) (hd : d.Regular) (hn : shape.names = names)
    {Says : List (Datum × Datum) → σ → Prop}
    (htold : ∀ ms t, shape.Takes [] shape.start ms t → Says ms t)
    (hread : ∀ ms t, shape.Tidy ms → Says ms t → ∀ name ∈ names, shape.Readable ms name)
    (hunique : ∀ ms t t', shape.Tidy ms → Says ms t → Says ms t' → t = t') :
    shape.read d = .ok t ↔ ∃ ms, TableOf names d ms ∧ Says ms t := by
  subst hn
  rw [Shape.read_eq_ok_iff_says h.distinct htold hread hunique]
  simp only [h.tableOf_iff hd]

theorem Settled.congr {Says Says' : Datum → β → Prop} {b c : β}
    (h : ∀ d b, (.text name, d) ∈ ms → (Says d b ↔ Says' d b)) :
    Settled ms name Says c b ↔ Settled ms name Says' c b := by
  constructor
  · rintro (⟨hm, hs⟩ | hs)
    · exact .said hm ((h _ _ hm).1 hs)
    · exact .silent hs
  · rintro (⟨hm, hs⟩ | hs)
    · exact .said hm ((h _ _ hm).2 hs)
    · exact .silent hs

end HostProbe.Datum
