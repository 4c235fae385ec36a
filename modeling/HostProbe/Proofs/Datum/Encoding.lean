import HostProbe.Proofs.Datum.Decoding

namespace HostProbe.Datum

variable {α σ : Type} {read : Datum → Reading α} {datum : α → Datum} {back : α → α}

structure Returns (read : Datum → Reading α) (datum : α → Datum) (back : α → α) : Prop where
  plain : ∀ a, (datum a).plain = true
  reads : ∀ a, read (datum a) = .ok (back a)

abbrev Faithful (read : Datum → Reading α) (datum : α → Datum) : Prop := Returns read datum id

theorem Returns.readJson_json (h : Returns read datum back) (a : α) :
    readJson read (datum a).json = .ok (back a) :=
  Datum.readJson_json (h.plain a) (h.reads a)

theorem Faithful.text : Faithful readText .text := ⟨fun _ => rfl, fun _ => rfl⟩

/-- Nothing else may be written as the missing value. -/
theorem Faithful.option (h : Faithful read datum) (hn : ∀ a, datum a ≠ .null) :
    Faithful (readOption read) (.option datum) where
  plain o := by
    cases o with
    | none => rfl
    | some a => exact h.plain a
  reads o := by
    cases o with
    | none => rfl
    | some a =>
        rw [Datum.option, readOption, h.reads a]
        · rfl
        · exact hn a

theorem plainItems_eq_true {ds : List Datum} : plainItems ds = true ↔ ∀ d ∈ ds, d.plain = true := by
  induction ds with
  | nil => exact ⟨fun _ => nofun, fun _ => rfl⟩
  | cons d ds ih => rw [plainItems, Bool.and_eq_true, ih, List.forall_mem_cons]

theorem Returns.list (h : Returns read datum back) :
    Returns (readList read) (fun as => .list (as.map datum)) (List.map back) where
  plain as := by
    rw [Datum.plain, plainItems_eq_true, List.forall_mem_map]
    exact fun a _ => h.plain a
  reads as := by
    rw [readList]
    induction as with
    | nil => rfl
    | cons a as ih =>
        rw [List.map_cons, readItems, h.reads a]
        dsimp only
        rw [ih]
        rfl

variable {shape : Shape σ} {fields : List (String × Datum)} {name : String} {s t : σ} {d : Datum}

theorem plain_ofFields : (ofFields fields).plain = true ↔ ∀ f ∈ fields, f.2.plain = true := by
  rw [ofFields, Datum.plain]
  induction fields with
  | nil => exact ⟨fun _ _ hf => absurd hf List.not_mem_nil, fun _ => rfl⟩
  | cons f fields ih => rw [List.map_cons, plainMembers, Bool.and_eq_true, ih, List.forall_mem_cons]

/-- The fields of a record in their order are read as they are without their names. -/
theorem Shape.read_ofFields_iff (hn : shape.names.Nodup) (hk : fields.map Prod.fst = shape.names) :
    shape.read (.ofFields fields) = .ok t ↔
      shape.readFields shape.fields shape.start (fields.map Prod.snd) = .ok t := by
  have hl : (fields.map Prod.snd).length = shape.fields.length := by
    rw [List.length_map, ← List.length_map Prod.fst, hk, Shape.names, List.length_map]
  have hm : ((shape.fields.map Field.name).map Datum.text).zip (fields.map Prod.snd) =
      fields.map fun f => (.text f.1, f.2) := by
    rw [← Shape.names, ← hk, List.map_map, List.zip_map']
    rfl
  rw [Shape.readFields_eq_ok_iff (fun f hf => Shape.field?_eq_some hn hf) hn
    (fun _ _ => List.not_mem_nil), hm]
  exact ⟨fun h => ⟨.inr hl.ge, .inr hl.le, Shape.readMembers_eq_ok_iff.1 h⟩,
    fun h => Shape.readMembers_eq_ok_iff.2 h.2.2⟩

theorem Shape.readFields_cons {put : α → σ → σ} {fs : List (Field σ)} {ds : List Datum} {a : α}
    (h : read d = .ok a) : shape.readFields (field name read put :: fs) s (d :: ds) =
      shape.readFields fs (put a s) ds := by
  have hr : (field name read put).read d = .ok (put a) := field_read_eq_ok_iff.2 ⟨a, h, rfl⟩
  rw [Shape.readFields, hr]

end HostProbe.Datum
