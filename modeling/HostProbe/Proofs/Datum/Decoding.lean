import HostProbe.Proofs.Datum.Json
import HostProbe.Proofs.Datum.Member

namespace HostProbe.Datum

def IsJson (text : String) (d : Datum) : Prop := Datum.ofJson text = (d, true) ∧ d.sound = true

/-- A value is decoded from the texts that encode parts which its constructor takes, and is what the
constructor makes of them. Where it refuses the parts of a well-formed text, that is the answer. -/
structure Decodes {α ρ : Type} (read : Datum → Reading α) (Encodes : Datum → ρ → Prop)
    (make : ρ → Except Refusal α) (Fits : ρ → α → Prop) : Prop where
  ok_iff : ∀ text x, readJson read text = .ok x ↔
    ∃ d raw, IsJson text d ∧ Encodes d raw ∧ make raw = .ok x
  refused : ∀ text d raw why, IsJson text d → Encodes d raw → make raw = .error why →
    readJson read text = .error (.refused why)
  fits : ∀ raw x, make raw = .ok x ↔ Fits raw x

theorem required_eq_ok_iff {α : Type} {o : Option α} {a : α} :
    required o = .ok a ↔ o = some a := by
  cases o with
  | none => exact ⟨nofun, nofun⟩
  | some b => exact ⟨fun h => by cases h; rfl, fun h => by cases h; rfl⟩

section Steps

variable {α ρ : Type} {read : Datum → Reading α} {parts : Datum → Reading ρ}
  {Encodes : Datum → ρ → Prop} {make : ρ → Except Refusal α} {Fits : ρ → α → Prop}

/-- A value whose parts are read first and then put to the constructor. -/
theorem Decodes.of_parts (hread : ∀ d, read d = parts d >>= fun raw => Reading.ofRefusal (make raw))
    (hparts : ∀ d raw, parts d = .ok raw ↔ Encodes d raw)
    (hsound : ∀ d raw, Encodes d raw → d.sound = true) (hfits : ∀ raw x, make raw = .ok x ↔ Fits raw x) :
    Decodes read Encodes make Fits where
  ok_iff text x := by
    rw [readJson_eq_ok_iff]
    constructor
    · rintro ⟨d, hd, hr⟩
      rw [hread] at hr
      obtain ⟨raw, hraw, hx⟩ := Reading.bind_eq_ok_iff.1 hr
      have he := (hparts d raw).1 hraw
      exact ⟨d, raw, ⟨hd, hsound d raw he⟩, he, Reading.ofRefusal_eq_ok_iff.1 hx⟩
    · rintro ⟨d, raw, ⟨hd, _⟩, he, hx⟩
      refine ⟨d, hd, ?_⟩
      rw [hread]
      exact Reading.bind_eq_ok_iff.2 ⟨raw, (hparts d raw).2 he, Reading.ofRefusal_eq_ok_iff.2 hx⟩
  refused text d raw why hd he hw := by
    rw [readJson_eq hd.1, hread, (hparts d raw).2 he]
    show Reading.ofRefusal (make raw) = _
    rw [hw]
    rfl
  fits := hfits

theorem readJson_json {x : α} {d : Datum} (hd : d.plain = true) (hx : read d = .ok x) :
    readJson read d.json = .ok x := readJson_eq_ok_iff.2 ⟨d, ofJson_json hd, hx⟩

end Steps

theorem Whole.sound {bits n : Nat} {d : Datum} (h : d.Whole bits n) : d.sound = true := by
  rw [h.1]
  rfl

theorem Number.sound {d : Datum} {x : Binary64} (h : d.Number x) : d.sound = true := by
  cases h <;> rfl

theorem Given.sound {α : Type} {Says : Datum → α → Prop} {d : Datum} {o : Option α}
    (hs : ∀ d a, Says d a → d.sound = true) (h : Given Says d o) : d.sound = true := by
  obtain ⟨a, _, h⟩ := h
  exact hs d a h

theorem Optional.sound {α : Type} {Says : Datum → α → Prop} {d : Datum} {o : Option α}
    (hs : ∀ d a, Says d a → d.sound = true) (h : Optional Says d o) : d.sound = true := by
  cases h with
  | missing => rfl
  | given h => exact hs _ _ h

theorem plain_int {n : Nat} (h : n < 2 ^ 64) : (Datum.int n).plain = true := by
  rw [plain, decide_eq_true_eq]
  omega

theorem plain_natCast {n : Nat} (h : n < 65536) : (Datum.int n).plain = true :=
  plain_int (Nat.lt_trans h (by decide))

section Numbers

variable {α : Type} {read : Datum → Reading α} {make : Nat → Except Refusal α}
  {Fits : Nat → α → Prop} (hread : ∀ d, read d = readNat 32 d >>= fun n => Reading.ofRefusal (make n))

include hread

theorem Decodes.of_nat (hfits : ∀ n x, make n = .ok x ↔ Fits n x) :
    Decodes read (Whole 32) make Fits :=
  .of_parts hread (fun _ _ => readNat_eq_ok_iff) (fun _ _ => Whole.sound) hfits

theorem read_natCast {n : Nat} {x : α} (hn : n < 65536) (hx : make n = .ok x) :
    read (.int n) = .ok x := by
  have hw : (Datum.int n).Whole 32 n := ⟨rfl, Nat.lt_trans hn (by decide)⟩
  rw [hread, Reading.bind_eq_ok_iff]
  exact ⟨n, readNat_eq_ok_iff.2 hw, Reading.ofRefusal_eq_ok_iff.2 hx⟩

theorem readJson_natCast {n : Nat} {x : α} (hn : n < 65536) (hx : make n = .ok x) :
    readJson read (Datum.int n).json = .ok x :=
  readJson_json (plain_natCast hn) (read_natCast hread hn hx)

end Numbers

/-- A constructor that takes what it can prove. -/
theorem dite_eq_ok_iff {α ε : Type} {p : Prop} [Decidable p] {make : p → α} {e : ε} {x : α} :
    (if h : p then Except.ok (make h) else .error e) = .ok x ↔ ∃ h, make h = x := by
  by_cases h : p
  · rw [dif_pos h, Except.ok.injEq]
    exact ⟨fun hx => ⟨h, hx⟩, fun ⟨_, hx⟩ => hx⟩
  · rw [dif_neg h]
    exact ⟨nofun, fun ⟨hp, _⟩ => absurd hp h⟩

end HostProbe.Datum
