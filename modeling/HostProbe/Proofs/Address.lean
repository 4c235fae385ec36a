import HostProbe.Proofs.Address.Text
import HostProbe.Proofs.Text.Blank

namespace HostProbe

namespace Address

variable {s : String} {x : Address}

theorem parse_eq_ok_iff_ofText? : parse s = .ok x ↔ x.text = String.ofList (Text.trim s.toList) ∧
    Numeric.ofText? (Text.trim s.toList) = some x.numeric := by
  obtain ⟨text, numeric⟩ := x
  rw [parse]
  split
  · next n hn => simp [hn, eq_comm]
  · next hn => simp [hn]

/-- The stored text is what was given without the blanks around it, and spells the address. -/
theorem parse_eq_ok_iff_spelt : parse s = .ok x ↔
    Text.Trims s.toList x.text.toList ∧ x.numeric.Spelt x.text.toList := by
  rw [parse_eq_ok_iff_ofText?, ← Text.trim_eq_iff]
  constructor
  · rintro ⟨ht, hn⟩
    rw [ht, String.toList_ofList]
    exact ⟨rfl, Numeric.ofText?_eq_some_iff.1 hn⟩
  · rintro ⟨ht, hn⟩
    rw [ht, String.ofList_toList]
    exact ⟨rfl, Numeric.ofText?_eq_some_iff.2 hn⟩

theorem parse_text (h : parse s = .ok x) : parse x.text = .ok x := by
  obtain ⟨ht, hn⟩ := parse_eq_ok_iff_spelt.1 h
  exact parse_eq_ok_iff_spelt.2 ⟨ht.self, hn⟩

theorem eq_of_parse_eq_error {why : Refusal} (h : parse s = .error why) : why = .address s := by
  rw [parse] at h
  split at h
  · cases h
  · cases h
    rfl

theorem parse_eq_error_iff : parse s = .error (.address s) ↔
    ∀ t (n : Numeric), Text.Trims s.toList t → ¬ n.Spelt t := by
  constructor
  · intro h t n ht hn
    have hx : parse s = .ok ⟨String.ofList t, n⟩ := by
      rw [parse_eq_ok_iff_spelt, String.toList_ofList]
      exact ⟨ht, hn⟩
    rw [hx] at h
    cases h
  · intro h
    cases hp : parse s with
    | ok x =>
        obtain ⟨ht, hn⟩ := parse_eq_ok_iff_spelt.1 hp
        exact absurd hn (h _ _ ht)
    | error why => rw [eq_of_parse_eq_error hp]

theorem parseAs_eq_ok_iff {version : Version} :
    parseAs version s = .ok x ↔ parse s = .ok x ∧ x.version = version := by
  rw [parseAs]
  split
  · next why h => simp [h]
  · next y h =>
      split
      · next hv =>
          rw [h]
          constructor
          · rintro ⟨⟩
            exact ⟨rfl, hv⟩
          · exact fun hx => hx.1
      · next hv =>
          rw [h]
          constructor
          · exact nofun
          · rintro ⟨⟨⟩, hx⟩
            exact absurd hx hv

theorem parse_of_parseAs {version : Version} (h : parseAs version s = .ok x) : parse s = .ok x :=
  (parseAs_eq_ok_iff.1 h).1

theorem parse_ofNumeric (n : Numeric) : parse (ofNumeric n).text = .ok (ofNumeric n) := by
  have hn := n.spelt_written
  rw [parse_eq_ok_iff_spelt, ofNumeric, Numeric.text, String.toList_ofList]
  exact ⟨Text.trims_of_forall hn.unblank, hn⟩

end Address

end HostProbe
