import HostProbe.Proofs.Decoding

namespace HostProbe.Address

variable {s : String} {x : Address} {version : Version}

structure Kept (x : Address) : Prop where
  spelt : x.numeric.Spelt x.text.toList
  parsed : parse x.text = .ok x
  decoded : readJson read x.datum.json = .ok x

theorem Built.spelt (h : x.Built) : x.numeric.Spelt x.text.toList :=
  (parse_eq_ok_iff_spelt.1 h.parse_text).2

theorem built_iff_spelt : x.Built ↔ x.numeric.Spelt x.text.toList := by
  constructor
  · exact Built.spelt
  · intro h
    have hparse : parse x.text = .ok x := parse_eq_ok_iff_spelt.2 ⟨Text.trims_of_forall h.unblank, h⟩
    exact .parsed hparse

theorem Built.kept (h : x.Built) : x.Kept := ⟨h.spelt, h.parse_text, h.readJson_datum⟩

theorem existsUnique_version (h : parse s = .ok x) : ∃! version, ∃ y, parseAs version s = .ok y := by
  refine ⟨x.version, ⟨x, parseAs_eq_ok_iff.2 ⟨h, rfl⟩⟩, ?_⟩
  rintro version ⟨y, hy⟩
  obtain ⟨hparse, hv⟩ := parseAs_eq_ok_iff.1 hy
  rw [h] at hparse
  cases hparse
  exact hv.symm

/-- What is taken for an address is the grammar's addresses, of either version or of the one that is
asked for, and each address that can be built, from a number too, is kept in its texts. -/
theorem text_faithful :
    (∀ s x, parse s = .ok x ↔ Text.Trims s.toList x.text.toList ∧ x.numeric.Spelt x.text.toList) ∧
    (∀ s, parse s = .error (.address s) ↔
      ∀ t (n : Numeric), Text.Trims s.toList t → ¬ n.Spelt t) ∧
    (∀ s x, parse s = .ok x → ∃! version, ∃ y, parseAs version s = .ok y) ∧
    (∀ s x version, parseAs version s = .ok x ↔ parse s = .ok x ∧ x.version = version) ∧
    (∀ x : Address, x.Built ↔ x.numeric.Spelt x.text.toList) ∧
    (∀ x : Address, x.Built → x.Kept) ∧
    ∀ n, (ofNumeric n).Kept ∧ (ofNumeric n).numeric = n :=
  ⟨fun _ _ => parse_eq_ok_iff_spelt, fun _ => parse_eq_error_iff, fun _ _ => existsUnique_version,
    fun _ _ _ => parseAs_eq_ok_iff, fun _ => built_iff_spelt, fun _ => Built.kept,
    fun n => ⟨(Built.ofNumeric n).kept, rfl⟩⟩

/-- A mapped address with blanks around it keeps its own letters, its number is written in others,
and an octet with a zero in front is refused with its blanks. -/
theorem text_faithful_mapped :
    (∃ x : Address, parse "\u2003::FFFF:192.0.2.1\n" = .ok x ∧ x.text = "::FFFF:192.0.2.1" ∧
      parseAs .v6 "\u2003::FFFF:192.0.2.1\n" = .ok x ∧ x.Kept ∧
      (ofNumeric x.numeric).text = "::ffff:192.0.2.1" ∧ (ofNumeric x.numeric).Kept) ∧
    parse " 192.0.2.01" = .error (.address " 192.0.2.01") := by
  obtain ⟨-, -, -, hversion, -, hkept, hnumeric⟩ := text_faithful
  have hx : parse "\u2003::FFFF:192.0.2.1\n" =
      .ok ⟨"::FFFF:192.0.2.1", .v6 ⟨0, 0, 0, 0, 0, 0xffff, 0xc000, 0x201⟩⟩ := by
    decide +kernel
  have hw : Numeric.text (.v6 ⟨0, 0, 0, 0, 0, 0xffff, 0xc000, 0x201⟩) = "::ffff:192.0.2.1" := by
    decide +kernel
  refine ⟨⟨_, hx, rfl, (hversion _ _ _).2 ⟨hx, rfl⟩, hkept _ (.parsed hx), hw, (hnumeric _).1⟩, ?_⟩
  decide +kernel

end HostProbe.Address
