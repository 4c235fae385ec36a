import HostProbe.Proofs.Binary64
import HostProbe.Proofs.Datum.Encoding
import HostProbe.Proofs.Time.Text

namespace HostProbe.Time

open Datum

namespace Span

theorem of?_parts (s : Span) : of? s.seconds s.fraction = some s := by
  obtain ⟨nanos, fits⟩ := s
  have hn : nanos / second * second + nanos % second = nanos := Nat.div_add_mod' nanos second
  simp only [of?, seconds, fraction, hn]
  exact dif_pos fits

theorem shape_read_datum (s : Span) : shape.read s.datum = .ok (some s.seconds, some s.fraction) := by
  have hseconds : readNat 64 (.int s.seconds) = .ok s.seconds := readNat_eq_ok_iff.2 ⟨rfl, s.seconds_lt⟩
  have hfraction : readNat 32 (.int s.fraction) = .ok s.fraction :=
    readNat_eq_ok_iff.2 ⟨rfl, Nat.lt_trans s.fraction_lt (by decide)⟩
  refine (Shape.read_ofFields_iff (by decide) rfl).2 ?_
  exact (Shape.readFields_cons hseconds).trans (Shape.readFields_cons hfraction)

theorem faithful : Faithful read datum where
  plain s := by
    have hfraction : s.fraction < 2 ^ 64 := Nat.lt_trans s.fraction_lt (by decide)
    exact plain_ofFields.2 (List.forall_mem_cons.2 ⟨plain_int s.seconds_lt,
      List.forall_mem_singleton.2 (plain_int hfraction)⟩)
  reads s := by
    refine Reading.bind_eq_ok_iff.2 ⟨_, s.shape_read_datum, ?_⟩
    refine Reading.bind_eq_ok_iff.2 ⟨s.seconds, rfl, Reading.bind_eq_ok_iff.2 ⟨s.fraction, rfl, ?_⟩⟩
    exact required_eq_ok_iff.2 s.of?_parts

end Span

theorem Stamp.returns : Returns read datum carried where
  plain _ := rfl
  reads t := by
    have ht : ofText? t.text.toList = some t.carried := by
      rw [text, String.toList_ofList, ofText?_written]
    exact Reading.bind_eq_ok_iff.2 ⟨t.text, rfl, required_eq_ok_iff.2 ht⟩

end HostProbe.Time
