import HostProbe.Proofs.Ping.Batch
import HostProbe.Proofs.Ping.Protocol

namespace HostProbe.Ping

theorem Failure.permission_of_isFatal {doing : String} {f : Fault}
    (h : (ofFault doing f).isFatal = true) : ∃ text, ofFault doing f = .permission text :=
  ofFault_permission_iff.2 (isDenied_of_isFatal h)

theorem Watch.Decides.cancelled_or_permission {w : Watch} {x : Round} {e : Failure}
    (h : w.Decides x (.error e)) (hf : e.isFatal = true) :
    x.cancelled = true ∧ e = .cancelled ∨ ∃ text, e = .permission text := by
  cases h with
  | cancelled hc => exact .inl ⟨hc, rfl⟩
  | waitFailed => exact .inr (Failure.permission_of_isFatal hf)
  | receiveFailed => exact .inr (Failure.permission_of_isFatal hf)
  | expired | timeExceeded | unreachable => cases hf

namespace Request

variable {r : Request} {k : Conditions}

theorem Goes.cancelled_or_permission {calls : List Call} {e : Failure}
    (h : r.Goes k calls (.error e)) (hf : e.isFatal = true) :
    (∃ x ∈ k.rounds r.version (r.packet k), x.cancelled = true) ∧ e = .cancelled ∨
      ∃ text, e = .permission text := by
  generalize hresult : Except.error e = result at h
  cases h with
  | unopened h =>
      cases hresult
      cases h with
      | raw => exact .inr (Failure.permission_of_isFatal hf)
      | datagram => exact .inr ⟨_, rfl⟩
  | unready =>
      cases hresult
      exact .inr (Failure.permission_of_isFatal hf)
  | unsent =>
      cases hresult
      exact .inr (Failure.permission_of_isFatal hf)
  | @sent mode =>
      rcases SystemRound.idle_or_decides (r.watch k (r.socket k mode))
        (k.rounds r.version (r.packet k)) with hall | ⟨before, last, after, result, hr, hb, hd⟩
      · rw [r.result_waited_of_idle k hall] at hresult
        cases hresult
        cases hf
      · rw [r.result_waited k hr hb hd] at hresult
        subst hresult
        have hlast : last ∈ k.rounds r.version (r.packet k) := by simp [hr]
        exact (hd.cancelled_or_permission hf).imp_left (.imp_left fun hc => ⟨last, hlast, hc⟩)

/-- A probe that is not cancelled ends a call only for want of access. -/
theorem Goes.exists_permission {calls : List Call} {e : Failure} (h : r.Goes k calls (.error e))
    (hlive : ∀ x ∈ k.rounds r.version (r.packet k), x.cancelled = false)
    (hf : e.isFatal = true) : ∃ text, e = .permission text := by
  rcases h.cancelled_or_permission hf with ⟨⟨x, hx, hc⟩, _⟩ | hp
  · exact absurd ((hlive x hx).symm.trans hc) Bool.false_ne_true
  · exact hp

-- A round trip that is no response time is the one failure that the probe itself has not, and it is not
-- fatal.
theorem eq_error_of_ping {e : Failure} (h : r.ping k = .error e) (hf : e.isFatal = true) :
    (r.probe k).result = .error e := by
  rw [ping] at h
  cases hp : (r.probe k).result with
  | error f =>
      rw [hp] at h
      cases h
      rfl
  | ok millis =>
      rw [hp, conclude] at h
      split at h
      · cases h
      · cases h
        cases hf

/-- A ping never finds fault with its request. -/
theorem ping_ne_input (r : Request) (k : Conditions) (why : Refusal) :
    r.ping k ≠ .error (.input why) := by
  intro h
  have hgoes := r.goes k
  rw [eq_error_of_ping h rfl] at hgoes
  rcases hgoes.cancelled_or_permission rfl with ⟨_, he⟩ | ⟨_, he⟩ <;> cases he

theorem ping_eq_error {e : Failure} (h : (r.probe k).result = .error e) : r.ping k = .error e := by
  rw [ping, h]
  rfl

theorem denied_of_ping (hready : ∃ mode, k.Ready mode)
    (hlive : ∀ x ∈ k.rounds r.version (r.packet k), x.cancelled = false) {e : Failure}
    (h : r.ping k = .error e) (hf : e.isFatal = true) :
    (∃ text, e = .permission text) ∧ r.Denied k := by
  have hp := eq_error_of_ping h hf
  have hgoes := r.goes k
  rw [hp] at hgoes
  obtain ⟨text, rfl⟩ := hgoes.exists_permission hlive hf
  obtain ⟨mode, hm⟩ := hready
  exact ⟨⟨text, rfl⟩, (refused_iff_of_ready hm).1 (hgoes.permission_iff.1 ⟨text, rfl⟩)⟩

theorem Denied.exists_ping (h : r.Denied k) : ∃ text, r.ping k = .error (.permission text) := by
  obtain ⟨text, hp⟩ := (r.goes k).permission_iff.2 (.denied h)
  exact ⟨text, ping_eq_error hp⟩

end Request

namespace BatchRequest

variable {b : BatchRequest} {k : Nat → Conditions}

/-- The sockets of all places open and get ready, and no ping is cancelled. -/
structure Equipped (b : BatchRequest) (k : Nat → Conditions) : Prop where
  ready : ∀ place (r : Request), b.each[place]? = some r → ∃ mode, (k place).Ready mode
  live : ∀ place (r : Request), b.each[place]? = some r →
    ∀ x ∈ (k place).rounds r.version (r.packet (k place)), x.cancelled = false

theorem Equipped.denied (h : b.Equipped k) {place : Nat} {r : Request} {e : Failure}
    (hr : b.each[place]? = some r) (he : r.ping (k place) = .error e) (hf : e.isFatal = true) :
    (∃ text, e = .permission text) ∧ r.Denied (k place) :=
  Request.denied_of_ping (h.ready place r hr) (h.live place r hr) he hf

section Verdict

variable {g : Fanout.Group Failure Result} {result : Except Failure (List Result)}

theorem Equipped.ok_iff (h : b.Equipped k) (hg : b.Scheduled (b.meets k) g)
    (hv : g.verdict? = some result) : (∃ results, result = .ok results) ↔
      ∀ place (r : Request), b.each[place]? = some r → ¬ r.Denied (k place) := by
  rw [(ends_of_verdict hg hv).ok_iff]
  constructor
  · intro hn place r hr hd
    obtain ⟨text, hp⟩ := hd.exists_ping
    have hf := hn place r _ hr ((meets_eq hr).trans hp)
    cases hf
  · intro hn place r e hr he
    rw [meets_eq hr] at he
    by_contra hf
    exact hn place r hr (h.denied hr he (Bool.of_not_eq_false hf)).2

theorem Equipped.exists_denied (h : b.Equipped k) (hg : b.Scheduled (b.meets k) g) {e : Failure}
    (hv : g.verdict? = some (.error e)) : (∃ text, e = .permission text) ∧
      ∃ place, ∃ r : Request, b.each[place]? = some r ∧ r.ping (k place) = .error e ∧
        r.Denied (k place) := by
  obtain ⟨hf, place, hplace, he⟩ := (ends_of_verdict hg hv).failure e rfl
  have hlt : place < b.each.length := by
    rw [length_each]
    exact hplace
  have hr : b.each[place]? = some b.each[place] := List.getElem?_eq_getElem hlt
  rw [meets_eq hr] at he
  obtain ⟨htext, hd⟩ := h.denied hr he hf
  exact ⟨htext, place, _, hr, he, hd⟩

end Verdict

/-- Once the sockets of all places are ready and none of the pings is cancelled, the call has a
result for each place, whatever faults come up, unless the system denies a place the sending, or the
wait or the receive that ends its ping. It then fails for want of access. -/
theorem ends_of_equipped (b : BatchRequest) (k : Nat → Conditions) (h : b.Equipped k) :
    (∃ g, b.Scheduled (b.meets k) g ∧ g.verdict? = some (b.settle (b.pings k))) ∧
    ∀ g result, b.Scheduled (b.meets k) g → g.verdict? = some result →
      ((∃ results, result = .ok results) ↔
        ∀ place (r : Request), b.each[place]? = some r → ¬ r.Denied (k place)) ∧
      (∀ results, result = .ok results → results.length = b.destinations.length ∧
        ∀ place (r : Request), b.each[place]? = some r →
          results[place]? = some (r.entry (r.ping (k place)))) ∧
      ∀ e, result = .error e → (∃ text, e = .permission text) ∧
        ∃ place, ∃ r : Request, b.each[place]? = some r ∧ r.ping (k place) = .error e ∧
          r.Denied (k place) := by
  refine ⟨exists_scheduled_pings b k, ?_⟩
  intro g result hg hv
  refine ⟨h.ok_iff hg hv, ?_, ?_⟩
  · rintro results rfl
    have hends := ends_of_verdict hg hv
    refine ⟨hends.length_eq _ rfl, ?_⟩
    intro place r hr
    rw [hends.entry_eq _ rfl place r hr, meets_eq hr]
  · rintro e rfl
    exact h.exists_denied hg hv

def broadcast : BatchRequest where
  destinations := [⟨"255.255.255.255", .v4 ⟨255, 255, 255, 255⟩⟩, ⟨"127.0.0.1", .v4 ⟨127, 0, 0, 1⟩⟩]
  timeout := twice.timeout
  packetSize := twice.packetSize
  hopLimit := none

def blocked (f : Fault) (place : Nat) : Conditions where
  opening := ⟨.linux, none, none, none⟩
  hops := none
  send := if place = 0 then some f else none
  localAddress := .ok none
  identifier := 1
  lookup := ⟨none, none, none, .ok (.v6 V6.loopback)⟩
  clock := .zero
  rounds := fun _ _ => []

theorem equipped_blocked (f : Fault) : broadcast.Equipped (blocked f) where
  ready := fun _ _ _ => ⟨.raw, .raw rfl, rfl⟩
  live := fun _ _ _ => List.forall_mem_nil _

theorem denied_blocked_iff {r : Request} {f : Fault} {place : Nat} :
    r.Denied (blocked f place) ↔ place = 0 ∧ f.isDenied = true := by
  constructor
  · rintro (⟨_, hs, hf⟩ | ⟨_, _, hr, _, _⟩)
    · by_cases hplace : place = 0
      · subst hplace
        cases hs
        exact ⟨rfl, hf⟩
      · rw [blocked, if_neg hplace] at hs
        cases hs
    · exact absurd hr.symm (List.append_ne_nil_of_right_ne_nil _ (List.cons_ne_nil _ _))
  · rintro ⟨rfl, hf⟩
    exact @Request.Denied.send r _ .raw f ⟨.raw rfl, rfl⟩ rfl hf

theorem ends_of_equipped_blocked :
    (∃ text, broadcast.settle (broadcast.pings (blocked (.number 13))) =
      .error (.permission text)) ∧
    ∃ results, broadcast.settle (broadcast.pings (blocked (.number 113))) = .ok results ∧
      results.length = 2 ∧ results[0]? = some (Result.ofFailure
        (.ofFault "Failed to send echo request" (.number 113)) none (some 56)) := by
  obtain ⟨⟨_, hg, hv⟩, hends⟩ := ends_of_equipped broadcast _ (equipped_blocked (.number 13))
  obtain ⟨⟨_, hg', hv'⟩, hends'⟩ := ends_of_equipped broadcast _ (equipped_blocked (.number 113))
  obtain ⟨hok, _, herror⟩ := hends _ _ hg hv
  obtain ⟨hok', hentries, _⟩ := hends' _ _ hg' hv'
  constructor
  · cases hresult : broadcast.settle (broadcast.pings (blocked (.number 13))) with
    | ok results => exact absurd (denied_blocked_iff.2 ⟨rfl, rfl⟩) (hok.1 ⟨results, hresult⟩ 0 _ rfl)
    | error e =>
        obtain ⟨⟨text, rfl⟩, _⟩ := herror e hresult
        exact ⟨text, rfl⟩
  · obtain ⟨results, hresult⟩ := hok'.2 fun _ _ _ hd => Bool.false_ne_true (denied_blocked_iff.1 hd).2
    obtain ⟨hlength, hentry⟩ := hentries results hresult
    exact ⟨results, hresult, hlength, hentry 0 _ rfl⟩

/-- Access denied to one host ends the call for both. -/
theorem not_forall_equipped_ok : ¬ ∀ (b : BatchRequest) (k : Nat → Conditions), b.Equipped k →
    ∃ results, b.settle (b.pings k) = .ok results := by
  intro hall
  obtain ⟨g, hg, hv⟩ := exists_scheduled_pings broadcast (blocked (.number 13))
  have hn := ((equipped_blocked (.number 13)).ok_iff hg hv).1
    (hall broadcast _ (equipped_blocked (.number 13)))
  exact hn 0 _ rfl (denied_blocked_iff.2 ⟨rfl, rfl⟩)

end BatchRequest

end HostProbe.Ping
