import HostProbe.Proofs.Ping.Success

namespace HostProbe

theorem Fault.kind_of_isDenied {f : Fault} (h : f.isDenied = true) : f.kind = .permissionDenied := by
  cases f with
  | number n =>
      simp only [isDenied, Bool.or_eq_true, beq_iff_eq] at h
      rcases h with rfl | rfl <;> rfl
  | bare kind => simpa [isDenied, Fault.kind] using h
  | custom kind text => simpa [isDenied, Fault.kind] using h

theorem Step.calls_append {κ : Type} (steps more : List (Step κ)) :
    calls (steps ++ more) = calls steps ++ calls more := List.filterMap_append

theorem Step.calls_map {κ μ : Type} (f : κ → μ) (steps : List (Step κ)) :
    calls (steps.map (Step.map f)) = (calls steps).map f := by
  induction steps with
  | nil => rfl
  | cons step steps ih =>
      cases step with
      | call c => exact congrArg (f c :: ·) ih
      | note e => exact ih

namespace Traced

variable {κ ε α β : Type} {t : Traced κ ε α} {f : α → Traced κ ε β}

theorem andThen_of_ok {a : α} (h : t.result = .ok a) : t.andThen f = (f a).after t.steps := by
  rw [andThen, h]

theorem andThen_of_error {e : ε} (h : t.result = .error e) :
    t.andThen f = ⟨t.steps, .error e⟩ := by
  rw [andThen, h]

end Traced

namespace Ping

namespace Call

/-- The stages of a probe in their order. All waits and receives belong to one of them. -/
def stage : Call → Nat
  | .create _ .raw => 0
  | .create _ .datagram => 1
  | .setNonblocking => 2
  | .setHops _ _ => 3
  | .lookup .create => 4
  | .lookup .bind => 5
  | .lookup (.connect _) => 6
  | .lookup .localAddress => 7
  | .lookup .close => 8
  | .send _ _ => 9
  | .localAddress => 10
  | .poll _ | .receive _ => 11
  | .close => 12

def listening : Nat := 11

/-- One call before another: of an earlier stage, or both while the probe listens. -/
def Before (c d : Call) : Prop := c.stage < d.stage ∨ c.stage = listening ∧ d.stage = listening

structure Block (low high : Nat) (calls : List Call) : Prop where
  ordered : calls.Pairwise Before
  low_le : ∀ c ∈ calls, low ≤ c.stage
  lt_high : ∀ c ∈ calls, c.stage < high

namespace Block

variable {low middle high : Nat} {calls more : List Call}

theorem nil (low high : Nat) : Block low high [] :=
  ⟨.nil, List.forall_mem_nil _, List.forall_mem_nil _⟩

theorem single {c : Call} (hl : low ≤ c.stage) (hh : c.stage < high) : Block low high [c] :=
  ⟨List.pairwise_singleton _ _, List.forall_mem_singleton.2 hl, List.forall_mem_singleton.2 hh⟩

theorem append (h : Block low middle calls) (h' : Block middle high more) (hl : low ≤ middle)
    (hh : middle ≤ high) : Block low high (calls ++ more) := by
  refine ⟨List.pairwise_append.2 ⟨h.ordered, h'.ordered, ?_⟩, ?_, ?_⟩
  · intro c hc d hd
    exact .inl (Nat.lt_of_lt_of_le (h.lt_high c hc) (h'.low_le d hd))
  · intro c hc
    rcases List.mem_append.1 hc with hc | hc
    · exact h.low_le c hc
    · exact Nat.le_trans hl (h'.low_le c hc)
  · intro c hc
    rcases List.mem_append.1 hc with hc | hc
    · exact Nat.lt_of_lt_of_le (h.lt_high c hc) hh
    · exact h'.lt_high c hc

theorem cons {c : Call} (h : Block middle high calls) (hl : low ≤ c.stage)
    (hm : c.stage < middle) (hh : middle ≤ high) : Block low high (c :: calls) :=
  (single hl hm).append h (Nat.le_of_lt (Nat.lt_of_le_of_lt hl hm)) hh

theorem filter_eq_nil (h : Block low high calls) {n : Nat} (hn : n < low ∨ high ≤ n) :
    calls.filter (fun c => c.stage == n) = [] := by
  rw [List.filter_eq_nil_iff]
  intro c hc he
  have hl := h.low_le c hc
  have hh := h.lt_high c hc
  rw [beq_iff_eq] at he
  omega

end Block

theorem countP_stage_le {calls : List Call} (h : calls.Pairwise Before) {n : Nat}
    (hn : n ≠ listening) : calls.countP (fun c => c.stage == n) ≤ 1 := by
  induction h with
  | nil => simp
  | @cons c calls hc _ ih =>
      by_cases he : c.stage = n
      · have hz : calls.countP (fun c => c.stage == n) = 0 := by
          rw [List.countP_eq_zero]
          intro d hd hs
          have hs : d.stage = n := by simpa using hs
          rcases hc d hd with hlt | ⟨hl, _⟩
          · omega
          · exact hn (he ▸ hl)
        rw [List.countP_cons, hz]
        split <;> omega
      · simpa [he] using ih

end Call

namespace Opening

variable {k : Opening}

inductive Refuses (k : Opening) : Failure → Prop where
  | raw {f : Fault} (h : k.raw = some f) (hf : f.isDenied = false) :
      Refuses k (.ofFault "Failed to create ICMP socket" f)
  | datagram {f g : Fault} (h : k.raw = some f) (hf : f.isDenied = true)
      (hd : k.datagram = some g) :
      Refuses k (.permission ("raw socket: " ++ f.text ++ "; datagram socket: " ++ g.text))

theorem grants_or_refuses (k : Opening) : (∃ mode, k.Grants mode) ∨ ∃ e, k.Refuses e := by
  cases hr : k.raw with
  | none => exact .inl ⟨_, .raw hr⟩
  | some f =>
      by_cases hf : f.isDenied = true
      · cases hd : k.datagram with
        | none => exact .inl ⟨_, .datagram hr hf hd⟩
        | some g => exact .inr ⟨_, .datagram hr hf hd⟩
      · exact .inr ⟨_, .raw hr (Bool.eq_false_iff.2 hf)⟩

theorem Refuses.not_grants {e : Failure} (h : k.Refuses e) (mode : Icmp.Mode) :
    ¬ k.Grants mode := by
  intro hg
  cases h <;> cases hg <;> simp_all

theorem Grants.unique {mode other : Icmp.Mode} (h : k.Grants mode) (ho : k.Grants other) :
    mode = other := by
  cases h <;> cases ho <;> simp_all

def creations (k : Opening) (version : Version) : List Call :=
  match k.raw with
  | none => [.create version .raw]
  | some f => .create version .raw :: if f.isDenied then [.create version .datagram] else []

theorem mem_creations_iff {version : Version} {c : Call} : c ∈ k.creations version ↔
    c = .create version .raw ∨
      (∃ f, k.raw = some f ∧ f.isDenied = true) ∧ c = .create version .datagram := by
  unfold creations
  cases hr : k.raw with
  | none => simp
  | some f => by_cases hf : f.isDenied = true <;> simp [hf]

end Opening

namespace Socket

variable {k : Opening}

theorem calls_create (k : Opening) (version : Version) :
    Step.calls (create k version).steps = k.creations version := by
  unfold create Opening.creations
  cases k.raw with
  | none => rfl
  | some f =>
      by_cases hf : f.isDenied = true
      · simp only [if_pos hf]
        cases k.datagram <;> rfl
      · simp only [if_neg hf]
        rfl

theorem result_create_of_refuses {e : Failure} (h : k.Refuses e) (version : Version) :
    (create k version).result = .error e := by
  cases h with
  | raw h hf => simp [create, h, hf]
  | datagram h hf hd => simp [create, h, hf, hd]

end Socket

namespace Lookup

variable {k : Lookup} {destination : V6}

/-- The calls by which a source address is looked up, and what is found. -/
inductive Finds (k : Lookup) (destination : V6) : List LookupCall → Except Fault V6 → Prop where
  | uncreated {f : Fault} (hc : k.create = some f) : Finds k destination [.create] (.error f)
  | unbound {f : Fault} (hc : k.create = none) (hb : k.bind = some f) :
      Finds k destination [.create, .bind, .close] (.error f)
  | unconnected {f : Fault} (hc : k.create = none) (hb : k.bind = none) (hf : k.connect = some f) :
      Finds k destination [.create, .bind, .connect (endpoint destination), .close] (.error f)
  | unnamed {f : Fault} (hc : k.create = none) (hb : k.bind = none) (hn : k.connect = none)
      (hf : k.localAddress = .error f) : Finds k destination
        [.create, .bind, .connect (endpoint destination), .localAddress, .close] (.error f)
  | foreign {address : V4} (hc : k.create = none) (hb : k.bind = none) (hn : k.connect = none)
      (ha : k.localAddress = .ok (.v4 address)) : Finds k destination
        [.create, .bind, .connect (endpoint destination), .localAddress, .close]
        (.error (.bare .addrNotAvailable))
  | found {source : V6} (hc : k.create = none) (hb : k.bind = none) (hn : k.connect = none)
      (ha : k.localAddress = .ok (.v6 source)) : Finds k destination
        [.create, .bind, .connect (endpoint destination), .localAddress, .close] (.ok source)

theorem finds (k : Lookup) (destination : V6) :
    k.Finds destination (Step.calls (k.find destination).steps) (k.find destination).result := by
  cases hc : k.create with
  | some f =>
      rw [find, hc]
      exact .uncreated hc
  | none =>
      cases hb : k.bind with
      | some f =>
          rw [find, hc, hb]
          exact .unbound hc hb
      | none =>
          cases hn : k.connect with
          | some f =>
              rw [find, hc, hb, hn]
              exact .unconnected hc hb hn
          | none =>
              rw [find, hc, hb, hn, readAddress]
              rcases ha : k.localAddress with f | address | source
              · exact .unnamed hc hb hn ha
              · exact .foreign hc hb hn ha
              · exact .found hc hb hn ha

theorem Finds.block {calls : List LookupCall} {result : Except Fault V6}
    (h : k.Finds destination calls result) : Call.Block 4 9 (calls.map Call.lookup) := by
  have hordered : (calls.map Call.lookup).Pairwise fun c d => c.stage < d.stage := by
    cases h <;> simp [Call.stage]
  have hstages : ∀ c ∈ calls.map Call.lookup, 4 ≤ c.stage ∧ c.stage < 9 := by
    cases h <;> simp [Call.stage]
  exact ⟨hordered.imp .inl, fun c hc => (hstages c hc).1, fun c hc => (hstages c hc).2⟩

theorem Finds.unique {calls calls' : List LookupCall} {result result' : Except Fault V6}
    (h : k.Finds destination calls result) (h' : k.Finds destination calls' result') :
    calls = calls' ∧ result = result' := by
  cases h <;> cases h' <;> simp_all

end Lookup

structure Conditions.Ready (k : Conditions) (mode : Icmp.Mode) : Prop where
  grants : k.opening.Grants mode
  nonblocking : k.opening.nonblocking = none

namespace Request

variable (r : Request) (k : Conditions)

def limiting : List Call := (r.hops.map (Call.setHops r.version)).toList

def seeking : List Call :=
  match r.destination.numeric with
  | .v4 _ => []
  | .v6 destination => (Step.calls (k.lookup.find destination).steps).map .lookup

def sending : Call := .send (r.packet k) r.destination.numeric

def asking : Icmp.Mode → List Call
  | .raw => []
  | .datagram => [.localAddress]

def waited (mode : Icmp.Mode) : Traced SourceCall Failure Binary64 :=
  (r.watch k (r.socket k mode)).await ((k.rounds r.version (r.packet k)).map SystemRound.round)

def hearing (mode : Icmp.Mode) : List Call :=
  (Step.calls (r.waited k mode).steps).map Socket.callOf

/-- The ways in which a probe goes, each with its calls and what comes of it. -/
inductive Goes : List Call → Except Failure Binary64 → Prop where
  | unopened {e : Failure} (h : k.opening.Refuses e) :
      Goes (k.opening.creations r.version) (.error e)
  | unready {mode : Icmp.Mode} {f : Fault} (hm : k.opening.Grants mode)
      (hn : k.opening.nonblocking = some f) :
      Goes (k.opening.creations r.version ++ [.setNonblocking, .close])
        (.error (.ofFault "Failed to set non-blocking mode" f))
  | unsent {mode : Icmp.Mode} {f : Fault} (h : k.Ready mode) (hs : k.send = some f) :
      Goes (k.opening.creations r.version ++ .setNonblocking :: (r.limiting ++
        (r.seeking k ++ [r.sending k, .close]))) (.error (.ofFault "Failed to send echo request" f))
  | sent {mode : Icmp.Mode} (h : k.Ready mode) (hs : k.send = none) :
      Goes (k.opening.creations r.version ++ .setNonblocking :: (r.limiting ++
        (r.seeking k ++ r.sending k :: (asking mode ++ r.hearing k mode ++ [.close]))))
        (r.waited k mode).result

theorem calls_limitHops : Step.calls (r.limitHops k) = r.limiting := by
  unfold limitHops limiting
  cases r.hops with
  | none => rfl
  | some n => cases k.hops <;> rfl

theorem calls_notes {κ : Type} (entries : List Entry) :
    Step.calls (entries.map (Step.note : Entry → Step κ)) = [] := by
  simp [Step.calls]

theorem calls_findRoute : Step.calls (r.findRoute k) = r.seeking k := by
  unfold findRoute seeking
  cases r.destination.numeric with
  | v4 destination => rfl
  | v6 destination => rw [Step.calls_append, Step.calls_map, calls_notes, List.append_nil]

theorem calls_askPort (mode : Icmp.Mode) : Step.calls (askPort k mode).1 = asking mode := by
  cases mode <;> rfl

theorem calls_listen (mode : Icmp.Mode) : Step.calls (r.listen k (r.socket k mode)).steps =
    asking mode ++ r.hearing k mode := by
  rw [listen, Step.calls_append, Step.calls_map, ← calls_askPort]
  rfl

theorem goes_of_refuses {e : Failure} (he : k.opening.Refuses e) :
    r.Goes k (Step.calls (r.probe k).steps) (r.probe k).result := by
  have hc := Socket.result_create_of_refuses he r.version
  have ho : Socket.ofOpening k.opening r.version =
      ⟨(Socket.create k.opening r.version).steps, .error e⟩ := Traced.andThen_of_error hc
  rw [probe, ho, Traced.andThen_of_error rfl, Socket.calls_create]
  exact .unopened he

theorem goes_of_unready {mode : Icmp.Mode} (hm : k.opening.Grants mode) {f : Fault}
    (hn : k.opening.nonblocking = some f) :
    r.Goes k (Step.calls (r.probe k).steps) (r.probe k).result := by
  have ho : Socket.ofOpening k.opening r.version =
      ⟨(Socket.create k.opening r.version).steps ++ [.call .setNonblocking, .call .close],
        .error (.ofFault "Failed to set non-blocking mode" f)⟩ := by
    rw [Socket.ofOpening, Traced.andThen_of_ok (Socket.result_create hm r.version), Socket.prepare,
      hn]
    rfl
  rw [probe, ho, Traced.andThen_of_error rfl, Step.calls_append, Socket.calls_create]
  exact .unready hm hn

theorem calls_ofOpening {mode : Icmp.Mode} (h : k.Ready mode) :
    Step.calls (Socket.ofOpening k.opening r.version).steps =
      k.opening.creations r.version ++ [.setNonblocking] := by
  rw [Socket.ofOpening, Traced.andThen_of_ok (Socket.result_create h.grants r.version),
    Socket.prepare, h.nonblocking, ← Socket.calls_create]
  exact Step.calls_append _ _

theorem calls_converse_of_unsent {f : Fault} (hs : k.send = some f) (s : Socket) :
    Step.calls (r.converse k s).steps = r.limiting ++ (r.seeking k ++ [r.sending k, .close]) := by
  have ht : r.transmit k =
      ⟨[.call (r.sending k)], .error (.ofFault "Failed to send echo request" f)⟩ := by
    rw [transmit, hs]
    rfl
  rw [converse, ht, Traced.andThen_of_error rfl]
  simp only [Traced.closing, Traced.after, Step.calls_append, calls_limitHops, calls_findRoute,
    List.append_assoc]
  rfl

theorem calls_converse_of_sent (hs : k.send = none) (mode : Icmp.Mode) :
    Step.calls (r.converse k (r.socket k mode)).steps =
      r.limiting ++ (r.seeking k ++
        r.sending k :: (asking mode ++ r.hearing k mode ++ [.close])) := by
  have hr : (r.transmit k).result = .ok () := by rw [transmit, hs]
  have hc : Step.calls (r.transmit k).steps = [r.sending k] := by
    rw [transmit, hs]
    rfl
  rw [converse, Traced.andThen_of_ok hr]
  simp only [Traced.closing, Traced.after, Step.calls_append, calls_limitHops, calls_findRoute, hc,
    calls_listen, List.append_assoc]
  rfl

theorem goes : r.Goes k (Step.calls (r.probe k).steps) (r.probe k).result := by
  rcases k.opening.grants_or_refuses with ⟨mode, hm⟩ | ⟨e, he⟩
  · cases hn : k.opening.nonblocking with
    | some f => exact r.goes_of_unready k hm hn
    | none =>
        have h : k.Ready mode := ⟨hm, hn⟩
        have ho := Socket.result_ofOpening hm hn r.version
        have hp : r.probe k = (r.converse k (r.socket k mode)).after
            (Socket.ofOpening k.opening r.version).steps := Traced.andThen_of_ok ho
        have hc := r.calls_ofOpening k h
        rw [hp, Traced.after, Step.calls_append, hc, List.append_assoc]
        cases hs : k.send with
        | some f =>
            rw [calls_converse_of_unsent r k hs]
            have hr : (r.converse k (r.socket k mode)).result =
                .error (.ofFault "Failed to send echo request" f) := by
              simp [converse, transmit, hs, Traced.closing, Traced.after, Traced.andThen]
            exact hr ▸ .unsent h hs
        | none =>
            rw [calls_converse_of_sent r k hs, result_converse hs]
            exact .sent h hs
  · exact r.goes_of_refuses k he

theorem block_creations : Call.Block 0 2 (k.opening.creations r.version) := by
  have hraw : Call.Block 0 1 [Call.create r.version .raw] :=
    .single (Nat.le_refl 0) Nat.zero_lt_one
  have hdatagram : Call.Block 1 2 [Call.create r.version .datagram] :=
    .single (Nat.le_refl 1) Nat.one_lt_two
  unfold Opening.creations
  cases k.opening.raw with
  | none => exact hraw.append (.nil 1 2) (by decide) (by decide)
  | some f =>
      by_cases hf : f.isDenied = true
      · simp only [if_pos hf]
        exact hraw.append hdatagram (by decide) (by decide)
      · simp only [if_neg hf]
        exact hraw.append (.nil 1 2) (by decide) (by decide)

theorem block_limiting : Call.Block 3 4 r.limiting := by
  unfold limiting
  cases r.hops with
  | none => exact .nil 3 4
  | some n => exact .single (Nat.le_refl 3) (by simp [Call.stage])

theorem block_seeking : Call.Block 4 9 (r.seeking k) := by
  unfold seeking
  cases r.destination.numeric with
  | v4 destination => exact .nil 4 9
  | v6 destination => exact (k.lookup.finds destination).block

theorem block_asking (mode : Icmp.Mode) : Call.Block 10 11 (asking mode) := by
  cases mode with
  | raw => exact .nil 10 11
  | datagram => exact .single (Nat.le_refl 10) (by decide)

theorem stage_of_mem_hearing {mode : Icmp.Mode} {c : Call} (h : c ∈ r.hearing k mode) :
    c.stage = Call.listening := by
  obtain ⟨d, _, rfl⟩ := List.mem_map.1 h
  cases d <;> rfl

theorem block_hearing (mode : Icmp.Mode) : Call.Block 11 12 (r.hearing k mode) where
  ordered := List.pairwise_of_forall_mem_list fun _ hc _ hd =>
    .inr ⟨r.stage_of_mem_hearing k hc, r.stage_of_mem_hearing k hd⟩
  low_le := fun c hc => Nat.le_of_eq (r.stage_of_mem_hearing k hc).symm
  lt_high := fun c hc => (r.stage_of_mem_hearing k hc).symm ▸ by decide

section Goes

variable {r : Request} {k : Conditions} {calls : List Call} {result : Except Failure Binary64}

theorem Goes.ordered (h : r.Goes k calls result) : calls.Pairwise Call.Before := by
  -- The calls of each part lie in stages of their own, and the parts come in the order of the stages.
  have hcreations := block_creations r k
  have hclose (low : Nat) (hl : low ≤ 12) : Call.Block low 13 [.close] := .single hl (by decide)
  have hready {more : List Call} (hm : Call.Block 3 13 more) :
      (k.opening.creations r.version ++ .setNonblocking :: more).Pairwise Call.Before :=
    (hcreations.append (hm.cons (c := .setNonblocking) (Nat.le_refl 2) (by decide) (by decide))
      (by decide) (by decide)).ordered
  have hsending {more : List Call} (hm : Call.Block 10 13 more) :
      Call.Block 3 13 (r.limiting ++ (r.seeking k ++ r.sending k :: more)) :=
    (block_limiting r).append ((block_seeking r k).append (hm.cons (c := r.sending k) (Nat.le_refl 9)
      (Nat.lt_succ_self 9) (by decide)) (by decide) (by decide)) (by decide) (by decide)
  cases h with
  | unopened => exact hcreations.ordered
  | unready => exact hready (hclose 3 (by decide))
  | unsent => exact hready (hsending (hclose 10 (by decide)))
  | @sent mode =>
      have hlisten := (block_asking mode).append (block_hearing r k mode) (by decide) (by decide)
      exact hready (hsending (hlisten.append (hclose 12 (by decide)) (by decide) (by decide)))

theorem Goes.mem_iff (h : r.Goes k calls result) {c : Call} : c ∈ calls ↔
    c ∈ k.opening.creations r.version ∨
    (c = .setNonblocking ∨ c = .close) ∧ (∃ mode, k.opening.Grants mode) ∨
    (c ∈ r.limiting ∨ c ∈ r.seeking k ∨ c = r.sending k) ∧ (∃ mode, k.Ready mode) ∨
    ∃ mode, k.Ready mode ∧ k.send = none ∧ (c ∈ asking mode ∨ c ∈ r.hearing k mode) := by
  cases h with
  | unopened h =>
      have hn (mode : Icmp.Mode) : ¬ k.Ready mode := fun hr => h.not_grants mode hr.grants
      simp [h.not_grants, hn]
  | @unready mode f hm hn =>
      have hr (mode : Icmp.Mode) : ¬ k.Ready mode := by
        intro hr
        rw [hr.nonblocking] at hn
        cases hn
      have hg : ∃ mode, k.opening.Grants mode := ⟨mode, hm⟩
      simp [hg, hr]
  | @unsent mode f h hs =>
      have hg : ∃ mode, k.opening.Grants mode := ⟨mode, h.grants⟩
      have hr : ∃ mode, k.Ready mode := ⟨mode, h⟩
      simp only [List.mem_append, List.mem_cons, List.not_mem_nil, hg, hr, hs, reduceCtorEq, or_false,
        and_true, false_and, and_false, exists_false]
      tauto
  | @sent mode h hs =>
      have hg : ∃ mode, k.opening.Grants mode := ⟨mode, h.grants⟩
      have hone (other : Icmp.Mode) : k.Ready other ↔ other = mode :=
        ⟨fun ho => ho.grants.unique h.grants, fun ho => ho ▸ h⟩
      simp only [List.mem_append, List.mem_cons, List.not_mem_nil, hg, hs, hone, or_false, and_true,
        true_and, exists_eq, exists_eq_left]
      tauto

end Goes

end Request

end Ping

end HostProbe
