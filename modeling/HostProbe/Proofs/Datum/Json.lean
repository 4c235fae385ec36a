import HostProbe.Datum.Json.Reader
import HostProbe.Datum.Json.Writer
import HostProbe.Proofs.Text.Numeral

namespace HostProbe.Datum

mutual

def plain : Datum → Bool
  | .null => true
  | .bool _ => true
  | .int n => decide (0 ≤ n ∧ n < 0x10000000000000000)
  | .text _ => true
  | .list items => plainItems items
  | .record members => plainMembers members
  | .real _ => false
  | .unfit => false
  | .broken => false

def plainItems : List Datum → Bool
  | [] => true
  | d :: ds => plain d && plainItems ds

def plainMembers : List (Datum × Datum) → Bool
  | [] => true
  | (.text _, d) :: ds => plain d && plainMembers ds
  | _ :: _ => false

end

namespace Json

open Text

variable {rest : List Char} {fuel : Nat}

section Quoted

theorem hex4_hexPadded {n : Nat} (hn : n < 65536) (rest : List Char) :
    hex4 (hexPadded 4 n ++ rest) = some (n, rest) := by
  obtain ⟨ds, hd, hp⟩ := exists_pads (show 1 < 16 by decide) 4 n
  have hl := hp.length_eq (by decide) hn
  have hdigits := digits_map hp.digit (Nat.le_refl 16) rest
  rw [hl] at hdigits
  rw [hexPadded_eq, hd, ← hp.number]
  match ds, hl with
  | [a, b, c, d], _ => rw [hex4, hdigits]

theorem piece_escaped (c : Char) (rest : List Char) : piece (escaped c ++ rest) = (.char c, rest) := by
  unfold escaped
  split
  · next h => subst h; rfl
  split
  · next h => subst h; rfl
  split
  · next h => rw [← Char.ofNat_toNat c, h]; rfl
  split
  · next h => rw [← Char.ofNat_toNat c, h]; rfl
  split
  · next h => rw [← Char.ofNat_toNat c, h]; rfl
  split
  · next h => rw [← Char.ofNat_toNat c, h]; rfl
  split
  · next h => rw [← Char.ofNat_toNat c, h]; rfl
  split
  · next h =>
      have hh : isHigh c.toNat = false := decide_eq_false (by omega)
      have hl : isLow c.toNat = false := decide_eq_false (by omega)
      simp only [List.cons_append, piece, unicodePiece, hex4_hexPadded (show c.toNat < 65536 by omega),
        hh, hl, Bool.false_eq_true, if_false, Char.ofNat_toNat]
  · next hq hb _ _ _ _ _ hc =>
      rw [List.singleton_append, piece]
      · rw [if_neg hc]
      · exact hq
      · exact fun _ h _ => hb h
      · exact fun _ _ h _ => hb h

theorem quotedTail_flatMap {cs : List Char} (hf : cs.length < fuel) (sofar rest : List Char) :
    quotedTail fuel (some sofar) (cs.flatMap escaped ++ '"' :: rest) =
      (.text (String.ofList (sofar.reverse ++ cs)), rest) := by
  induction cs generalizing fuel sofar with
  | nil =>
      obtain ⟨fuel, rfl⟩ := Nat.exists_eq_add_of_lt hf
      rw [List.append_nil]
      rfl
  | cons c cs ih =>
      obtain ⟨fuel, rfl⟩ := Nat.exists_eq_succ_of_ne_zero (Nat.ne_zero_of_lt hf)
      rw [quotedTail, List.flatMap_cons, List.append_assoc, piece_escaped]
      dsimp only
      rw [Option.map_some, ih (Nat.lt_of_succ_lt_succ hf), List.reverse_cons, List.append_assoc]
      rfl

theorem quotedTail_quoted {s : String} (hf : s.length < fuel) (rest : List Char) :
    quotedTail fuel (some []) (s.toList.flatMap escaped ++ '"' :: rest) = (.text s, rest) := by
  rw [quotedTail_flatMap (by rwa [String.length_toList]), List.reverse_nil, List.nil_append,
    String.ofList_toList]

theorem length_quoted (s : String) : s.length + 2 ≤ (quoted s).length := by
  have hc (c : Char) : 1 ≤ (escaped c).length := by
    unfold escaped
    split_ifs
    all_goals exact Nat.succ_le_succ (Nat.zero_le _)
  have hl (cs : List Char) : cs.length ≤ (cs.flatMap escaped).length := by
    induction cs with
    | nil => exact Nat.le_refl 0
    | cons c cs ih =>
        rw [List.flatMap_cons, List.length_append, List.length_cons]
        have := hc c
        omega
  have := hl s.toList
  rw [quoted, List.length_cons, List.length_append, List.length_singleton]
  rw [String.length_toList] at this
  omega

end Quoted

def Ends (s : List Char) : Prop := ∀ c ∈ s.head?, c = ',' ∨ c = ']' ∨ c = '}'

theorem Ends.stops (h : Ends rest) : Stops 10 rest := by
  intro c hc
  rcases h c hc with rfl | rfl | rfl <;> rfl

theorem ends_comma (s : List Char) : Ends (',' :: s) := fun _ h => .inl (Option.some.inj h).symm

theorem numberTail_toDigits {n : Nat} (hn : n < 0x10000000000000000) (h : Ends rest) :
    numberTail false (Nat.toDigits 10 n ++ rest) = (.int n, rest) := by
  obtain ⟨ds, hs⟩ := exists_spells (show 1 < 10 by decide) n
  have hrun := hs.digitRun (by decide) h.stops
  have hint : integerOf false ds = .int n := by
    rw [integerOf, hs.number]
    exact if_neg (Nat.not_le.2 hn)
  have hfraction : fraction rest = some (none, rest) := by
    unfold fraction
    split
    · rcases h _ rfl with h | h | h <;> exact absurd h (by decide)
    · rfl
  have hexponent : exponent rest = some (none, rest) := by
    unfold exponent
    split
    · next e s =>
        rw [if_neg]
        rcases h e rfl with rfl | rfl | rfl <;> decide
    · rfl
  obtain ⟨d, tail, rfl, hz⟩ := hs.head
  rw [numberTail, hrun]
  split
  · next h => cases h
  · next h =>
      cases h
      cases hz rfl
  · next h =>
      cases h
      simp only [hfraction, hexponent, hint]

theorem value_digitChar (fuel : Nat) {d : Nat} (hd : d < 10) (s : List Char) :
    value (fuel + 1) (Nat.digitChar d :: s) = numberTail false (Nat.digitChar d :: s) := by
  interval_cases d <;> rfl

theorem value_toDigits (fuel : Nat) {n : Nat} (hn : n < 0x10000000000000000) (h : Ends rest) :
    value (fuel + 1) (Nat.toDigits 10 n ++ rest) = (.int n, rest) := by
  rw [← numberTail_toDigits hn h]
  obtain ⟨ds, hs⟩ := exists_spells (show 1 < 10 by decide) n
  obtain ⟨d, tail, rfl, _⟩ := hs.head
  rw [hs.chars]
  exact value_digitChar fuel (hs.digit d List.mem_cons_self) _

theorem exists_written {d : Datum} (h : d.plain = true) :
    ∃ c s, written d = c :: s ∧ isBlank c = false ∧ c ≠ ']' := by
  match d, h with
  | .null, _ => exact ⟨_, _, rfl, rfl, by decide⟩
  | .bool true, _ => exact ⟨_, _, rfl, rfl, by decide⟩
  | .bool false, _ => exact ⟨_, _, rfl, rfl, by decide⟩
  | .int n, h =>
      obtain ⟨ds, hs⟩ := exists_spells (show 1 < 10 by decide) n.natAbs
      obtain ⟨d, tail, rfl, _⟩ := hs.head
      have hd : d < 10 := hs.digit d List.mem_cons_self
      refine ⟨Nat.digitChar d, tail.map Nat.digitChar, ?_, ?_⟩
      · rw [written, integer, if_neg (Int.not_lt.2 (of_decide_eq_true h).1), hs.chars, List.map_cons]
      · interval_cases d <;> decide
  | .text s, _ => exact ⟨_, _, rfl, rfl, by decide⟩
  | .list [], _ => exact ⟨_, _, rfl, rfl, by decide⟩
  | .list (d :: ds), _ => exact ⟨_, _, rfl, rfl, by decide⟩
  | .record [], _ => exact ⟨_, _, rfl, rfl, by decide⟩
  | .record ((k, d) :: ms), _ => exact ⟨_, _, rfl, rfl, by decide⟩

def ReadsValues (fuel : Nat) : Prop := ∀ d, plain d = true → 2 * (written d).length ≤ fuel →
  ∀ rest, Ends rest → value fuel (written d ++ rest) = (d, rest)

def ReadsItems (fuel : Nat) : Prop := ∀ d ds, plain d = true → plainItems ds = true →
  2 * ((written d).length + (writtenItems ds).length) ≤ fuel →
  ∀ rest, items fuel (written d ++ (writtenItems ds ++ rest)) = (d :: ds, rest)

def ReadsMembers (fuel : Nat) : Prop := ∀ k d ms, plain d = true → plainMembers ms = true →
  2 * ((quoted k).length + (written d).length + (writtenMembers ms).length) ≤ fuel → ∀ rest,
    members fuel (quoted k ++ ':' :: (written d ++ (writtenMembers ms ++ rest))) =
      ((.text k, d) :: ms, rest)

theorem readsItems_succ (hv : ReadsValues fuel) (hi : ReadsItems fuel) : ReadsItems (fuel + 1) := by
  intro d ds hd hds hf rest
  cases ds with
  | nil =>
      have hr : Ends (writtenItems [] ++ rest) := fun c h => .inr (.inl (Option.some.inj h).symm)
      have hw : (writtenItems []).length = 1 := rfl
      rw [items, hv d hd (by omega) _ hr]
      rfl
  | cons d' ds =>
      rw [plainItems, Bool.and_eq_true] at hds
      have hr : Ends (writtenItems (d' :: ds) ++ rest) := ends_comma _
      have hw : (writtenItems (d' :: ds)).length =
          (written d').length + (writtenItems ds).length + 1 := by
        rw [writtenItems, List.length_cons, List.length_append]
      rw [items, hv d hd (by omega) _ hr]
      have htail := hi d' ds hds.1 hds.2 (by omega) rest
      rw [writtenItems, List.cons_append, List.append_assoc]
      change ((d :: (items fuel _).1), (items fuel _).2) = _
      rw [htail]

section Members

variable {k : String} {d : Datum} {s : List Char}

theorem members_quoted (hk : k.length < fuel) (hv : value fuel s = (d, '}' :: rest)) :
    members (fuel + 1) (quoted k ++ ':' :: s) = ([(.text k, d)], rest) := by
  have hcolon : skipBlanks (':' :: s) = ':' :: s := rfl
  have hclose : skipBlanks ('}' :: rest) = '}' :: rest := rfl
  have hopen (s : List Char) : skipBlanks ('"' :: s) = '"' :: s := rfl
  rw [quoted, List.cons_append, List.append_assoc, List.singleton_append, members]
  simp only [hopen, quotedTail_quoted hk, hcolon, hv, hclose]

theorem members_quoted_comma (hk : k.length < fuel) (hv : value fuel s = (d, ',' :: rest)) :
    members (fuel + 1) (quoted k ++ ':' :: s) =
      ((.text k, d) :: (members fuel rest).1, (members fuel rest).2) := by
  have hcolon : skipBlanks (':' :: s) = ':' :: s := rfl
  have hcomma : skipBlanks (',' :: rest) = ',' :: rest := rfl
  have hopen (s : List Char) : skipBlanks ('"' :: s) = '"' :: s := rfl
  rw [quoted, List.cons_append, List.append_assoc, List.singleton_append, members]
  simp only [hopen, quotedTail_quoted hk, hcolon, hv, hcomma]

end Members

theorem readsMembers_succ (hv : ReadsValues fuel) (hm : ReadsMembers fuel) :
    ReadsMembers (fuel + 1) := by
  intro k d ms hd hms hf rest
  have hk := length_quoted k
  match ms, hms with
  | [], _ =>
      have hr : Ends (writtenMembers [] ++ rest) := fun c h => .inr (.inr (Option.some.inj h).symm)
      have hw : (writtenMembers []).length = 1 := rfl
      exact members_quoted (by omega) (hv d hd (by omega) _ hr)
  | (.text k', d') :: ms, hms =>
      rw [plainMembers, Bool.and_eq_true] at hms
      have hr : Ends (writtenMembers ((.text k', d') :: ms) ++ rest) := ends_comma _
      have hw : (writtenMembers ((.text k', d') :: ms)).length =
          (quoted k').length + (written d').length + (writtenMembers ms).length + 2 := by
        simp only [writtenMembers, written, List.length_cons, List.length_append]
        omega
      have htail := hm k' d' ms hms.1 hms.2 (by omega) rest
      have hhead := hv d hd (by omega) _ hr
      rw [writtenMembers, written, List.cons_append, List.append_assoc, List.cons_append,
        List.append_assoc] at hhead ⊢
      rw [members_quoted_comma (by omega) hhead, htail]

theorem value_bracket {c : Char} (hb : isBlank c = false) (hc : c ≠ ']') (s : List Char) :
    value (fuel + 1) ('[' :: c :: s) =
      (.list (items fuel (c :: s)).1, (items fuel (c :: s)).2) := by
  have hs : skipBlanks (c :: s) = c :: s :=
    List.dropWhile_cons_of_neg (by rw [hb]; exact Bool.false_ne_true)
  have hopen : skipBlanks ('[' :: c :: s) = '[' :: c :: s := rfl
  rw [value, hopen]
  simp only [hs]
  split
  · next h => exact absurd (List.head_eq_of_cons_eq h) hc
  · rfl

theorem readsValues_succ (hi : ReadsItems fuel) (hm : ReadsMembers fuel) :
    ReadsValues (fuel + 1) := by
  intro d hd hf rest hr
  match d, hd with
  | .null, _ => rfl
  | .bool true, _ => rfl
  | .bool false, _ => rfl
  | .int n, hd =>
      obtain ⟨h0, hn⟩ := of_decide_eq_true hd
      obtain ⟨n, rfl⟩ := Int.eq_ofNat_of_zero_le h0
      rw [written, integer, if_neg (Int.not_lt.2 h0)]
      exact value_toDigits fuel (by omega) hr
  | .text s, _ =>
      have hl := length_quoted s
      rw [written] at hf ⊢
      have ht := quotedTail_quoted (show s.length < fuel by omega) rest
      rw [quoted, List.cons_append, List.append_assoc]
      exact ht
  | .list [], _ => rfl
  | .list (d :: ds), hd =>
      change (plain d && plainItems ds) = true at hd
      rw [Bool.and_eq_true] at hd
      have hw : (written (.list (d :: ds))).length =
          (written d).length + (writtenItems ds).length + 1 := by
        rw [written, List.length_cons, List.length_append]
      have hitems := hi d ds hd.1 hd.2 (by omega) rest
      obtain ⟨c, s, hs, hb, hc⟩ := exists_written hd.1
      rw [written, List.cons_append, List.append_assoc]
      rw [hs, List.cons_append] at hitems ⊢
      rw [value_bracket hb hc, hitems]
  | .record [], _ => rfl
  | .record ((.text k, d) :: ms), hd =>
      change (plain d && plainMembers ms) = true at hd
      rw [Bool.and_eq_true] at hd
      have hw : (written (.record ((.text k, d) :: ms))).length =
          (quoted k).length + (written d).length + (writtenMembers ms).length + 2 := by
        simp only [written, List.length_cons, List.length_append]
        omega
      have hmembers := hm k d ms hd.1 hd.2 (by omega) rest
      rw [written, written, List.cons_append, List.append_assoc, List.cons_append,
        List.append_assoc]
      change (Datum.record (members fuel (quoted k ++ _)).1, (members fuel (quoted k ++ _)).2) = _
      rw [hmembers]

theorem length_written_pos {d : Datum} (h : d.plain = true) : 0 < (written d).length := by
  obtain ⟨c, s, hs, _⟩ := exists_written h
  rw [hs]
  exact Nat.succ_pos _

theorem reads (fuel : Nat) : ReadsValues fuel ∧ ReadsItems fuel ∧ ReadsMembers fuel := by
  -- All three at once, as values, items and members are read by one another.
  induction fuel with
  | zero =>
      refine ⟨fun d hd hf => ?_, fun d ds hd _ hf => ?_, fun k d ms hd _ hf => ?_⟩
      all_goals
        have hpos := length_written_pos hd
        omega
  | succ fuel ih =>
      obtain ⟨hv, hi, hm⟩ := ih
      exact ⟨readsValues_succ hi hm, readsItems_succ hv hi, readsMembers_succ hv hm⟩

end Json

/-- What was written as JSON text reads back, and nothing is left over. -/
theorem ofJson_json {d : Datum} (h : d.plain = true) : ofJson d.json = (d, true) := by
  have hf : 2 * (Json.written d).length ≤ 2 * d.json.length + 1 := by
    rw [json, String.length_ofList]
    exact Nat.le_succ _
  have hv := (Json.reads _).1 d h hf [] nofun
  rw [List.append_nil] at hv
  rw [ofJson, json, String.toList_ofList, ← json, hv]
  rfl

end HostProbe.Datum
