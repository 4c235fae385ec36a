import HostProbe.Proofs.Limit
import HostProbe.Proofs.Settings
import HostProbe.Proofs.Settings.Table
import HostProbe.Settings.File

namespace HostProbe

open Datum

def Timeout.InRange (seconds : Binary64) : Prop :=
  seconds.isFinite = true ∧ 0 < seconds.value ∧ seconds.value ≤ 300 * Binary64.one

theorem Timeout.refusal?_eq_none_iff_inRange {x : Binary64} :
    refusal? (of x) = none ↔ InRange x := by
  rw [refusal?_eq_none_iff]
  constructor
  · rintro ⟨t, ht⟩
    obtain ⟨hx, hpos, hle, _⟩ := of_eq_ok_iff.1 ht
    exact ⟨hx, hpos, hle⟩
  · rintro ⟨hx, hpos, hle⟩
    exact ⟨⟨x, admits_iff.2 ⟨hx, hpos, hle⟩⟩, of_eq_ok_iff.2 ⟨hx, hpos, hle, rfl⟩⟩

theorem PacketSize.refusal?_eq_none_iff_inRange {n : Nat} :
    refusal? (of n) = none ↔ 8 ≤ n ∧ n ≤ 1500 := by
  rw [refusal?_eq_none_iff]
  constructor
  · rintro ⟨s, hs⟩
    obtain ⟨hl, hm, _⟩ := of_eq_ok_iff.1 hs
    exact ⟨hl, hm⟩
  · rintro ⟨hl, hm⟩
    exact ⟨⟨n, hl, hm⟩, of_eq_ok_iff.2 ⟨hl, hm, rfl⟩⟩

theorem HopLimit.refusal?_eq_none_iff_inRange {n : Option Nat} :
    refusal? (ofOption n) = none ↔ ∀ hops, n = some hops → 1 ≤ hops ∧ hops ≤ 255 := by
  cases n with
  | none => exact iff_of_true rfl nofun
  | some hops =>
      rw [ofOption, refusal?_map, refusal?_eq_none_iff]
      constructor
      · rintro ⟨h, hh⟩ _ ⟨⟩
        obtain ⟨hl, hm, _⟩ := of_eq_ok_iff.1 hh
        exact ⟨hl, hm⟩
      · intro h
        obtain ⟨hl, hm⟩ := h hops rfl
        exact ⟨⟨hops, hl, hm⟩, of_eq_ok_iff.2 ⟨hl, hm, rfl⟩⟩

namespace Settings

variable {s : Settings}

structure InRange (s : Settings) : Prop where
  pingTimeout : Timeout.InRange s.ping.timeout
  packetSize : 8 ≤ s.ping.packetSize ∧ s.ping.packetSize ≤ 1500
  hopLimit : ∀ hops, s.ping.hopLimit = some hops → 1 ≤ hops ∧ hops ≤ 255
  scanTimeout : Timeout.InRange s.scan.timeout
  maxConcurrent : 1 ≤ s.scan.maxConcurrent

theorem validate_eq_ok_iff : s.validate = .ok () ↔ s.InRange := by
  have hchecks : s.validate = .ok () ↔ ∀ check ∈ s.pingChecks ++ s.scanChecks, check = none := by
    rw [← s.checked_validate.exists_eq_ok_iff]
    constructor
    · exact fun h => ⟨(), h⟩
    · rintro ⟨_, h⟩
      exact h
  simp only [pingChecks, Ping.limitChecks, scanChecks, scanTimeout, List.cons_append,
    List.nil_append, List.forall_mem_cons, Timeout.refusal?_eq_none_iff_inRange,
    PacketSize.refusal?_eq_none_iff_inRange, HopLimit.refusal?_eq_none_iff_inRange,
    Scan.concurrencyRefusal?_eq_none_iff] at hchecks
  rw [hchecks]
  constructor
  · rintro ⟨hping, hsize, hhops, hscan, hmax, _⟩
    exact ⟨hping, hsize, hhops, hscan, hmax⟩
  · rintro ⟨hping, hsize, hhops, hscan, hmax⟩
    exact ⟨hping, hsize, hhops, hscan, hmax, List.forall_mem_nil _⟩

end Settings

inductive SettingsFile.Gives : SettingsFile → Settings → Prop where
  | contents {text : String} {d : Datum} {s : Settings} (ht : Datum.ofToml? text = some d)
      (hs : s.Says d) (hr : s.InRange) : Gives (.contents text.toUTF8) s

/-- What goes wrong with a file: it cannot be read, its bytes are no text, the text holds no
settings, or these are not all in range. -/
inductive SettingsFile.Fails : SettingsFile → SettingsFailure → Prop where
  | missing : Fails .missing (.unread (.number 2))
  | unreadable (why : Fault) : Fails (.unreadable why) (.unread why)
  | notText {bytes : ByteArray} (h : ∀ text : String, bytes ≠ text.toUTF8) :
      Fails (.contents bytes) (.unread (.custom .other "stream did not contain valid UTF-8"))
  | unexpected {text : String} (h : ∀ d s, Datum.ofToml? text = some d → ¬ Settings.Says d s) :
      Fails (.contents text.toUTF8) .parse
  | outOfRange {text : String} {d : Datum} {s : Settings} {why : Refusal}
      (ht : Datum.ofToml? text = some d) (hs : s.Says d) (hw : s.validate = .error why) :
      Fails (.contents text.toUTF8) (.invalid why)

theorem fromUTF8?_eq_some_iff {bytes : ByteArray} {text : String} :
    String.fromUTF8? bytes = some text ↔ bytes = text.toUTF8 := by
  constructor
  · intro h
    unfold String.fromUTF8? at h
    split at h <;> cases h
    rfl
  · rintro rfl
    exact dif_pos text.isValidUTF8

namespace Settings

variable {s : Settings} {file : SettingsFile} {why : SettingsFailure}

theorem ofText?_eq_some_iff {text : String} :
    ofText? text = some s ↔ ∃ d, Datum.ofToml? text = some d ∧ Says d s := by
  rw [ofText?]
  split
  · next h => simp [h]
  · next d h =>
      have hread : (read true d).toOption = some s ↔ read true d = .ok s :=
        ⟨Reading.eq_ok_of_toOption, fun h => by rw [h]; rfl⟩
      rw [hread, read_eq_ok_iff (regular_of_toml h), h]
      simp

theorem load_eq_ok {text : String} (h : ofText? text = some s) (hv : s.validate = .ok ()) :
    load (.contents text.toUTF8) = .ok s := by
  simp only [load, fromUTF8?_eq_some_iff.2 rfl, h, hv]

theorem load_eq_invalid {text : String} {why : Refusal} (h : ofText? text = some s)
    (hv : s.validate = .error why) : load (.contents text.toUTF8) = .error (.invalid why) := by
  simp only [load, fromUTF8?_eq_some_iff.2 rfl, h, hv]

theorem load_of_gives (h : file.Gives s) : load file = .ok s := by
  obtain ⟨ht, hs, hr⟩ := h
  exact load_eq_ok (ofText?_eq_some_iff.2 ⟨_, ht, hs⟩) (validate_eq_ok_iff.2 hr)

theorem load_of_fails (h : file.Fails why) : load file = .error why := by
  cases h with
  | missing => rfl
  | unreadable f => rfl
  | @notText bytes h =>
      have hnone : String.fromUTF8? bytes = none :=
        Option.eq_none_iff_forall_ne_some.2 fun text he => h text (fromUTF8?_eq_some_iff.1 he)
      rw [load, hnone]
  | @unexpected text h =>
      have hnone : ofText? text = none := by
        refine Option.eq_none_iff_forall_ne_some.2 fun s he => ?_
        obtain ⟨d, ht, hs⟩ := ofText?_eq_some_iff.1 he
        exact h d s ht hs
      simp only [load, fromUTF8?_eq_some_iff.2 rfl, hnone]
  | outOfRange ht hs hw => exact load_eq_invalid (ofText?_eq_some_iff.2 ⟨_, ht, hs⟩) hw

/-- There is no third way, so both determine what is loaded. -/
theorem gives_or_fails (file : SettingsFile) : (∃ s, file.Gives s) ∨ ∃ why, file.Fails why := by
  cases file with
  | missing => exact .inr ⟨_, .missing⟩
  | unreadable f => exact .inr ⟨_, .unreadable f⟩
  | contents bytes =>
      cases hb : String.fromUTF8? bytes with
      | none =>
          refine .inr ⟨_, .notText fun text he => ?_⟩
          rw [fromUTF8?_eq_some_iff.2 he] at hb
          cases hb
      | some text =>
          rw [fromUTF8?_eq_some_iff.1 hb]
          by_cases hsays : ∃ d s, Datum.ofToml? text = some d ∧ Says d s
          · obtain ⟨d, s, ht, hs⟩ := hsays
            cases hv : s.validate with
            | error why => exact .inr ⟨_, .outOfRange ht hs hv⟩
            | ok _ => exact .inl ⟨s, .contents ht hs (validate_eq_ok_iff.1 hv)⟩
          · exact .inr ⟨_, .unexpected fun d s ht hs => hsays ⟨d, s, ht, hs⟩⟩

theorem load_eq_ok_iff : load file = .ok s ↔ file.Gives s := by
  constructor
  · intro h
    rcases gives_or_fails file with ⟨s', hs⟩ | ⟨why, hw⟩
    · cases h.symm.trans (load_of_gives hs)
      exact hs
    · cases h.symm.trans (load_of_fails hw)
  · exact load_of_gives

theorem load_eq_error_iff : load file = .error why ↔ file.Fails why := by
  constructor
  · intro h
    rcases gives_or_fails file with ⟨s, hs⟩ | ⟨why', hw⟩
    · cases h.symm.trans (load_of_gives hs)
    · cases h.symm.trans (load_of_fails hw)
      exact hw
  · exact load_of_fails

theorem ofUser_of_gives (h : file.Gives s) : ofUser file = s := by
  rw [ofUser, load_of_gives h]

theorem ofUser_of_fails (h : file.Fails why) : ofUser file = builtin := by
  rw [ofUser, load_of_fails h]

theorem inRange_of_gives (h : file.Gives s) : s.InRange := by
  cases h
  assumption

theorem validate_builtin : builtin.validate = .ok () := by decide +kernel

theorem validate_ofUser (file : SettingsFile) : (ofUser file).validate = .ok () := by
  rcases gives_or_fails file with ⟨s, hs⟩ | ⟨why, hw⟩
  · rw [ofUser_of_gives hs]
    exact validate_eq_ok_iff.2 (inRange_of_gives hs)
  · rw [ofUser_of_fails hw]
    exact validate_builtin

/-- A file is loaded just if it gives settings that are all in range, and these are then what it
says; any other is not used at all. -/
theorem load_all_or_nothing (file : SettingsFile) :
    (∀ s, load file = .ok s ↔ file.Gives s) ∧
    (∀ why, load file = .error why ↔ file.Fails why) ∧
    (∀ s, file.Gives s → ofUser file = s) ∧
    (∀ why, file.Fails why → ofUser file = builtin) ∧
    (∀ s, load file = .ok s → s.validate = .ok ()) ∧
    (ofUser file).validate = .ok () ∧
    ∀ s : Settings, s.validate = .ok () ↔ s.InRange :=
  ⟨fun _ => load_eq_ok_iff, fun _ => load_eq_error_iff, fun _ => ofUser_of_gives,
    fun _ => ofUser_of_fails,
    fun _ h => validate_eq_ok_iff.2 (inRange_of_gives (load_eq_ok_iff.1 h)),
    validate_ofUser file, fun _ => validate_eq_ok_iff⟩

/-- Of two files with the same setting, the second adds one that is out of range and loses both. -/
theorem load_all_or_nothing_spoilt :
    SettingsFile.Gives (.contents "[ping]\ntimeout = 5\ncolour = [1, 2]\n".toUTF8)
      (builtin.withPingTimeout (Binary64.ofNat 5)) ∧
    SettingsFile.Fails (.contents "ping.timeout = 5\nscan.max_concurrent = 0".toUTF8)
      (.invalid (.concurrency 0)) ∧
    ofUser (.contents "ping.timeout = 5\nscan.max_concurrent = 0".toUTF8) = builtin := by
  have hgives : ofText? "[ping]\ntimeout = 5\ncolour = [1, 2]\n" =
      some (builtin.withPingTimeout (Binary64.ofNat 5)) := by decide +kernel
  have hfails : ofText? "ping.timeout = 5\nscan.max_concurrent = 0" =
      some ((builtin.withPingTimeout (Binary64.ofNat 5)).withMaxConcurrent 0) := by decide +kernel
  obtain ⟨hok, -⟩ := load_all_or_nothing
    (.contents "[ping]\ntimeout = 5\ncolour = [1, 2]\n".toUTF8)
  obtain ⟨-, herror, -, hbuiltin, -⟩ := load_all_or_nothing
    (.contents "ping.timeout = 5\nscan.max_concurrent = 0".toUTF8)
  have hrange : ((builtin.withPingTimeout (Binary64.ofNat 5)).withMaxConcurrent 0).validate =
      .error (.concurrency 0) := by decide +kernel
  have hspoilt := (herror _).1 (load_eq_invalid hfails hrange)
  exact ⟨(hok _).1 (load_eq_ok hgives (by decide +kernel)), hspoilt, hbuiltin _ hspoilt⟩

end Settings

end HostProbe
