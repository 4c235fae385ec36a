import HostProbe.Datum.Toml.Reader
import HostProbe.Fault
import HostProbe.Settings

namespace HostProbe

inductive SettingsFile where
  | missing
  | unreadable (why : Fault)
  | contents (bytes : ByteArray)

inductive SettingsFailure where
  | unread (why : Fault)
  | parse
  | invalid (why : Refusal)
deriving DecidableEq, Repr

def SettingsFile.name : String := ".netprobe.toml"

/-- The failure's text. What is wrong with a text that holds no settings is not said. -/
def SettingsFailure.message? : SettingsFailure → Option String
  | .unread f => some ("Failed to read config file: " ++ f.text)
  | .parse => none
  | .invalid why => some ("Invalid configuration: " ++ why.message)

namespace Settings

def ofText? (s : String) : Option Settings :=
  match Datum.ofToml? s with
  | none => none
  | some d => (read true d).toOption

def load : SettingsFile → Except SettingsFailure Settings
  | .missing => .error (.unread (.number 2))
  | .unreadable f => .error (.unread f)
  | .contents bytes =>
    match String.fromUTF8? bytes with
    | none => .error (.unread (.custom .other "stream did not contain valid UTF-8"))
    | some text =>
      match ofText? text with
      | none => .error .parse
      | some s =>
        match s.validate with
        | .error why => .error (.invalid why)
        | .ok () => .ok s

def ofUser (file : SettingsFile) : Settings :=
  match load file with
  | .ok s => s
  | .error _ => builtin

end Settings

end HostProbe
