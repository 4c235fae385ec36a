namespace HostProbe

inductive Level where
  | debug
  | info
  | warn
deriving DecidableEq, Repr

structure Entry where
  level : Level
  text : String
deriving DecidableEq, Repr

def Entry.debug (text : String) : Entry := ⟨.debug, text⟩

def Entry.info (text : String) : Entry := ⟨.info, text⟩

def Entry.warn (text : String) : Entry := ⟨.warn, text⟩

end HostProbe
