import PairChat.Host
import PairChat.Yaml.Reader
import PairChat.Yaml.Writer

/-!
# Documents in files

`load` is the value of the document in a file, and `save` writes a mapping to one.
-/

namespace PairChat.Yaml

open PairChat.Action
open Files (Path)

variable {ν : Type}

/-- The value of the document in a file, which has to be there. -/
def load (p : Path) : Action (Host ν) Value := do lift (read (← Host.textAt p))

/-- Write a mapping to a file. What cannot be written leaves an empty file. -/
def save (p : Path) (entries : List (Scalar × Value)) : Action (Host ν) Unit := do
  if (Value.map entries).fits then Host.writeFile p (write entries)
  else
    Host.writeFile p ""
    throw (.shape .value)

end PairChat.Yaml
