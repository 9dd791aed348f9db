import BlockMarkup.Config.Checking
import BlockMarkup.Config.Lookup
import BlockMarkup.Yaml.Reading

/-!
# The usual reader

Configuration files as they are usually written, nested mappings and lists with values on one line, and the
check of every setting. Of all other files this reader says that they are malformed.
-/

namespace BlockMarkup.Config

open Text

/-- How many faults there are, and a line for each. -/
def describeFaults (faults : List Fault) : Text :=
  let noun : Text := if faults.length = 1 then " validation error" else " validation errors"
  unlines ((ofNat faults.length ++ noun ++ " for DsfrmarkConfig") :: faults.map Fault.message)

/-- What is said of a file that is written in an unusual way. -/
def unusual : Text := "this is no nesting of mappings and lists with a value on each line"

/-- The reader of the usual configuration files. -/
def usualReader : Reader (List Fault) where
  read t := (Yaml.read? t).elim (.malformed unusual) .value
  check es := ofValue (.map (es.map fun e => (.text e.1, e.2)))
  describe := describeFaults

end BlockMarkup.Config
