import LspHost.World

/-!
# A client to try things on

General statements are applied to a concrete client where that shows that what they assume can hold.
`Config.sample` is the configuration of one, `World.sample` the world before it has done anything.
-/

namespace LspHost

/-- The standard server, and ordinary timeouts. -/
def Config.sample : Config where
  server := .standard
  timeouts := ⟨.whole 10, .whole 10, .whole 5⟩
  selector := []
  busyPolicy := .queue
  workspaceDir := .null
  language := .str "en"
  logLevel := "WARNING"

/-- A client whose servers follow these scripts. -/
def World.sample (scripts : List Script) : World :=
  .fresh [] ⟨"/", []⟩ scripts (.fresh .sample .standard none false) (.fresh .standard 80) (.empty 0)

end LspHost
