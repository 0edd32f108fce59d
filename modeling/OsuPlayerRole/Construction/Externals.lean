/-
This file gives the functions of other packages that the program calls.
-/
import OsuPlayerRole.Construction.Error
import OsuPlayerRole.Construction.Json

namespace OsuPlayerRole

/-- The engines are the float formatter, the regex crate, and the regex operator of the database. -/
structure Engines where
  showFloat : Json.F64 → String
  /-- The builder has the size limits of the source and yields the compiled matcher. -/
  regexBuild : String → Option (String → Bool)
  /-- The operator `~` takes the text and the pattern. -/
  pgRegex : String → String → Except DbError Bool

end OsuPlayerRole
